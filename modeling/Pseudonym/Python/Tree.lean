import Pseudonym.Python.Token

/-!
# Trees of Python programs

A node has a label, a range in the source text, and parts. Each part plays a role: the value of an
attribute access, a decorator of a function, a statement of a body. Parts stand in the order in
which a traversal meets them.
-/

namespace Pseudonym.Python

/-! ## Labels -/

/-- What happens to a name, an attribute or an item. -/
inductive Context where
  | load
  | store
  | delete
  /-- Bound by an assignment inside an expression. -/
  | walrus
deriving DecidableEq, Repr, Inhabited

/-- A literal value. -/
inductive Constant where
  | none
  | bool (value : Bool)
  | ellipsis
  /-- A text; `marked` if its literal starts with the letter `u`. -/
  | text (value : String) (marked : Bool)
  | bytes (value : List UInt8)
  | int (value : Nat)
  /-- A floating-point number by its shortest text. -/
  | float (text : String)
  /-- An imaginary number by the shortest text of its factor. -/
  | imaginary (text : String)
deriving DecidableEq, Repr, Inhabited

/-- Operators with two operands. -/
inductive BinaryOp where
  | add | sub | mult | matMult | div | floorDiv | mod | pow
  | leftShift | rightShift | bitOr | bitXor | bitAnd
deriving DecidableEq, Repr, Inhabited

/-- Operators with one operand. -/
inductive UnaryOp where
  | plus | minus | invert | logicalNot
deriving DecidableEq, Repr, Inhabited

/-- Comparisons. -/
inductive CompareOp where
  | eq | notEq | lt | le | gt | ge | is | isNot | isIn | notIn
deriving DecidableEq, Repr, Inhabited

/-- How arguments reach a parameter. -/
inductive ParameterKind where
  | positionOnly
  | regular
  | variadic
  | keywordOnly
  | keywordVariadic
deriving DecidableEq, Repr, Inhabited

/-- The sort of a comprehension. -/
inductive ComprehensionKind where
  | list | set | dict | generator
deriving DecidableEq, Repr, Inhabited

/-- The label of a node. -/
inductive Label where
  -- expressions
  | name (id : String) (context : Context)
  | attribute (name : String) (context : Context)
  | subscript (context : Context)
  | starred (context : Context)
  | call
  | constant (value : Constant)
  | joinedText
  | formattedValue (conversion : Option Char)
  | tuple (context : Context)
  | list (context : Context)
  | set
  | dict
  | unary (op : UnaryOp)
  | binary (op : BinaryOp)
  | conjunction
  | disjunction
  | compare (ops : List CompareOp)
  | conditional
  | lambda
  | await
  | yield
  | yieldFrom
  | walrus
  | slice
  | comprehension (kind : ComprehensionKind)
  -- parts of expressions and definitions
  | clause (isAsync : Bool)
  | keyword (name : Option String)
  | parameter (name : String) (kind : ParameterKind) (hasDefault : Bool)
  -- statements
  | functionDef (name : String) (isAsync : Bool)
  | classDef (name : String)
  | returnStatement
  | deletion
  | assignment
  | augmentedAssignment (op : BinaryOp)
  | annotatedAssignment (simple : Bool)
  | forLoop (isAsync : Bool)
  | whileLoop
  | branch
  | withBlock (isAsync : Bool)
  | withItem
  | matchBlock
  | matchCase
  | raise
  | tryBlock (grouped : Bool)
  | handler (name : Option String)
  | assertion
  | importModules
  | importFrom (module : Option String) (level : Nat)
  | importedName (name : String) (asName : Option String)
  | globalNames (names : List String)
  | nonlocalNames (names : List String)
  | expression
  | pass
  | breakLoop
  | continueLoop
  -- patterns
  | matchValue
  | matchSingleton (value : Constant)
  | matchSequence
  | matchMapping (rest : Option String)
  | matchClass (keywords : List String)
  | matchStar (name : Option String)
  | matchAs (name : Option String)
  | matchOr
  -- the whole
  | module
deriving DecidableEq, Repr, Inhabited

/-- The role of a part in its node. -/
inductive Role where
  | value | target | key | spread | element | left | right | operand | comparator
  | test | body | orelse | final | function | argument | keyword | index | lower | upper | step
  | generator | iterable | condition | format | parameter | default | keywordDefault | decorator
  | returns | hint | base | item | context | variable | handler | exception | cause | message
  | subject | case | pattern | guard | type | keywordPattern | importedName
deriving DecidableEq, Repr, Inhabited

/-! ## Nodes -/

/-- A node with its parts. -/
inductive Tree where
  | node (label : Label) (range : Range) (parts : List (Role × Tree))
deriving Repr, Inhabited

namespace Tree

/-- The label of a node. -/
def label : Tree → Label
  | .node l _ _ => l

/-- The range of a node. -/
def range : Tree → Range
  | .node _ r _ => r

/-- The parts of a node with their roles. -/
def parts : Tree → List (Role × Tree)
  | .node _ _ ps => ps

/-- The parts of a node. -/
def children (t : Tree) : List Tree := t.parts.map (·.2)

/-- The parts in one role. -/
def all (t : Tree) (role : Role) : List Tree := (t.parts.filter (·.1 = role)).map (·.2)

/-- The first part in one role. -/
def get? (t : Tree) (role : Role) : Option Tree := (t.parts.find? (·.1 = role)).map (·.2)

/-- The line on which a node starts. -/
def line (t : Tree) : Nat := t.range.start.line

/-- A part is smaller than its node. -/
theorem sizeOf_lt_of_mem_parts {t : Tree} {p : Role × Tree} (h : p ∈ t.parts) :
    sizeOf p.2 < sizeOf t := by
  cases t with
  | node l r ps =>
    have h1 : sizeOf p < sizeOf ps := List.sizeOf_lt_of_mem h
    have h2 : sizeOf p.2 < sizeOf p := by
      cases p with
      | mk a b => simp only [Prod.mk.sizeOf_spec]; omega
    simp only [node.sizeOf_spec]
    omega

theorem sizeOf_lt_of_get? {t u : Tree} {role : Role} (h : t.get? role = some u) :
    sizeOf u < sizeOf t := by
  unfold get? at h
  cases hp : t.parts.find? (·.1 = role) with
  | none => simp [hp] at h
  | some p =>
    simp [hp] at h
    exact h ▸ sizeOf_lt_of_mem_parts (List.mem_of_find?_eq_some hp)

theorem sizeOf_lt_of_mem_children {t u : Tree} (h : u ∈ t.children) : sizeOf u < sizeOf t := by
  obtain ⟨p, hp, rfl⟩ := List.mem_map.1 h
  exact sizeOf_lt_of_mem_parts hp

theorem sizeOf_lt_of_mem_all {t u : Tree} {role : Role} (h : u ∈ t.all role) :
    sizeOf u < sizeOf t := by
  obtain ⟨p, hp, rfl⟩ := List.mem_map.1 h
  exact sizeOf_lt_of_mem_parts (List.mem_filter.1 hp).1

end Tree

end Pseudonym.Python
