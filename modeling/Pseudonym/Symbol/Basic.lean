import Pseudonym.Files.Path
import Pseudonym.Symbol.Kind
import Pseudonym.Text.Quoted

/-!
# Symbols and scopes

A symbol is one declared name with all its occurrences; a scope is a lexical region that binds
names. Both are known by their ids: relations between them are kept in the graph.
-/

namespace Pseudonym

open Files

/-- The id of a symbol. -/
abbrev SymbolId := String

/-- The id of a scope. -/
abbrev ScopeId := String

/-! ## Occurrences -/

/-- Where a name is written: lines count from one, columns from zero, in characters. -/
structure Span where
  file : Path
  line : Nat
  column : Nat
  endColumn : Nat
deriving DecidableEq, Repr, Inhabited

/-- Why numbers are no span. -/
inductive SpanError where
  | line (line : Int)
  | columns (column endColumn : Int)
deriving DecidableEq, Repr

/-- The text of a refusal. -/
def SpanError.message : SpanError → String
  | .line n => s!"Invalid line: {n}. Lines are 1-based"
  | .columns a b => s!"Invalid columns: {a}..{b}"

/-- The span that numbers describe. -/
def Span.make (file : Path) (line column endColumn : Int) : Except SpanError Span :=
  if line < 1 then .error (.line line)
  else if column < 0 ∨ endColumn < column then .error (.columns column endColumn)
  else .ok ⟨file, line.toNat, column.toNat, endColumn.toNat⟩

/-- A use of a symbol. -/
structure Reference where
  span : Span
  /-- The scope from which the name is resolved; none for an attribute access. -/
  scope : Option ScopeId := none
  /-- Whether the use also binds the name in that scope. -/
  binds : Bool := false
deriving DecidableEq, Repr, Inhabited

/-! ## Symbols -/

/-- A declared name. -/
structure Symbol where
  id : SymbolId
  /-- The current name. -/
  name : String
  kind : SymbolKind
  visibility : Visibility := .pub
  /-- The name under which the symbol was declared. -/
  declaredName : String := name
  /-- The dotted name by which markers refer to it. -/
  qualname : String := name
  scope : Option ScopeId := none
  file : Option Path := none
  declaration : Option Span := none
  references : List Reference := []
  /-- Qualified names of decorators; `none` is one that could not be resolved. -/
  markers : List (Option String) := []
  /-- The explicit parameters of a method. -/
  parameters : List SymbolId := []
  parameterTypes : List String := []
  isOverride : Bool := false
  isConstructor : Bool := false
  isSynthesized : Bool := false
  isTypeParameter : Bool := false
  isPhysical : Bool := true
  isCanonical : Bool := true
  isConstant : Bool := false
  isLocal : Bool := false
  isField : Bool := false
  isDefaultMethod : Bool := false
  isDynamic : Bool := false
  /-- The text of the literal a constant is bound to, when it may be put in its place. -/
  literal : Option String := none
  /-- The first and last line of the declaring statement. -/
  statementLines : Option (Int × Int) := none
deriving DecidableEq, Repr, Inhabited

namespace Symbol

/-- Whether the symbol has a name other than the declared one. -/
def isRenamed (s : Symbol) : Bool := s.name ≠ s.declaredName

/-- All occurrences, the declaration first. -/
def spans (s : Symbol) : List Span := s.declaration.toList ++ s.references.map (·.span)

/-- Records a use, unless its place is known already. -/
def addReference (s : Symbol) (r : Reference) : Symbol :=
  if s.declaration = some r.span ∨ s.references.any (·.span = r.span) then s
  else { s with references := s.references ++ [r] }

/-- The scopes in which the symbol is bound: its own, then those that import it. -/
def bindingScopes (s : Symbol) : List ScopeId :=
  s.references.foldl
    (fun scopes r =>
      match r.scope with
      | some scope => if r.binds ∧ scope ∉ scopes then scopes ++ [scope] else scopes
      | none => scopes)
    s.scope.toList

/-- A short description: kind, id and current name. -/
def describe (s : Symbol) : String :=
  let id := Text.quoted s.id
  let name := Text.quoted s.name
  s!"Symbol({s.kind.word} {id} name={name})"

/-- What tells overloads apart: the count of parameters and their types. -/
def signature (s : Symbol) : Nat × List String := (s.parameters.length, s.parameterTypes)

end Symbol

/-! ## Scopes -/

/-- The kind of a scope. An external scope stands for code that is not read. -/
inductive ScopeKind where
  | module
  | type
  | function
  | external
deriving DecidableEq, Repr, Inhabited

namespace ScopeKind

/-- All kinds. -/
def all : List ScopeKind := [.module, .type, .function, .external]

/-- The word for a kind. -/
def word : ScopeKind → String
  | .module => "module"
  | .type => "class"
  | .function => "function"
  | .external => "external"

/-- The kind that a word names. -/
def ofWord? (s : String) : Option ScopeKind := all.find? (·.word = s)

end ScopeKind

/-- A lexical scope. -/
structure Scope where
  id : ScopeId
  kind : ScopeKind
  parent : Option ScopeId := none
  /-- The class or function whose body the scope is. -/
  owner : Option SymbolId := none
  file : Option Path := none
  /-- Names read here that resolve to no symbol. -/
  unresolved : List String := []
  /-- Symbols bound here by an import. -/
  imported : List SymbolId := []
deriving DecidableEq, Repr, Inhabited

end Pseudonym
