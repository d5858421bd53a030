import Pseudonym.Python.Tree

/-!
# Walks through the scopes of a program

A function, a class, an anonymous function and a comprehension each open a scope. Some of their
parts are evaluated in the scope around them (`outerParts`), the others in their own (`innerParts`).
`walk` meets the nodes of one scope: it meets a node that opens a scope, but enters only its outer
parts.
-/

namespace Pseudonym.Python

namespace Tree

/-! ## Nodes that open scopes -/

/-- Whether a node is a function with a name. -/
def isFunction (t : Tree) : Bool :=
  match t.label with
  | .functionDef .. => true
  | _ => false

/-- Whether a node is a class. -/
def isClass (t : Tree) : Bool :=
  match t.label with
  | .classDef _ => true
  | _ => false

/-- Whether a node is a comprehension. -/
def isComprehension (t : Tree) : Bool :=
  match t.label with
  | .comprehension _ => true
  | _ => false

/-- Whether a node opens a scope. -/
def opensScope (t : Tree) : Bool :=
  match t.label with
  | .functionDef .. | .classDef _ | .lambda | .comprehension _ => true
  | _ => false

/-- The parts of a node that opens a scope which are evaluated in the scope around it. -/
def outerParts (t : Tree) : List Tree :=
  match t.label with
  | .functionDef .. =>
    t.all .decorator ++ t.all .default ++ t.all .keywordDefault ++
      (t.all .parameter).flatMap (·.all .hint) ++ t.all .returns
  | .classDef _ => t.all .decorator ++ t.all .base ++ (t.all .keyword).flatMap (·.all .value)
  | .lambda => t.all .default ++ t.all .keywordDefault
  | .comprehension _ => ((t.all .generator).take 1).flatMap (·.all .iterable)
  | _ => []

/-- The parts of a node that opens a scope which are evaluated in that scope. -/
def innerParts (t : Tree) : List Tree :=
  match t.label with
  | .functionDef .. | .classDef _ | .lambda => t.all .body
  | .comprehension _ =>
    let first := (t.all .generator).take 1
    let others := (t.all .generator).drop 1
    first.flatMap (fun c => c.all .target ++ c.all .condition) ++
      others.flatMap (fun c => c.all .target ++ c.all .iterable ++ c.all .condition) ++
      (t.all .key ++ t.all .value ++ t.all .element)
  | _ => []

/-- The parts of a node that a walk through its scope goes on to. -/
def nextParts (t : Tree) : List Tree := if t.opensScope then t.outerParts else t.children

/-- The parts that a walk goes on to are smaller than their node. -/
theorem sizeOf_lt_of_mem_nextParts {t u : Tree} (h : u ∈ t.nextParts) : sizeOf u < sizeOf t := by
  have nested : ∀ (role inner : Role) (us : List Tree), (∀ v ∈ us, v ∈ t.all role) →
      u ∈ us.flatMap (·.all inner) → sizeOf u < sizeOf t := by
    intro role inner us hus hu
    obtain ⟨v, hv, huv⟩ := List.mem_flatMap.1 hu
    exact Nat.lt_trans (sizeOf_lt_of_mem_all huv) (sizeOf_lt_of_mem_all (hus v hv))
  unfold nextParts at h
  split at h
  · unfold outerParts at h
    split at h
    · simp only [List.mem_append] at h
      rcases h with (((h | h) | h) | h) | h
      · exact sizeOf_lt_of_mem_all h
      · exact sizeOf_lt_of_mem_all h
      · exact sizeOf_lt_of_mem_all h
      · exact nested .parameter .hint _ (fun _ hv => hv) h
      · exact sizeOf_lt_of_mem_all h
    · simp only [List.mem_append] at h
      rcases h with (h | h) | h
      · exact sizeOf_lt_of_mem_all h
      · exact sizeOf_lt_of_mem_all h
      · exact nested .keyword .value _ (fun _ hv => hv) h
    · simp only [List.mem_append] at h
      rcases h with h | h <;> exact sizeOf_lt_of_mem_all h
    · exact nested .generator .iterable _ (fun _ hv => List.mem_of_mem_take hv) h
    · simp at h
  · exact sizeOf_lt_of_mem_children h

/-- The count of nodes. -/
def size (t : Tree) : Nat := t.children.attach.foldr (fun ⟨u, _⟩ n => u.size + n) 1
termination_by sizeOf t
decreasing_by exact sizeOf_lt_of_mem_children (by assumption)

end Tree

/-! ## Walks -/

/-- A node met on a walk, and whether a formatted string stands around it. -/
structure Visit where
  node : Tree
  inText : Bool
deriving Repr, Inhabited

/-- The nodes of one scope from a node on, each before its parts. -/
def walk (inText : Bool) (t : Tree) : List Visit :=
  ⟨t, inText⟩ :: t.nextParts.attach.flatMap fun ⟨u, _⟩ =>
    walk (inText || t.label = .joinedText) u
termination_by sizeOf t
decreasing_by exact Tree.sizeOf_lt_of_mem_nextParts (by assumption)

/-- The nodes of a scope that holds some trees. -/
def walkAll (inText : Bool) (ts : List Tree) : List Visit := ts.flatMap (walk inText)

/-- All nodes from a node on, but nothing inside a class. -/
def walkOutsideClasses (t : Tree) : List Tree :=
  t :: if t.isClass then [] else t.children.attach.flatMap fun ⟨u, _⟩ => walkOutsideClasses u
termination_by sizeOf t
decreasing_by exact Tree.sizeOf_lt_of_mem_children (by assumption)

/-! ## Bodies -/

/-- Whether a statement is a text alone, which documents the body that it opens. -/
def Tree.isText (t : Tree) : Bool :=
  match t.label, t.get? .value with
  | .expression, some v =>
    match v.label with
    | .constant (.text ..) => true
    | _ => false
  | _, _ => false

/-- A body without the text that documents it. -/
def undocumented : List Tree → List Tree
  | [] => []
  | t :: rest => if t.isText then rest else t :: rest

/-- Whether a statement does nothing: `pass`, `...`, or raising `NotImplementedError`. -/
def Tree.isPlaceholder (t : Tree) : Bool :=
  match t.label with
  | .pass => true
  | .expression => ((t.get? .value).map (·.label)) = some (.constant .ellipsis)
  | .raise =>
    match t.get? .exception with
    | none => false
    | some e =>
      let raised := if e.label = .call then (e.get? .function).getD e else e
      match raised.label with
      | .name "NotImplementedError" _ => true
      | _ => false
  | _ => false

/-- Whether a function has no body of its own. -/
def Tree.isStub (t : Tree) : Bool := (undocumented (t.all .body)).all Tree.isPlaceholder

/-- Whether a decorator makes a function one without a receiver. -/
def Tree.isStatic (t : Tree) : Bool :=
  (t.all .decorator).any fun d =>
    match d.label with
    | .name "staticmethod" _ => true
    | .attribute "staticmethod" _ => true
    | _ => false

end Pseudonym.Python
