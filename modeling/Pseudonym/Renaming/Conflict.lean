import Pseudonym.Graph.Hierarchy
import Pseudonym.Renaming.Plan

/-!
# Conflicts of a rename plan

A plan is refused when a new name would meet another one:

* in the scope of its symbol, declared or imported;
* for a local symbol, anywhere in its outermost function;
* where a reference would be captured by the new binding, or a reference of the renamed symbol be
  caught by an inner one;
* elsewhere in the class hierarchy;
* in the plan itself.

Symbols of the plan are never in the way: they are about to change their names.
-/

namespace Pseudonym

/-! ## Reports -/

/-- The kind of a conflict. -/
inductive ConflictKind where
  | sameScope
  | localVariable
  | capture
  | shadowedReference
  | methodSignature
  | hierarchy
  | duplicateInPlan
deriving DecidableEq, Repr, Inhabited

/-- The word for a kind. -/
def ConflictKind.word : ConflictKind → String
  | .sameScope => "same_scope"
  | .localVariable => "local_variable"
  | .capture => "capture"
  | .shadowedReference => "shadowed_reference"
  | .methodSignature => "method_signature"
  | .hierarchy => "hierarchy"
  | .duplicateInPlan => "duplicate_in_plan"

/-- Why a symbol cannot take its new name. -/
structure Conflict where
  kind : ConflictKind
  symbol : SymbolId
  name : String
  other : Option SymbolId := none
  detail : String := ""
deriving DecidableEq, Repr, Inhabited

/-- The text of a conflict; the symbol appears under its current name. -/
def Conflict.text (g : Graph) (c : Conflict) : String :=
  let other := match c.other with
    | some id => s!" (with {id})"
    | none => ""
  let detail := if c.detail = "" then "" else s!": {c.detail}"
  s!"{c.kind.word}: {g.nameOf c.symbol} -> {c.name}{other}{detail}"

namespace Graph

/-! ## Overloads -/

/-- Whether two methods may share a name because their signatures differ. -/
def mayOverload (overloading : Bool) (a b : Symbol) : Bool :=
  overloading && a.kind = .method && b.kind = .method && a.signature ≠ b.signature

/-! ## Conflicts of one rename

`planned` lists the symbols of the plan. -/

/-- Declared names in the scope of the symbol. -/
def scopeConflicts (g : Graph) (overloading : Bool) (planned : List SymbolId) (s : Symbol)
    (name : String) : List Conflict :=
  match s.scope with
  | none => []
  | some scope =>
    (g.membersOfScope scope).filterMap fun other =>
      if other.name ≠ name ∨ other.id ∈ planned ∨ mayOverload overloading s other then none
      else
        let kind := if s.kind = .method ∧ other.kind = .method then .methodSignature
          else .sameScope
        some ⟨kind, s.id, name, some other.id, ""⟩

/-- Imported names in the scope of the symbol. -/
def importConflicts (g : Graph) (planned : List SymbolId) (s : Symbol) (name : String) :
    List Conflict :=
  match s.scope with
  | none => []
  | some scope =>
    match g.lookup scope name with
    | some other =>
      if other.id ∈ planned ∨ other.scope = some scope then []
      else [⟨.sameScope, s.id, name, some other.id, "imported name"⟩]
    | none => []

/-- Names anywhere in the outermost function around a local symbol. -/
def localConflicts (g : Graph) (planned : List SymbolId) (s : Symbol) (name : String) :
    List Conflict :=
  match s.isLocal, s.scope.bind g.rootFunctionScope with
  | true, some root =>
    (g.descendantScopes root.id).flatMap fun scope =>
      (g.membersOfScope scope.id).filterMap fun other =>
        if other.name = name ∧ other.id ∉ planned ∧ other.scope ≠ s.scope then
          some ⟨.localVariable, s.id, name, some other.id, ""⟩
        else none
  | _, _ => []

/-- The scopes from which a binding made in a scope is seen: a class body is seen from itself
only. -/
def visibleRegion (g : Graph) (id : ScopeId) : List ScopeId :=
  match g.scope? id with
  | none => []
  | some scope =>
    if scope.kind = .type then [id] else (g.descendantScopes id).map (·.id)

/-- The first use of a symbol from a region. -/
def referenceWithin? (region : List ScopeId) (s : Symbol) : Option Reference :=
  s.references.find? fun r => match r.scope with
    | some scope => region.contains scope
    | none => false

/-- Reads that a binding in one region would take over: an unresolved name, or references of
symbols declared outside the region. -/
def capturesIn (g : Graph) (planned : List SymbolId) (s : Symbol) (name : String)
    (region : List ScopeId) : List Conflict :=
  let hidden := region.find? fun id =>
    ((g.scope? id).map fun scope => scope.unresolved.contains name).getD false
  (match hidden with
    | some id => [⟨.capture, s.id, name, none, s!"would hide '{name}' read in {id}"⟩]
    | none => []) ++
  (g.symbolsNamed name).filterMap fun other =>
    if other.id ∈ planned ∨ (other.scope.map region.contains).getD false then none
    else (referenceWithin? region other).map fun r =>
      ⟨.capture, s.id, name, some other.id,
        s!"would capture reference at line {r.span.line}"⟩

/-- Reads that the new binding would take over, for each scope that binds the symbol. -/
def captureConflicts (g : Graph) (planned : List SymbolId) (s : Symbol) (name : String) :
    List Conflict :=
  s.bindingScopes.flatMap fun id => g.capturesIn planned s name (g.visibleRegion id)

/-- The references of a symbol from different scopes: the first one for each. -/
def firstReferences (s : Symbol) : List (Reference × ScopeId) :=
  s.references.foldl
    (fun done r => match r.scope with
      | some scope => if done.any (·.2 = scope) then done else done ++ [(r, scope)]
      | none => done)
    []

/-- The scopes that a look-up passes before it comes to a scope: first its own, then those around
it except class bodies. -/
def scopesBefore (g : Graph) (start : ScopeId) (stop : Option ScopeId) : List Scope :=
  match g.scope? start with
  | none => []
  | some first =>
    ((first :: g.ancestors start).takeWhile fun s => some s.id ≠ stop).filter fun s =>
      s.id = first.id ∨ s.kind ≠ .type

/-- References of the symbol that an inner binding of the new name would catch. -/
def shadowConflicts (g : Graph) (planned : List SymbolId) (s : Symbol) (name : String) :
    List Conflict :=
  (firstReferences s).filterMap fun (r, start) =>
    (g.scopesBefore start s.scope).findSome? fun scope =>
      match g.lookup scope.id name with
      | some other =>
        if other.id ∈ planned then none
        else some ⟨.shadowedReference, s.id, name, some other.id,
          s!"reference at line {r.span.line} would resolve to it"⟩
      | none => none

/-- Members of the new name in the super- and subtypes of the declaring class. -/
def hierarchyConflicts (g : Graph) (overloading : Bool) (planned : List SymbolId) (s : Symbol)
    (name : String) : List Conflict :=
  match g.declaringType s with
  | none => []
  | some owner =>
    (g.allSupertypes owner.id ++ g.allSubtypes owner.id).flatMap fun related =>
      (g.members related).filterMap fun m =>
        if m.name ≠ name ∨ m.id ∈ planned ∨ mayOverload overloading s m then none
        else some ⟨.hierarchy, s.id, name, some m.id, s!"member of {g.nameOf related}"⟩

/-- All conflicts of one rename of a plan. -/
def renameConflicts (g : Graph) (overloading : Bool) (planned : List SymbolId) (r : Rename) :
    List Conflict :=
  match g.symbol? r.symbol with
  | none => []
  | some s =>
    g.scopeConflicts overloading planned s r.name ++
    g.importConflicts planned s r.name ++
    g.localConflicts planned s r.name ++
    g.captureConflicts planned s r.name ++
    g.shadowConflicts planned s r.name ++
    g.hierarchyConflicts overloading planned s r.name

/-! ## Conflicts of a plan -/

/-- The first symbol among the earlier ones that claims the same name in the same scope. -/
def claimant? (earlier : List (Symbol × String)) (s : Symbol) (name : String) : Option Symbol :=
  (earlier.find? fun (t, n) => t.scope = s.scope ∧ n = name).map (·.1)

/-- Renames of a plan that give one name twice in a scope. -/
def duplicates (overloading : Bool) :
    (earlier rest : List (Symbol × String)) → List Conflict
  | _, [] => []
  | earlier, (s, name) :: rest =>
    (match claimant? earlier s name with
      | some other =>
        if mayOverload overloading s other then []
        else [⟨.duplicateInPlan, s.id, name, some other.id, ""⟩]
      | none => []) ++
    duplicates overloading (earlier ++ [(s, name)]) rest

/-- All conflicts of a plan: those within it, then those of each rename. -/
def conflicts (g : Graph) (overloading : Bool) (p : Plan) : List Conflict :=
  let entries := p.entries
  let named := entries.filterMap fun r => (g.symbol? r.symbol).map fun s => (s, r.name)
  duplicates overloading [] named ++
    entries.flatMap (g.renameConflicts overloading (entries.map (·.symbol)))

end Graph

end Pseudonym
