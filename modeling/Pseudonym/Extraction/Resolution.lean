import Pseudonym.Extraction.Basic
import Pseudonym.Name.Reserved

/-!
# Resolving names and attributes

A name is looked up in its scope and then in the scopes around it; the bodies of classes are passed
over from within. An attribute is resolved if its value is a module, a class, or the object of a
method.
-/

namespace Pseudonym

open Python

/-- What an expression denotes. -/
inductive Referent where
  | symbol (id : SymbolId)
  | module (name : String)
  /-- Something outside the program. -/
  | external (qualname : String)
deriving DecidableEq, Repr

/-- What an attribute denotes. -/
inductive AttributeTarget where
  | symbol (id : SymbolId)
  /-- Something that is no symbol of the program. -/
  | foreign
  /-- An attribute of a value that nothing is known about. -/
  | unknown
deriving DecidableEq, Repr

namespace Extraction

/-! ## Names -/

/-- The symbol that a name is bound to in a scope: declared there, or imported. -/
def lookup (x : Extraction) (scope : ScopeId) (name : String) : Option SymbolId :=
  (x.declared? scope name).or
    (((x.graph.importedSymbols scope).find? (·.declaredName = name)).map (·.id))

/-- The symbol that a name denotes in a scope. -/
def resolveName (x : Extraction) (scope : ScopeId) (name : String) : Option SymbolId :=
  (x.lookup scope name).or
    (((x.graph.ancestors scope).filter (·.kind ≠ .type)).findSome? fun s => x.lookup s.id name)

/-- Follows aliases. A symbol is left at most once. -/
def followAliases (x : Extraction) (unseen : List SymbolId) (id : SymbolId) : SymbolId :=
  if _h : id ∈ unseen then
    match valueOf? x.aliasTargets id with
    | some target => followAliases x (unseen.erase id) target
    | none => id
  else id
termination_by unseen.length
decreasing_by
  have := List.length_erase_of_mem _h
  have := List.length_pos_of_mem _h
  omega

/-- What a symbol stands for. -/
def referent (x : Extraction) (id : SymbolId) : Referent :=
  let id := x.followAliases (x.aliasTargets.map (·.1)) id
  match valueOf? x.moduleAliases id with
  | some name => .module name
  | none =>
    match valueOf? x.externalNames id with
    | some qualname => .external qualname
    | none => .symbol id

/-- The qualified name of what an expression denotes. -/
def referentName (x : Extraction) : Referent → Option String
  | .symbol id => (x.graph.symbol? id).map (·.qualname)
  | .module name => some name
  | .external qualname => some qualname

/-! ## Members -/

/-- A member of a class by its declared name, or of the nearest class above it that has one. -/
def classMember? (x : Extraction) (type : SymbolId) (name : String) : Option SymbolId :=
  (type :: x.graph.allSupertypes type).findSome? fun t =>
    (x.graph.ownedScope t).bind fun scope => x.declared? scope.id name

/-- The class whose members the attributes of a symbol are. -/
def ownerType? (x : Extraction) (id : SymbolId) : Option SymbolId :=
  match x.graph.symbol? id with
  | some s => if s.kind = .type then some id else valueOf? x.receivers id
  | none => none

/-- The class whose body is a scope or lies around it. -/
def enclosingClass? (x : Extraction) (scope : ScopeId) : Option SymbolId :=
  (((x.graph.scope? scope).toList ++ x.graph.ancestors scope).find? fun s =>
    s.kind = .type && s.owner.isSome).bind (·.owner)

/-! ## Expressions -/

/-- What an attribute of something denotes. -/
def memberOf (x : Extraction) (base : Referent) (name : String) : Option Referent :=
  match base with
  | .module module =>
    let inner := s!"{module}.{name}"
    if !x.isProjectModule module || x.isProjectModule inner then some (.module inner)
    else if (x.module? module).isSome then (x.lookup module name).map x.referent
    else none
  | .external qualname => some (.external s!"{qualname}.{name}")
  | .symbol id =>
    (x.ownerType? id).bind fun type => (x.classMember? type name).map x.referent

/-- What a name or a dotted chain of names denotes. If `loose`, a call denotes what is called and a
subscript what it is taken of, as in decorators and base classes. -/
def resolveExpr (x : Extraction) (scope : ScopeId) (loose : Bool) (t : Tree) : Option Referent :=
  match t.label with
  | .name id _ =>
    match x.resolveName scope id with
    | some symbol => some (x.referent symbol)
    | none => if Name.builtinNames.contains id then some (.external s!"builtins.{id}") else none
  | .attribute name _ =>
    match _h : t.get? .value with
    | some value => (x.resolveExpr scope loose value).bind fun base => x.memberOf base name
    | none => none
  | .call =>
    match _h : t.get? .function with
    | some f => if loose then x.resolveExpr scope loose f else none
    | none => none
  | .subscript _ =>
    match _h : t.get? .value with
    | some value => if loose then x.resolveExpr scope loose value else none
    | none => none
  | _ => none
termination_by sizeOf t
decreasing_by all_goals exact Tree.sizeOf_lt_of_get? _h

/-- The qualified name of a decorator, a base or a metaclass. -/
def marker (x : Extraction) (scope : ScopeId) (t : Tree) : Option String :=
  (x.resolveExpr scope true t).bind x.referentName

/-! ## Attributes -/

/-- Whether an expression is a call of `super` that means the built-in function. -/
def isSuperCall (x : Extraction) (scope : ScopeId) (t : Tree) : Bool :=
  match t.label, t.get? .function with
  | .call, some f =>
    match f.label with
    | .name "super" _ => (x.resolveName scope "super").isNone
    | _ => false
  | _, _ => false

/-- What an attribute of the object of the classes above denotes. -/
def superTarget (x : Extraction) (scope : ScopeId) (name : String) : AttributeTarget :=
  match x.enclosingClass? scope with
  | none => .unknown
  | some owner =>
    match (x.graph.allSupertypes owner).findSome? fun base => x.classMember? base name with
    | some member => .symbol member
    | none => .unknown

/-- What an attribute of something denotes, for a use of it. -/
def memberTarget (x : Extraction) (base : Referent) (name : String) : AttributeTarget :=
  let found : Option SymbolId → AttributeTarget
    | some id => .symbol id
    | none => .unknown
  match base with
  | .module module =>
    if (x.module? module).isNone || x.isProjectModule s!"{module}.{name}" then .foreign
    else found (x.lookup module name)
  | .external _ => .foreign
  | .symbol id => found ((x.ownerType? id).bind fun type => x.classMember? type name)

/-- What an attribute denotes. -/
def resolveAttribute (x : Extraction) (scope : ScopeId) (t : Tree) : AttributeTarget :=
  match t.label, t.get? .value with
  | .attribute name _, some value =>
    if x.isSuperCall scope value then x.superTarget scope name
    else match value.label with
      | .name .. | .attribute .. =>
        match x.resolveExpr scope false value with
        | some base => x.memberTarget base name
        | none => .unknown
      | _ => .unknown
  | _, _ => .unknown

end Extraction

end Pseudonym
