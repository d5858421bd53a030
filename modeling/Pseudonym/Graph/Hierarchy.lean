import Pseudonym.Graph.Basic
import Pseudonym.Name.Accessor

/-!
# Type hierarchies, overrides and accessors

Transitive questions about supertypes and overrides, and the accessor methods of a field.
-/

namespace Pseudonym.Graph

/-! ## Edges -/

/-- The direct supertypes of a type. -/
def supertypes (g : Graph) (id : SymbolId) : List SymbolId :=
  (g.supertypeEdges.filter (·.1 = id)).map (·.2)

/-- The direct subtypes of a type. -/
def subtypes (g : Graph) (id : SymbolId) : List SymbolId :=
  (g.supertypeEdges.filter (·.2 = id)).map (·.1)

/-- The members that a member overrides directly. -/
def superMembers (g : Graph) (id : SymbolId) : List SymbolId :=
  (g.overrideEdges.filter (·.1 = id)).map (·.2)

/-- The members that override a member directly. -/
def directOverriders (g : Graph) (id : SymbolId) : List SymbolId :=
  (g.overrideEdges.filter (·.2 = id)).map (·.1)

/-! ## Transitive questions -/

/-- Everything reached by one or more steps, without the start. -/
def closure (g : Graph) (next : SymbolId → List SymbolId) (start : SymbolId) : List SymbolId :=
  reach next (g.symbolIds.erase start) (next start)

/-- All supertypes, the nearest first. -/
def allSupertypes (g : Graph) (id : SymbolId) : List SymbolId := g.closure g.supertypes id

/-- All subtypes, the nearest first. -/
def allSubtypes (g : Graph) (id : SymbolId) : List SymbolId := g.closure g.subtypes id

/-- All members that override a member, directly or not. -/
def overriders (g : Graph) (id : SymbolId) : List SymbolId := g.closure g.directOverriders id

/-- The members at the top of every chain of overrides above a member. -/
def findRoots (g : Graph) (id : SymbolId) : List SymbolId :=
  (reach g.superMembers g.symbolIds [id]).filter fun m => (g.superMembers m).isEmpty

/-- The roots of a member, from the cache if they were asked for before. -/
def deepestRoots (g : Graph) (id : SymbolId) : List SymbolId × Graph :=
  match g.rootCache.find? (·.1 = id) with
  | some (_, roots) => (roots, g)
  | none =>
    let roots := g.findRoots id
    (roots, { g with rootCache := g.rootCache ++ [(id, roots)] })

/-! ## Accessors -/

/-- The accessor methods found for a field. -/
structure AccessorPair where
  getter : Option Symbol := none
  setter : Option Symbol := none
deriving DecidableEq, Repr, Inhabited

/-- The methods of a pair, the getter first. -/
def AccessorPair.methods (pair : AccessorPair) : List Symbol :=
  pair.getter.toList ++ pair.setter.toList

/-- Takes a method into the pair if it is an accessor of the property that is still missing: getters
have no parameter and setters have one. -/
def AccessorPair.consider (wanted : String) (pair : AccessorPair) (m : Symbol) : AccessorPair :=
  match m.kind, Name.accessor? m.name with
  | .method, some a =>
    if a.normalized ≠ wanted then pair
    else if a.verb.isGetter ∧ pair.getter.isNone ∧ m.parameters.isEmpty then
      { pair with getter := some m }
    else if a.verb.isSetter ∧ pair.setter.isNone ∧ m.parameters.length = 1 then
      { pair with setter := some m }
    else pair
  | _, _ => pair

/-- The accessors of a field among the members of its class. -/
def accessors (g : Graph) (field : Symbol) : AccessorPair :=
  match g.declaringType field with
  | none => {}
  | some owner =>
    (g.members owner.id).foldl
      (AccessorPair.consider (Name.normalizeProperty (Name.property field.name))) {}

end Pseudonym.Graph
