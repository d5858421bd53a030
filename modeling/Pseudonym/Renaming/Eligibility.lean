import Pseudonym.Graph.Hierarchy
import Pseudonym.Symbol.Marker

/-!
# Eligibility

A symbol is left alone when renaming it could change behaviour that cannot be seen in the program
text: a framework that reads decorated members by name, a serialiser that reads field names, an
override of code outside the program, or code that looks names up at run time. Visibility tiers are
switched one by one; local symbols pass them always.
-/

namespace Pseudonym

open Text

/-! ## Verdicts -/

/-- The verdict on a symbol. -/
inductive Eligibility where
  | eligible
  | notPhysical
  | typeParameter
  | constructor
  | notRoot
  | notCanonical
  | noName
  | synthesized
  | dynamic
  | ignoredMarker
  | serialized
  | visibilityDisabled
deriving DecidableEq, Repr, Inhabited

namespace Eligibility

/-- The verdict as a constant. -/
def code : Eligibility → String
  | .eligible => "ELIGIBLE"
  | .notPhysical => "NOT_PHYSICAL"
  | .typeParameter => "TYPE_PARAMETER"
  | .constructor => "CONSTRUCTOR"
  | .notRoot => "NOT_ROOT"
  | .notCanonical => "NOT_CANONICAL"
  | .noName => "NO_NAME"
  | .synthesized => "SYNTHESIZED"
  | .dynamic => "DYNAMIC"
  | .ignoredMarker => "IGNORED_MARKER"
  | .serialized => "SERIALIZED"
  | .visibilityDisabled => "VISIBILITY_DISABLED"

/-- The verdict in words. -/
def text : Eligibility → String
  | .eligible => "eligible"
  | .notPhysical => "not physical or not editable"
  | .typeParameter => "type parameter"
  | .constructor => "constructor"
  | .notRoot => "overrides another declaration"
  | .notCanonical => "alias of another declaration"
  | .noName => "no stable name"
  | .synthesized => "compiler-synthesized"
  | .dynamic => "referenced dynamically"
  | .ignoredMarker => "carries an ignore marker"
  | .serialized => "field of a serialized type"
  | .visibilityDisabled => "visibility tier disabled"

end Eligibility

/-! ## The rules -/

/-- What may be renamed. -/
structure Filter where
  ignoreMarkers : MarkerSet := {}
  serializationMarkers : MarkerSet := {}
  renamePrivate : Bool := true
  renameProtected : Bool := true
  renamePackageDefault : Bool := false
  renameDefaultMethods : Bool := false
  renamePublic : Bool := false
deriving DecidableEq, Repr, Inhabited

namespace Filter

/-- Whether a tier is switched on. -/
def tier (f : Filter) : Visibility → Bool
  | .priv => f.renamePrivate
  | .prot => f.renameProtected
  | .pack => f.renamePackageDefault
  | .pub => f.renamePublic

/-- The declarations whose markers a declaration inherits directly: the members it overrides and
the declaration around it. -/
def inheritsFrom (g : Graph) (id : SymbolId) : List SymbolId :=
  g.superMembers id ++ (((g.symbol? id).bind g.enclosing).map (·.id)).toList

/-- The answer for a declaration itself; a type also has the markers of its supertypes. -/
def ownPresence (f : Filter) (g : Graph) (s : Symbol) : Presence :=
  let supers := if s.kind = .type then g.symbolsOf (g.allSupertypes s.id) else []
  Presence.combine ((s :: supers).map fun t => f.ignoreMarkers.lookup t.markers)

/-- The answer for the declaration of an id itself. -/
def presenceOf (f : Filter) (g : Graph) (id : SymbolId) : Presence :=
  ((g.symbol? id).map (f.ownPresence g)).getD .absent

/-- At most `depth` levels of a walk that asks a node and then, one after the other, the nodes next
to it. A node in `unseen` is asked once, any other one adds nothing. Beside the strongest answer the
walk gives the nodes that are still unseen. -/
def gatherWithin {α : Type} [DecidableEq α] (next : α → List α) (own : α → Presence) :
    (depth : Nat) → (unseen : List α) → α → Presence × List α
  | 0, unseen, _ => (.absent, unseen)
  | depth + 1, unseen, a =>
    if a ∈ unseen then
      (next a).foldl
        (fun found b =>
          let answer := gatherWithin next own depth found.2 b
          (found.1.join answer.1, answer.2))
        (own a, unseen.erase a)
    else (.absent, unseen)

/-- The answer for a declaration and everything it inherits markers from. -/
def markerPresence (f : Filter) (g : Graph) (s : Symbol) : Presence :=
  (gatherWithin (inheritsFrom g) (f.presenceOf g) g.symbols.length g.symbolIds s.id).1

/-- Whether the symbol is a field whose name is part of a stored form. -/
def isSerializedField (f : Filter) (g : Graph) (s : Symbol) : Bool :=
  s.isField && match g.declaringType s with
    | none => false
    | some owner =>
      (Presence.combine ((owner :: g.symbolsOf (g.allSupertypes owner.id)).map fun t =>
        f.serializationMarkers.lookup t.markers)).blocks

/-- Whether the symbol is public, or a method with a public override. -/
def isTransitivelyPublic (g : Graph) (s : Symbol) : Bool :=
  s.visibility = .pub ||
    (s.kind = .method && (g.symbolsOf (g.overriders s.id)).any (·.visibility = .pub))

/-- Whether the tier of a symbol is switched on. -/
def visibilityEnabled (f : Filter) (g : Graph) (s : Symbol) : Bool :=
  s.isLocal ||
    ((!s.isDefaultMethod || f.renameDefaultMethods) &&
      f.tier (if isTransitivelyPublic g s then .pub else s.visibility))

/-- The rules that look at the declaration alone and come first. -/
def firstRule? (s : Symbol) : Option Eligibility :=
  if !s.isPhysical then some .notPhysical
  else if s.isTypeParameter then some .typeParameter
  else if s.isConstructor then some .constructor
  else none

/-- The rules that come after the question for the roots of the symbol. -/
def laterRule (f : Filter) (g : Graph) (s : Symbol) : Eligibility :=
  if !isIdentifier s.name then .noName
  else if !s.isCanonical then .notCanonical
  else if s.isSynthesized then .synthesized
  else if s.isDynamic then .dynamic
  else if (f.markerPresence g s).blocks then .ignoredMarker
  else if f.isSerializedField g s then .serialized
  else if !f.visibilityEnabled g s then .visibilityDisabled
  else .eligible

/-- The first rule that keeps a symbol from being renamed. Roots asked for on the way are
remembered in the graph. -/
def check (f : Filter) (g : Graph) (s : Symbol) : Eligibility × Graph :=
  match firstRule? s with
  | some verdict => (verdict, g)
  | none =>
    let (roots, g) := g.deepestRoots s.id
    (if roots ≠ [s.id] then .notRoot else f.laterRule g s, g)

end Filter

end Pseudonym
