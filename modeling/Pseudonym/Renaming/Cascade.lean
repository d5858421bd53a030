import Pseudonym.Renaming.Eligibility
import Pseudonym.Renaming.Plan

/-!
# The accessor cascade

A field is renamed together with its accessors: when `_count` becomes `_total`, `get_count` becomes
`get_total`, all overrides of the accessor follow, and so does the parameter of a setter that was
spelled like the old property.
-/

namespace Pseudonym

/-- What to do with accessors that are public, or have a public override. -/
inductive AccessorPolicy where
  /-- Leave out the public accessors. -/
  | skipAccessor
  /-- Leave out all accessors when one of them is public. -/
  | skipCascade
  /-- Rename public accessors too. -/
  | proceed
deriving DecidableEq, Repr, Inhabited

namespace AccessorPolicy

/-- All policies. -/
def all : List AccessorPolicy := [.skipAccessor, .skipCascade, .proceed]

/-- The word for a policy. -/
def word : AccessorPolicy → String
  | .skipAccessor => "skip_accessor"
  | .skipCascade => "skip_cascade"
  | .proceed => "proceed"

/-- The policy as a constant. -/
def code : AccessorPolicy → String
  | .skipAccessor => "SKIP_ACCESSOR"
  | .skipCascade => "SKIP_CASCADE"
  | .proceed => "PROCEED"

/-- The policy that a word names. -/
def ofWord? (s : String) : Option AccessorPolicy := all.find? (·.word = s)

end AccessorPolicy

namespace Cascade

/-- An accessor with its spelling and its new name. -/
structure Follower where
  method : Symbol
  spelling : Name.Accessor
  name : String
  /-- Whether the policy has a say because the accessor is public. -/
  escalated : Bool

/-- Whether an accessor and all its roots are part of the program text. -/
def isEditable (g : Graph) (method : Symbol) : Bool × Graph :=
  if !method.isPhysical then (false, g)
  else
    let (roots, g) := g.deepestRoots method.id
    ((g.symbolsOf roots).all (·.isPhysical), g)

/-- Whether another method of the class is an accessor of the new property, of the same sort. -/
def collides (g : Graph) (field : Symbol) (spelling : Name.Accessor) (property : String)
    (pair : Graph.AccessorPair) : Bool :=
  match g.declaringType field with
  | none => false
  | some owner =>
    let own := pair.methods.map (·.id)
    (g.members owner.id).any fun m =>
      m.kind = .method && !own.contains m.id &&
        match Name.accessor? m.name with
        | some other =>
          other.normalized = Name.normalizeProperty property &&
            other.verb.isSetter = spelling.verb.isSetter
        | none => false

/-- What an accessor contributes: a follower, nothing, or a collision that ends the cascade. -/
inductive Contribution where
  | follower (f : Follower)
  | nothing
  | collision

/-- Judges one accessor of a field. -/
def judge (policy : AccessorPolicy) (g : Graph) (field : Symbol) (pair : Graph.AccessorPair)
    (property : String) (method : Symbol) : Contribution × Graph :=
  match Name.accessor? method.name with
  | none => (.nothing, g)
  | some spelling =>
    let name := spelling.withProperty property
    if name = method.name then (.nothing, g)
    else
      let (editable, g) := isEditable g method
      if !editable then (.nothing, g)
      else if collides g field spelling property pair then (.collision, g)
      else
        (.follower ⟨method, spelling, name,
          policy ≠ .proceed && Filter.isTransitivelyPublic g method⟩, g)

/-- Judges accessors in turn; none when one of them collides. -/
def followers (policy : AccessorPolicy) (field : Symbol) (pair : Graph.AccessorPair)
    (property : String) : Graph → List Symbol → Option (List Follower) × Graph
  | g, [] => (some [], g)
  | g, method :: rest =>
    match judge policy g field pair property method with
    | (.collision, g) => (none, g)
    | (.nothing, g) => followers policy field pair property g rest
    | (.follower f, g) =>
      let (more, g) := followers policy field pair property g rest
      (more.map (f :: ·), g)

/-- What the policy leaves of the followers. -/
def settle (policy : AccessorPolicy) (fs : List Follower) : List Follower :=
  if fs.any (·.escalated) then
    match policy with
    | .skipCascade => []
    | _ => fs.filter fun f => !f.escalated
  else fs

/-- The accessors that change their names when a field gets a new one. -/
def settled (policy : AccessorPolicy) (g : Graph) (field : Symbol) (name : String) :
    List Follower × Graph :=
  if field.kind ≠ .variable ∨ !field.isField then ([], g)
  else
    let pair := g.accessors field
    let (fs, g) := followers policy field pair (Name.property name) g pair.methods
    ((fs.map (settle policy)).getD [], g)

/-- The roots of an accessor and all their overrides, each once, as far as they are part of the
program text; the accessor itself comes first if it is not among them. -/
def family (g : Graph) (method : SymbolId) : List Symbol × Graph :=
  let (roots, g) := g.deepestRoots method
  let ids := (roots.flatMap fun r => r :: g.overriders r).foldl
    (fun ids id => if id ∈ ids then ids else ids ++ [id]) []
  let found := (g.symbolsOf ids).filter (·.isPhysical)
  if found.any (·.id = method) then (found, g)
  else ((g.symbol? method).toList ++ found, g)

/-- The first parameter of a setter, when it is spelled like the old property. -/
def setterParameter (g : Graph) (spelling : Name.Accessor) (member : Symbol)
    (oldProperty newProperty : String) : List Rename :=
  if !spelling.verb.isSetter then []
  else match member.parameters.head?.bind g.symbol? with
    | none => []
    | some p =>
      if p.name ≠ oldProperty ∨ p.name = newProperty ∨ !p.isPhysical then []
      else [⟨p.id, newProperty⟩]

/-- The renames of one follower: its family, each setter with its parameter. -/
def familyRenames (g : Graph) (f : Follower) (oldProperty newProperty : String) :
    List Rename × Graph :=
  let (members, g) := family g f.method.id
  (members.flatMap fun m =>
    ⟨m.id, f.name⟩ :: setterParameter g f.spelling m oldProperty newProperty, g)

/-- The renames of several followers. -/
def allRenames (oldProperty newProperty : String) : Graph → List Follower → List Rename × Graph
  | g, [] => ([], g)
  | g, f :: rest =>
    let (renames, g) := familyRenames g f oldProperty newProperty
    let (more, g) := allRenames oldProperty newProperty g rest
    (renames ++ more, g)

/-- The renames that follow from giving a field a new name. -/
def build (policy : AccessorPolicy) (g : Graph) (field : Symbol) (name : String) :
    List Rename × Graph :=
  let (fs, g) := settled policy g field name
  allRenames (Name.property field.name) (Name.property name) g fs

end Cascade

end Pseudonym
