import Pseudonym.Proofs.Graph.WellFormed

/-!
# The accessors of a field

The pass over the members of a class that looks for the accessors of a field finds of each sort the
first member that serves the property (`accessor_accessors`); so every accessor serves it
(`serves_of_accessor`).
-/

namespace Pseudonym

/-- Whether a method is an accessor of a property: a getter without parameters or a setter with
one. -/
def Symbol.serves (writes : Bool) (wanted : String) (m : Symbol) : Bool :=
  match m.kind, Name.accessor? m.name with
  | .method, some a =>
    a.normalized = wanted && a.verb.isSetter = writes &&
      m.parameters.length = if writes then 1 else 0
  | _, _ => false

namespace Symbol

variable {writes : Bool} {wanted : String} {m : Symbol}

theorem serves_iff : m.serves writes wanted ↔ m.kind = .method ∧
    ∃ a, Name.accessor? m.name = some a ∧ a.normalized = wanted ∧ a.verb.isSetter = writes ∧
      m.parameters.length = if writes then 1 else 0 := by
  unfold serves
  cases m.kind <;> cases Name.accessor? m.name <;> simp [and_assoc]

end Symbol

namespace Graph

variable {g : Graph}

/-- The accessor of one sort. -/
def AccessorPair.accessor (pair : AccessorPair) : (writes : Bool) → Option Symbol
  | false => pair.getter
  | true => pair.setter

namespace AccessorPair

theorem mem_methods {pair : AccessorPair} {m : Symbol} :
    m ∈ pair.methods ↔ ∃ writes, pair.accessor writes = some m := by
  simp [methods, Bool.exists_bool, accessor]

/-- A sort that is not found yet takes the member if it serves. -/
theorem accessor_consider (wanted : String) (pair : AccessorPair) (m : Symbol) (writes : Bool) :
    (pair.consider wanted m).accessor writes =
      (pair.accessor writes).or (if m.serves writes wanted then some m else none) := by
  unfold consider Symbol.serves
  cases m.kind with
  | method =>
      cases Name.accessor? m.name with
      | none => simp
      | some a =>
          by_cases hwanted : a.normalized = wanted
          · -- What is taken depends on the verb, on what was found and on the parameters.
            cases hverb : a.verb <;> cases writes <;> cases hgetter : pair.getter <;>
              cases hsetter : pair.setter <;>
              simp [hwanted, hverb, hgetter, hsetter, accessor, Name.Verb.isGetter,
                Name.Verb.isSetter] <;> split_ifs <;> simp_all
          · simp [hwanted]
  | _ => simp

/-- The pass finds of each sort the first member that serves. -/
theorem accessor_foldl (wanted : String) (writes : Bool) : ∀ (ms : List Symbol)
    (pair : AccessorPair), (ms.foldl (consider wanted) pair).accessor writes =
      (pair.accessor writes).or (ms.find? (·.serves writes wanted))
  | [], pair => by simp
  | m :: ms, pair => by
      rw [List.foldl_cons, accessor_foldl wanted writes ms, accessor_consider, Option.or_assoc,
        List.find?_cons]
      cases m.serves writes wanted <;> simp

end AccessorPair

/-- The accessor of a field is the first member of its class that serves the property. -/
theorem accessor_accessors {field owner : Symbol} (howner : g.declaringType field = some owner)
    (writes : Bool) : (g.accessors field).accessor writes = (g.members owner.id).find?
      (·.serves writes (Name.normalizeProperty (Name.property field.name))) := by
  rw [accessors, howner]
  dsimp only
  rw [AccessorPair.accessor_foldl]
  cases writes <;> rfl

/-- An accessor of a field serves its property in the class that declares it. -/
theorem serves_of_accessor {field a : Symbol} {writes : Bool}
    (ha : (g.accessors field).accessor writes = some a) :
    ∃ owner, g.declaringType field = some owner ∧ a ∈ g.members owner.id ∧
      a.serves writes (Name.normalizeProperty (Name.property field.name)) := by
  cases howner : g.declaringType field with
  | none =>
      rw [accessors, howner] at ha
      cases writes <;> cases ha
  | some owner =>
      rw [accessor_accessors howner] at ha
      exact ⟨owner, rfl, List.mem_of_find?_eq_some ha, List.find?_some ha⟩

/-- The accessors of a field are methods of the graph that are spelled for its property. -/
theorem mem_accessors {field m : Symbol} (h : m ∈ (g.accessors field).methods) :
    m ∈ g.symbols ∧ ∃ spelling, Name.accessor? m.name = some spelling ∧
      spelling.normalized = Name.normalizeProperty (Name.property field.name) := by
  obtain ⟨writes, hwrites⟩ := AccessorPair.mem_methods.1 h
  obtain ⟨owner, -, hm, hserves⟩ := serves_of_accessor hwrites
  obtain ⟨-, spelling, hspelling, hproperty, -⟩ := Symbol.serves_iff.1 hserves
  refine ⟨?_, spelling, hspelling, hproperty⟩
  unfold members at hm
  split at hm
  · exact (mem_membersOfScope.1 hm).1
  · cases hm

/-- An accessor of a field serves its property, in the way that its verb tells. -/
theorem spelled_of_mem_methods {field m : Symbol} {spelling : Name.Accessor}
    (hm : m ∈ (g.accessors field).methods) (hspelling : Name.accessor? m.name = some spelling) :
    m.serves spelling.verb.isSetter (Name.normalizeProperty (Name.property field.name)) ∧
      spelling.normalized = Name.normalizeProperty (Name.property field.name) := by
  obtain ⟨writes, hwrites⟩ := AccessorPair.mem_methods.1 hm
  obtain ⟨-, -, -, hserves⟩ := serves_of_accessor hwrites
  obtain ⟨-, other, hother, hproperty, hsort, -⟩ := Symbol.serves_iff.1 hserves
  obtain rfl : other = spelling := Option.some.inj (hother.symm.trans hspelling)
  exact ⟨hsort ▸ hserves, hproperty⟩

end Graph

end Pseudonym
