import Pseudonym.Proofs.Graph.Supertype
import Pseudonym.Proofs.Name.Respelling
import Pseudonym.Proofs.Renaming.Extent

/-!
# A field keeps its accessors

An accessor that changes its name with a field is still the accessor of the field afterwards
(`accessor_kept`). It reads as an accessor of the new property, so what remains is that no member in
front of it does so too. The first accessor stays the first because whatever serves the new property
afterwards has served the old one before (`serves_before`): a member outside the plan would have
ended the cascade as a collision, a member of the family of an accessor had the name of that
accessor, and no other entry of a plan is spelled like an accessor of the new property.
-/

namespace Pseudonym

open Pseudonym.Graph Relation Text

/-- The first item stays the first if there are only items less. -/
theorem find?_eq_some_of_imp {α : Type} {p q : α → Bool} {a : α} : ∀ {xs : List α},
    xs.find? p = some a → q a → (∀ x ∈ xs, q x → p x) → xs.find? q = some a
  | [], h, _, _ => by cases h
  | x :: xs, h, hq, himp => by
      obtain ⟨hx, hxs⟩ := List.forall_mem_cons.1 himp
      by_cases hp : p x
      · rw [List.find?_cons_of_pos hp] at h
        obtain rfl := Option.some.inj h
        exact List.find?_cons_of_pos hq
      · rw [List.find?_cons_of_neg hp] at h
        rw [List.find?_cons_of_neg fun hqx => hp (hx hqx)]
        exact find?_eq_some_of_imp h hq hxs

namespace Graph.Renamed

variable {ν : Symbol → String} {g h : Graph}

theorem declaringType_withName (r : Renamed ν g h) {s owner : Symbol} (name : String)
    (howner : g.declaringType s = some owner) :
    h.declaringType (s.withName name) = some (owner.withName (ν owner)) := by
  obtain ⟨id, c, o, hid, hc, hkind, ho, hfound⟩ := declaringType_eq_some.1 howner
  refine declaringType_eq_some.2 ⟨id, c, o, hid, ?_, hkind, ho, ?_⟩
  · rw [r.scope?_eq, hc]
  · rw [r.symbol?_eq, hfound, Option.map_some]

end Graph.Renamed

namespace Cascade

variable {g : Graph} {field : Symbol}

/-- Without a collision, only the accessors of the field serve the new property. -/
theorem mem_methods_of_not_collides (hg : g.WellFormed) {owner x : Symbol}
    (howner : g.declaringType field = some owner) (hx : x ∈ g.members owner.id)
    {spelling : Name.Accessor} {property : String}
    (hfree : ¬ collides g field spelling property (g.accessors field))
    (hserves : x.serves spelling.verb.isSetter (Name.normalizeProperty property)) :
    x ∈ (g.accessors field).methods := by
  obtain ⟨hkind, other, hother, hnormalized, hsort, -⟩ := Symbol.serves_iff.1 hserves
  by_contra hout
  have hmem : x ∈ g.symbols := (mem_members.1 hx).1
  have hown : ((g.accessors field).methods.map (·.id)).contains x.id = false := by
    rw [← Bool.not_eq_true, List.contains_iff_mem]
    intro hid
    obtain ⟨y, hy, hyx⟩ := List.mem_map.1 hid
    exact hout (hg.symbol_ext (mem_accessors hy).1 hmem hyx ▸ hy)
  refine hfree ?_
  unfold collides
  rw [howner]
  refine List.any_eq_true.2 ⟨x, hx, ?_⟩
  simp only [hkind, hown, hother, hnormalized, hsort, decide_true, Bool.not_false, Bool.and_self]

end Cascade

/-! ## Commits -/

namespace Workflow

/-- A name that is committed is an identifier. -/
theorem Commit.isIdentifier {policy : Policy} {g g' : Graph} {s : Symbol} {p : Plan}
    (hc : Commit policy g s p g') : isIdentifier p.name := by
  have haccepted := hc.accepted
  unfold rejection? at haccepted
  split_ifs at haccepted with _ _ hno
  simpa using (not_or.1 hno).1

section Commit

variable {policy : Policy} {g g' : Graph} {s x : Symbol} {p : Plan}
variable (hg : g.WellFormed) (hi : g.InStep) (hp : g.LocalParameters)
variable (hc : Commit policy g s p g')
include hg hc

/-- What is in the plan is there as a companion, under the name that this has. -/
theorem Commit.companion (hmem : x.id ∈ p.symbols) :
    Companion policy.accessors g s p.name ⟨x.id, nameAfter p.entries x⟩ := by
  obtain ⟨e, he, hid⟩ := List.mem_map.1 hmem
  have hcompanion := (companion_iff hg hc.mem).2 (hc.planFor.entry e he)
  rw [nameAfter_of_mem p.entries_nodup he hid, ← hid]
  exact hcompanion

include hi hp

theorem Commit.nameAfter_self : nameAfter p.entries s = p.name := by
  have hmem : s.id ∈ p.symbols := (hc.planFor.mem_symbols _).2 (Or.inl rfl)
  exact (hc.companion hg hmem).name_unique hg hi hp hc.mem .self rfl

/-- A method in the plan goes with the field, or with an accessor that is kept. -/
theorem Commit.method_cases (hx : x ∈ g.symbols) (hmem : x.id ∈ p.symbols)
    (hkind : x.kind = .method) :
    (x.name = s.name ∧ nameAfter p.entries x = p.name) ∨
      ∃ b spelling, Cascade.Keeps policy.accessors g s p.name b spelling ∧ x.name = b.name ∧
        nameAfter p.entries x = spelling.withProperty (Name.property p.name) := by
  rcases (hc.companion hg hmem).cases_role with ⟨hnew, hbelow⟩ | ⟨b, spelling, kept, hkin, hnew⟩ |
    ⟨-, -, m, hm, q, hq, hid, hmq⟩
  · refine Or.inl ⟨?_, hnew⟩
    rw [← hg.nameOf_id hx, ← hg.nameOf_id hc.mem]
    exact hi.nameOf_eq hbelow
  · refine Or.inr ⟨b, spelling, kept, ?_, hnew⟩
    rw [← hg.nameOf_id hx, ← hg.nameOf_id kept.mem]
    exact hi.nameOf_of_kindred hkin
  · obtain rfl := hg.symbol_ext hx hq hid
    rw [(hp.kind m hm x hx hmq).1] at hkind
    cases hkind

end Commit

section Kept

variable {policy : Policy} {g g' : Graph} {s a x owner : Symbol} {p : Plan} {writes : Bool}
variable (hg : g.WellFormed) (hi : g.InStep) (hp : g.LocalParameters)
variable (hc : Commit policy g s p g')
variable (hascii : ∀ c ∈ p.name.toList, c.toNat < 128)
variable (hfirst : (Name.body p.name).toList.head?.any Char.isAlpha)
variable (ha : (g.accessors s).accessor writes = some a) (hmem : a.id ∈ p.symbols)
include hg hi hp hc

include ha hmem in
/-- An accessor in the plan is kept itself, or has the name of one that is. -/
theorem Commit.exists_keeps : ∃ b spelling,
    Cascade.Keeps policy.accessors g s p.name b spelling ∧ a.name = b.name ∧
      spelling.verb.isSetter = writes ∧
      nameAfter p.entries a = spelling.withProperty (Name.property p.name) := by
  obtain ⟨owner, -, hamem, hserves⟩ := serves_of_accessor ha
  obtain ⟨hkind, reading, hreading, hproperty, hsort, -⟩ := Symbol.serves_iff.1 hserves
  rcases hc.method_cases hg hi hp (mem_members.1 hamem).1 hmem hkind with
    ⟨hname, -⟩ | ⟨b, spelling, kept, hname, hnew⟩
  · rw [hname] at hreading
    exact absurd hproperty (Name.accessor?_normalized_ne hreading)
  · rw [hname, kept.candidate.spelled] at hreading
    obtain rfl := Option.some.inj hreading
    exact ⟨b, spelling, kept, hname, hsort, hnew⟩

include hascii hfirst

omit hg hi hp in
/-- The accessors that are kept are read back. -/
theorem Commit.read_keeps {b : Symbol} {spelling : Name.Accessor}
    (kept : Cascade.Keeps policy.accessors g s p.name b spelling) :
    ∃ reading, Name.accessor? (spelling.withProperty (Name.property p.name)) = some reading ∧
      reading.verb = spelling.verb ∧
      reading.normalized = Name.normalizeProperty (Name.property p.name) := by
  have hcontinues := continues_of_isIdentifier hc.isIdentifier
  have hbody : ∃ c cs, (Name.body p.name).toList = c :: cs ∧ c.isAlpha := by
    cases hcs : (Name.body p.name).toList with
    | nil => simp [hcs] at hfirst
    | cons c cs => exact ⟨c, cs, rfl, by simpa [hcs] using hfirst⟩
  obtain ⟨c, cs, hcs, halpha⟩ := hbody
  have hproperty : Name.property p.name = Name.body p.name := by
    rw [Name.property, if_neg]
    intro hempty
    simp [hempty] at hcs
  rw [hproperty]
  refine Name.Accessor.read_withProperty kept.candidate.spelled (fun d hd => ?_) hcs halpha
  have hd' : d ∈ p.name.toList := Name.mem_of_mem_body hd
  exact ⟨hascii d hd', hcontinues d hd'⟩

include ha hmem

/-- **What serves the new property afterwards has served the old one before.** -/
theorem Commit.serves_before (howner : g.declaringType s = some owner)
    (hx : x ∈ g.members owner.id)
    (hserves : (x.withName (nameAfter p.entries x)).serves writes
      (Name.normalizeProperty (Name.property p.name))) :
    x.serves writes (Name.normalizeProperty (Name.property s.name)) := by
  obtain ⟨hkind, reading, hreading, hproperty, hsort, hparameters⟩ := Symbol.serves_iff.1 hserves
  by_cases hplan : x.id ∈ p.symbols
  · rcases hc.method_cases hg hi hp (mem_members.1 hx).1 hplan hkind with
      ⟨-, hnew⟩ | ⟨b, spelling, kept, hname, hnew⟩
    · -- What has the new name of the field is not spelled like an accessor of it.
      rw [hnew] at hreading
      exact absurd hproperty (Name.accessor?_normalized_ne hreading)
    · -- A member of a family had the name of the accessor, which serves the old property.
      obtain ⟨again, hagain, hverb, -⟩ := hc.read_keeps hascii hfirst kept
      rw [hnew, Symbol.withName_name, hagain] at hreading
      obtain rfl := Option.some.inj hreading
      obtain ⟨-, hold⟩ := spelled_of_mem_methods kept.candidate.mem kept.candidate.spelled
      exact Symbol.serves_iff.2 ⟨hkind, spelling, hname ▸ kept.candidate.spelled, hold,
        hverb ▸ hsort, hparameters⟩
  · -- Any other member would have ended the cascade as a collision, except the accessors.
    rw [nameAfter_of_not_mem hplan, Symbol.withName_self] at hserves
    rw [nameAfter_of_not_mem hplan, Symbol.withName_self] at hreading
    obtain ⟨b, spelling, kept, -, hspelling, -⟩ := hc.exists_keeps hg hi hp ha hmem
    have hmethod := Cascade.mem_methods_of_not_collides hg howner hx
      (kept.free b spelling kept.candidate) (hspelling.symm ▸ hserves)
    obtain ⟨hserves', -⟩ := spelled_of_mem_methods hmethod hreading
    exact hsort ▸ hserves'

/-- The accessor serves the new property. -/
theorem Commit.serves_after : (a.withName (nameAfter p.entries a)).serves writes
    (Name.normalizeProperty (Name.property p.name)) := by
  obtain ⟨-, -, -, hserves⟩ := serves_of_accessor ha
  obtain ⟨hkind, -, -, -, -, hparameters⟩ := Symbol.serves_iff.1 hserves
  obtain ⟨b, spelling, kept, -, hsort, hnew⟩ := hc.exists_keeps hg hi hp ha hmem
  obtain ⟨reading, hreading, hverb, hproperty⟩ := hc.read_keeps hascii hfirst kept
  exact Symbol.serves_iff.2 ⟨hkind, reading, by rw [Symbol.withName_name, hnew, hreading],
    hproperty, hverb.symm ▸ hsort, hparameters⟩

/-- **One commit.** An accessor in the plan is still the accessor of the field. -/
theorem Commit.accessor_eq : (g'.accessors (s.withName p.name)).accessor writes =
    some (a.withName (nameAfter p.entries a)) := by
  obtain ⟨owner, howner, -⟩ := serves_of_accessor ha
  have hfound := ha
  rw [accessor_accessors howner] at hfound
  rw [accessor_accessors (hc.renamed.declaringType_withName p.name howner), Symbol.withName_id,
    hc.renamed.members_eq, List.find?_map]
  refine (congrArg _ (find?_eq_some_of_imp hfound ?_ fun x hx hserves => ?_)).trans rfl
  · exact hc.serves_after hg hi hp hascii hfirst ha hmem
  · exact hc.serves_before hg hi hp hascii hfirst ha hmem howner hx hserves

end Kept

variable {σ : Type} [Candidates σ]

/-- **A field keeps its accessors.** Where a candidate of ASCII that starts with a letter is
committed for a field, an accessor that the plan holds is the accessor of the field afterwards. -/
theorem accessor_kept (w : Workflow σ) {program : Program} (hg : program.graph.WellFormed)
    (hi : program.graph.InStep) (hp : program.graph.LocalParameters) {s : Symbol}
    (hs : s ∈ program.graph.symbols) {name : String} {p : Plan}
    (hplan : (w.process program s).1.plan = some p)
    (hname : (w.process program s).1.newName = some name)
    (hascii : ∀ c ∈ name.toList, c.toNat < 128)
    (hfirst : (Name.body name).toList.head?.any Char.isAlpha) {writes : Bool} {a : Symbol}
    (ha : (program.graph.accessors s).accessor writes = some a) (hmem : a.id ∈ p.symbols) :
    let after := (w.process program s).2.2.graph
    ∃ s' a', after.symbol? s.id = some s' ∧ s'.name = name ∧ after.symbol? a.id = some a' ∧
      (after.accessors s').accessor writes = some a' := by
  intro after
  rcases w.process_commit hg hs with ⟨hnone, -⟩ | ⟨q, hq, hqplan, -, hc, -⟩
  · rw [hnone] at hname
    cases hname
  · rw [hqplan] at hplan
    obtain rfl := Option.some.inj hplan
    rw [hq] at hname
    obtain rfl := Option.some.inj hname
    have hsymbol : ∀ {t}, t ∈ program.graph.symbols →
        after.symbol? t.id = some (t.withName (nameAfter q.entries t)) := fun ht => by
      rw [hc.renamed.symbol?_eq, hg.symbol?_id ht]
      rfl
    obtain ⟨owner, -, hamem, -⟩ := serves_of_accessor ha
    refine ⟨_, _, hsymbol hs, ?_, hsymbol (mem_members.1 hamem).1, ?_⟩
    · exact hc.nameAfter_self hg hi hp
    · rw [hc.nameAfter_self hg hi hp]
      exact hc.accessor_eq hg hi hp hascii hfirst ha hmem

/-- The size of a shape. -/
def shapeSize : Symbol :=
  { id := "Shape::size", name := "_size", kind := .variable, visibility := .prot,
    scope := some "Shape", isField := true }

/-- What reads the size of a shape. -/
def shapeGetSize : Symbol :=
  { id := "Shape::get_size", name := "_get_size", kind := .method, visibility := .prot,
    scope := some "Shape" }

/-- The plan for the size. -/
def areaPlan : Plan where
  primary := "Shape::size"
  name := "_area"
  cascade := [⟨"Shape::get_size", "_get_area"⟩, ⟨"Disc::get_size", "_get_area"⟩]

/-- The getter of the size is the getter of the area. -/
theorem accessor_kept_shapes :
    let after := ((proposing ["area"]).process { graph := shapes } shapeSize).2.2.graph
    ∃ s' a', after.symbol? "Shape::size" = some s' ∧ s'.name = "_area" ∧
      after.symbol? "Shape::get_size" = some a' ∧ (after.accessors s').getter = some a' := by
  have hp : shapes.LocalParameters := ⟨by decide +kernel, by decide +kernel⟩
  have hget : (shapes.accessors shapeSize).accessor false = some shapeGetSize := by decide +kernel
  have hplan : ((proposing ["area"]).process { graph := shapes } shapeSize).1.plan =
      some areaPlan := by decide +kernel
  have hname : ((proposing ["area"]).process { graph := shapes } shapeSize).1.newName =
      some "_area" := by decide +kernel
  have hascii : ∀ c ∈ "_area".toList, c.toNat < 128 := by simp
  exact accessor_kept (proposing ["area"]) (by decide +kernel) (by decide +kernel) hp
    (by decide +kernel) hplan hname hascii (by decide +kernel) hget (by decide +kernel)

end Workflow

end Pseudonym
