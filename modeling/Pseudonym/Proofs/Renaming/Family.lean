import Pseudonym.Proofs.Graph.Override
import Pseudonym.Proofs.Name.Accessor
import Pseudonym.Proofs.Renaming.Workflow

/-!
# Overrides stay in step

A call finds an override because it has the name of the member it overrides. Committing a plan keeps
that so exactly when the plan is whole, that is, holds every root of its members
(`Commit.inStep_iff`), and a run keeps it exactly when all its plans are whole (`inStep_after_iff`).
A plan is built downwards from one root, so a member with two roots can make it miss the other one
(`not_inStep_twoBases`); where no member has two roots every plan is whole.

## Proof shape

Every entry of a plan changes a name (`Commit.name_ne`), so an edge with one end in the plan comes
apart. With both ends in it the edge stays together, because the new name of a member depends on the
old one alone (`Commit.name_congr`): below the symbol it is the name of the plan, in the family of
an accessor what the spelling makes of the new property, and no field is spelled like its accessor.
Plans are closed downwards (`Commit.mem_of_overrides`); from a root in the plan one comes down to
everything below it.
-/

namespace Pseudonym

open Relation

namespace Graph

/-- Every override has the name of the member that it overrides. -/
def InStep (g : Graph) : Prop := ∀ e ∈ g.overrideEdges, g.nameOf e.1 = g.nameOf e.2

instance (g : Graph) : Decidable g.InStep :=
  inferInstanceAs (Decidable (∀ e ∈ g.overrideEdges, g.nameOf e.1 = g.nameOf e.2))

/-- Overrides form chains that end, between members that are part of the program text; parameters
are no members. -/
structure Dispatch (g : Graph) : Prop where
  acyclic : g.OverridesAcyclic
  physical : ∀ s ∈ g.symbols, ∀ e ∈ g.overrideEdges, s.id = e.1 ∨ s.id = e.2 → s.isPhysical
  parameters : ∀ s ∈ g.symbols, ∀ e ∈ g.overrideEdges, e.1 ∉ s.parameters ∧ e.2 ∉ s.parameters

variable {g h : Graph}

theorem Dispatch.of_renamed {ν : Symbol → String} (hd : g.Dispatch) (r : Renamed ν g h) :
    h.Dispatch := by
  have hover : h.Overrides = g.Overrides := by
    funext m o
    rw [Overrides, Overrides, r.overrideEdges_eq]
  refine ⟨?_, fun s hs e he => ?_, fun s hs e he => ?_⟩
  · intro m
    rw [hover]
    exact hd.acyclic m
  · rw [r.overrideEdges_eq] at he
    obtain ⟨s₀, hs₀, rfl⟩ := r.mem_symbols.1 hs
    exact hd.physical s₀ hs₀ e he
  · rw [r.overrideEdges_eq] at he
    obtain ⟨s₀, hs₀, rfl⟩ := r.mem_symbols.1 hs
    exact hd.parameters s₀ hs₀ e he

theorem InStep.of_recalls (hi : g.InStep) (r : Recalls g h) : h.InStep := by
  obtain ⟨-, -, _, rfl⟩ := r
  exact hi

/-- Along overrides the name stays the same. -/
theorem InStep.nameOf_eq (hi : g.InStep) {m o : SymbolId} (h : ReflTransGen g.Overrides m o) :
    g.nameOf m = g.nameOf o := by
  induction h with
  | refl => rfl
  | tail _ hstep ih => exact ih.trans (hi _ hstep)

end Graph

/-- A plan is whole when it holds every root of its members. -/
def Plan.Whole (g : Graph) (p : Plan) : Prop :=
  ∀ id ∈ p.symbols, ∀ r ∈ g.findRoots id, r ∈ p.symbols

instance (g : Graph) (p : Plan) : Decidable (p.Whole g) :=
  inferInstanceAs (Decidable (∀ id ∈ p.symbols, ∀ r ∈ g.findRoots id, r ∈ p.symbols))

open Pseudonym.Graph

namespace Workflow

/-- A name that is accepted is new. -/
theorem name_ne_of_accepted {reserved : List String} {current name : String}
    (h : rejection? reserved current name = none) : name ≠ current := by
  unfold rejection? at h
  split_ifs at h with _ _ _ hname
  exact hname

/-! ## How an entry comes into a plan -/

/-- An entry of the plan for `s` is for the symbol or something below it, for a member of the family
of a follower, or for a parameter. -/
inductive Origin (policy : AccessorPolicy) (g : Graph) (s : Symbol) (name : String) : Rename → Prop
  | below {id : SymbolId} (h : ReflTransGen g.Overrides id s.id) :
      Origin policy g s name ⟨id, name⟩
  | family {f : Cascade.Follower} {m : Symbol} (hf : f ∈ (Cascade.settled policy g s name).1)
      (hm : Cascade.Kin g f.method.id m) : Origin policy g s name ⟨m.id, f.name⟩
  | parameter {m q : Symbol} {new : String} (hm : m ∈ g.symbols) (hq : q ∈ g.symbols)
      (hmq : q.id ∈ m.parameters) (hname : q.name ≠ new) : Origin policy g s name ⟨q.id, new⟩

section Commit

variable {policy : Policy} {g g' : Graph} {s : Symbol} {p : Plan}
variable (hg : g.WellFormed) (hac : g.OverridesAcyclic) (hd : g.Dispatch) (hi : g.InStep)
variable (hc : Commit policy g s p g')
include hg

theorem Drags.origin {policy : AccessorPolicy} {name : String} {r : Rename} (hs : s ∈ g.symbols)
    (h : Drags policy g s name r) : Origin policy g s name r := by
  cases h with
  | overrider hm physical overrides =>
      exact .below ((eq_or_mem_overriders hg (mem_symbolIds_of_mem hs)).1 (Or.inr overrides))
  | follower hf hr =>
      obtain ⟨m, hm, rfl | hparameter⟩ := hr
      · exact .family hf hm
      · obtain ⟨q, hq, rfl, hmq, -, hname⟩ := Cascade.mem_setterParameter hg hparameter
        exact .parameter hm.1 hq hmq hname

include hc in
theorem Commit.origin {e : Rename} (he : e ∈ p.entries) :
    Origin policy.accessors g s p.name e := by
  rcases hc.planFor.entry e he with rfl | hdrag
  · exact .below .refl
  · exact Drags.origin hg hc.mem hdrag

/-! ## Families -/

omit hg in
theorem follower_mem {policy : AccessorPolicy} {name : String} {f : Cascade.Follower}
    (hf : f ∈ (Cascade.settled policy g s name).1) : f.method ∈ g.symbols :=
  (mem_accessors (Cascade.mem_settled hf).1).1

omit hg in
/-- No field is spelled like an accessor of it. -/
theorem accessor_name_ne {m : Symbol} (hm : m ∈ (g.accessors s).methods) : m.name ≠ s.name := by
  intro hname
  obtain ⟨-, spelling, hspelling, hproperty⟩ := mem_accessors hm
  rw [hname] at hspelling
  exact Name.accessor?_normalized_ne hspelling hproperty

omit hg in
theorem follower_name_ne {policy : AccessorPolicy} {name : String} {f : Cascade.Follower}
    (hf : f ∈ (Cascade.settled policy g s name).1) : f.method.name ≠ s.name :=
  accessor_name_ne (Cascade.mem_settled hf).1

include hac in
/-- The family of a follower lies below its roots. -/
theorem exists_root_above {method m : Symbol} (hf : method ∈ g.symbols)
    (hm : Cascade.Kin g method.id m) :
    ∃ r ∈ g.findRoots method.id, ReflTransGen g.Overrides m.id r := by
  have hid := mem_symbolIds_of_mem hf
  rcases hm.2 with hself | ⟨-, r, hr, hbelow⟩
  · obtain ⟨r, hr⟩ := exists_root hg hac hid
    rw [hself]
    exact ⟨r, hr, ((mem_findRoots hg hid).1 hr).1⟩
  · have hrid := mem_symbolIds_of_reflTransGen hg hid ((mem_findRoots hg hid).1 hr).1
    exact ⟨r, hr, (eq_or_mem_overriders hg hrid).1 hbelow⟩

omit hac in
include hd in
/-- The roots of a follower are in its family. -/
theorem kin_of_root {method : Symbol} (hf : method ∈ g.symbols) {r : SymbolId}
    (hr : r ∈ g.findRoots method.id) : ∃ m, m.id = r ∧ Cascade.Kin g method.id m := by
  have hid := mem_symbolIds_of_mem hf
  have habove := ((mem_findRoots hg hid).1 hr).1
  obtain ⟨m, hm, rfl⟩ := mem_symbolIds.1 (mem_symbolIds_of_reflTransGen hg hid habove)
  refine ⟨m, rfl, hm, ?_⟩
  rcases ReflTransGen.cases_tail habove with heq | ⟨o, -, hstep⟩
  · exact Or.inl heq
  · exact Or.inr ⟨hd.physical m hm _ hstep (Or.inr rfl), m.id, hr, Or.inl rfl⟩

include hac hi in
theorem nameOf_of_kin {method m : Symbol} (hf : method ∈ g.symbols)
    (hm : Cascade.Kin g method.id m) : g.nameOf m.id = method.name := by
  obtain ⟨r, hr, hbelow⟩ := exists_root_above hg hac hf hm
  have habove := ((mem_findRoots hg (mem_symbolIds_of_mem hf)).1 hr).1
  rw [hi.nameOf_eq hbelow, ← hi.nameOf_eq habove, hg.nameOf_id hf]

/-! ## One plan -/

include hd hi hc

/-- Every entry changes a name. -/
theorem Commit.name_ne {e : Rename} (he : e ∈ p.entries) : g.nameOf e.symbol ≠ e.name := by
  cases hc.origin hg he with
  | below h =>
      rw [hi.nameOf_eq h, hg.nameOf_id hc.mem]
      exact (name_ne_of_accepted hc.accepted).symm
  | family hf hm =>
      rw [nameOf_of_kin hg hd.acyclic hi (follower_mem hf) hm]
      exact (Cascade.mem_settled hf).2.name_ne.symm
  | parameter _ hq _ hname =>
      rw [hg.nameOf_id hq]
      exact hname

/-- The new name of a member depends on the old one alone. -/
theorem Commit.name_congr {a b : Rename} (ha : a ∈ p.entries) (hb : b ∈ p.entries)
    (hab : g.Overrides a.symbol b.symbol) : a.name = b.name := by
  have hname := hi _ hab
  -- Both ends come from below the symbol or from families of followers, never from one of each:
  -- they had one name, and a follower is not spelled like the field.
  cases hc.origin hg ha with
  | below h =>
      rw [hi.nameOf_eq h, hg.nameOf_id hc.mem] at hname
      cases hc.origin hg hb with
      | below => rfl
      | family hf hm =>
          rw [nameOf_of_kin hg hd.acyclic hi (follower_mem hf) hm] at hname
          exact absurd hname.symm (follower_name_ne hf)
      | parameter hm _ hmq => exact absurd hmq (hd.parameters _ hm _ hab).2
  | family hf hm =>
      rw [nameOf_of_kin hg hd.acyclic hi (follower_mem hf) hm] at hname
      cases hc.origin hg hb with
      | below h =>
          rw [hi.nameOf_eq h, hg.nameOf_id hc.mem] at hname
          exact absurd hname (follower_name_ne hf)
      | family hf' hm' =>
          rw [nameOf_of_kin hg hd.acyclic hi (follower_mem hf') hm'] at hname
          -- Methods with one name have one spelling, hence one name for the new property.
          have hspelled := (Cascade.mem_settled hf).2
          have hspelled' := (Cascade.mem_settled hf').2
          have hspelling := hspelled.spelling_eq
          rw [hname, hspelled'.spelling_eq] at hspelling
          rw [hspelled.name_eq, hspelled'.name_eq, Option.some.inj hspelling]
      | parameter hm _ hmq => exact absurd hmq (hd.parameters _ hm _ hab).2
  | parameter hm _ hmq => exact absurd hmq (hd.parameters _ hm _ hab).1

omit hi in
/-- A plan holds the overriders of its members. -/
theorem Commit.mem_of_overrides {m o : SymbolId} (hmo : g.Overrides m o) (ho : o ∈ p.symbols) :
    m ∈ p.symbols := by
  obtain ⟨sym, hsym, rfl⟩ := mem_symbolIds.1 (hg.override_mem _ hmo).1
  have physical := hd.physical sym hsym _ hmo (Or.inl rfl)
  rw [hc.planFor.mem_symbols]
  obtain ⟨e, he, rfl⟩ := List.mem_map.1 ho
  cases hc.origin hg he with
  | below h =>
      rcases (eq_or_mem_overriders hg (mem_symbolIds_of_mem hc.mem)).2 (h.head hmo) with heq | hover
      · exact Or.inl heq
      · exact Or.inr ⟨_, .overrider hsym physical hover, rfl⟩
  | family hf hm =>
      -- A family reaches down from its roots, so the overrider belongs to it too.
      obtain ⟨r, hr, hbelow⟩ := exists_root_above hg hd.acyclic (follower_mem hf) hm
      have hid := mem_symbolIds_of_mem (follower_mem hf)
      have hrid := mem_symbolIds_of_reflTransGen hg hid ((mem_findRoots hg hid).1 hr).1
      have hkin : Cascade.Kin g _ sym :=
        ⟨hsym, Or.inr ⟨physical, r, hr, (eq_or_mem_overriders hg hrid).2 (hbelow.head hmo)⟩⟩
      exact Or.inr ⟨_, .follower hf ⟨sym, hkin, Or.inl rfl⟩, rfl⟩
  | parameter hm _ hmq => exact absurd hmq (hd.parameters _ hm _ hmo).2

omit hi in
theorem Commit.mem_of_reflTransGen {m o : SymbolId} (hmo : ReflTransGen g.Overrides m o)
    (ho : o ∈ p.symbols) : m ∈ p.symbols := by
  induction hmo using ReflTransGen.head_induction_on with
  | refl => exact ho
  | head hstep _ ih => exact hc.mem_of_overrides hg hd hstep ih

/-- Where overrides are still in step, the plan holds what its members override. -/
theorem Commit.mem_of_overridden (hi' : g'.InStep) {m o : SymbolId} (hmo : g.Overrides m o)
    (hm : m ∈ p.symbols) : o ∈ p.symbols := by
  by_contra ho
  obtain ⟨e, he, rfl⟩ := List.mem_map.1 hm
  have hnew : g'.nameOf e.symbol = g'.nameOf o := by
    refine hi' (e.symbol, o) ?_
    rw [hc.renamed.overrideEdges_eq]
    exact hmo
  rw [hc.nameOf_of_mem hg he, hc.nameOf_of_not_mem hg (hg.override_mem _ hmo).2 ho,
    ← hi _ hmo] at hnew
  exact hc.name_ne hg hd hi he hnew.symm

/-- **One commit.** Overrides stay in step exactly when the plan is whole. -/
theorem Commit.inStep_iff : g'.InStep ↔ p.Whole g := by
  constructor
  · intro hi' id hid r hr
    obtain ⟨e, he, rfl⟩ := List.mem_map.1 hid
    obtain ⟨habove, -⟩ := (mem_findRoots hg (hc.planFor.mem_symbolIds hg hc.mem he)).1 hr
    clear hr
    -- Going up from the member, no step can leave the plan.
    induction habove with
    | refl => exact hid
    | tail _ hstep ih => exact hc.mem_of_overridden hg hd hi hi' hstep ih
  · intro hwhole e he
    rw [hc.renamed.overrideEdges_eq] at he
    obtain ⟨hmid, hoid⟩ := hg.override_mem e he
    by_cases hm : e.1 ∈ p.symbols
    · -- The other end lies below a root of this one, and the plan holds that root.
      obtain ⟨r, hr⟩ := exists_root hg hd.acyclic hoid
      obtain ⟨habove, hend⟩ := (mem_findRoots hg hoid).1 hr
      have hrm : r ∈ g.findRoots e.1 := (mem_findRoots hg hmid).2 ⟨habove.head he, hend⟩
      have ho := hc.mem_of_reflTransGen hg hd habove (hwhole _ hm r hrm)
      obtain ⟨a, ha, ham⟩ := List.mem_map.1 hm
      obtain ⟨b, hb, hbo⟩ := List.mem_map.1 ho
      rw [← ham, ← hbo, hc.nameOf_of_mem hg ha, hc.nameOf_of_mem hg hb]
      refine hc.name_congr hg hd hi ha hb ?_
      rw [ham, hbo]
      exact he
    · have ho : e.2 ∉ p.symbols := fun ho => hm (hc.mem_of_overrides hg hd he ho)
      rw [hc.nameOf_of_not_mem hg hmid hm, hc.nameOf_of_not_mem hg hoid ho]
      exact hi e he

omit hi in
/-- Where no member has two roots, every plan is whole. -/
theorem Commit.whole_of_oneRoot (hone : ∀ id ∈ g.symbolIds, (g.findRoots id).length ≤ 1) :
    p.Whole g := by
  intro id hid r hr
  obtain ⟨e, he, rfl⟩ := List.mem_map.1 hid
  have heid := hc.planFor.mem_symbolIds hg hc.mem he
  -- One root of the member is in the plan, and there is no other.
  suffices h : ∃ t ∈ g.findRoots e.symbol, t ∈ p.symbols by
    obtain ⟨t, ht, htp⟩ := h
    obtain ⟨x, hx⟩ := List.length_eq_one_iff.1
      (Nat.le_antisymm (hone _ heid) (List.length_pos_of_mem hr))
    rw [hx, List.mem_singleton] at hr ht
    exact hr.trans ht.symm ▸ htp
  cases hc.origin hg he with
  | below h =>
      have hend := ((mem_findRoots hg (mem_symbolIds_of_mem hc.mem)).1
        (hc.roots ▸ List.mem_singleton_self s.id)).2
      exact ⟨s.id, (mem_findRoots hg heid).2 ⟨h, hend⟩,
        (hc.planFor.mem_symbols _).2 (Or.inl rfl)⟩
  | family hf hm =>
      have hfid := mem_symbolIds_of_mem (follower_mem hf)
      obtain ⟨t, ht, hbelow⟩ := exists_root_above hg hd.acyclic (follower_mem hf) hm
      obtain ⟨habove, hend⟩ := (mem_findRoots hg hfid).1 ht
      obtain ⟨m, rfl, hkin⟩ := kin_of_root hg hd (follower_mem hf) ht
      exact ⟨m.id, (mem_findRoots hg heid).2 ⟨hbelow, hend⟩,
        (hc.planFor.mem_symbols _).2 (Or.inr ⟨_, .follower hf ⟨m, hkin, Or.inl rfl⟩, rfl⟩)⟩
  | parameter hm _ hmq =>
      -- A parameter overrides nothing, so it is its own root.
      refine ⟨r, hr, ?_⟩
      rcases ReflTransGen.cases_head ((mem_findRoots hg heid).1 hr).1 with heq | ⟨o, hstep, -⟩
      · exact heq ▸ hid
      · exact absurd hmq (hd.parameters _ hm _ hstep).1

end Commit

/-! ## Runs -/

variable {σ : Type} [Candidates σ]

/-- **Overrides stay in step** during a run exactly when every plan that it commits is whole, and
they do where no member has two roots. -/
theorem inStep_after_iff (w : Workflow σ) (program : Program) (hg : program.graph.WellFormed)
    (hd : program.graph.Dispatch) (hi : program.graph.InStep) (ids : List SymbolId) :
    ((∀ before, before <+: ids → (w.after program before).2.graph.InStep) ↔
        ∀ g s p, w.Commits program ids g s p → p.Whole g) ∧
      ((∀ id ∈ program.graph.symbolIds, (program.graph.findRoots id).length ≤ 1) →
        (w.after program ids).2.graph.InStep) := by
  have hwf : ∀ before, (w.after program before).2.graph.WellFormed := after_wellFormed hg
  have hdispatch : ∀ before, (w.after program before).2.graph.Dispatch := fun before => by
    obtain ⟨ν, hν⟩ := after_renamed (w := w) hg before
    exact hd.of_renamed hν
  have hrun : (∀ g s p, w.Commits program ids g s p → p.Whole g) →
      ∀ before, before <+: ids → (w.after program before).2.graph.InStep := by
    intro hwhole
    refine after_induction hg hi (fun g h hsame hin => hin.of_recalls hsame) ?_
    intro g s p g' ν hcommits hgwf hν hcommit hin
    exact (hcommit.inStep_iff hgwf (hd.of_renamed hν) hin).2 (hwhole g s p hcommits)
  refine ⟨⟨fun hin g s p => ?_, hrun⟩, fun hone => ?_⟩
  · rintro ⟨before, rest, rfl, rfl, hat⟩
    have hbefore := hin before (List.prefix_append _ _)
    have hnext := hin (before ++ [s.id]) ⟨rest, by simp⟩
    exact ((hat.commit hg).inStep_iff (hwf before) (hdispatch before) hbefore).1 hnext
  · refine hrun (fun g s p => ?_) ids (List.prefix_refl ids)
    rintro ⟨before, rest, rfl, rfl, hat⟩
    obtain ⟨ν, hν⟩ := after_renamed (w := w) hg before
    refine (hat.commit hg).whole_of_oneRoot (hwf before) (hdispatch before) fun id hid => ?_
    rw [hν.findRoots_eq]
    exact hone id (hν.symbolIds_eq ▸ hid)

/-- A field with a getter, and a subclass that overrides the getter. -/
def shapes : Graph where
  scopes := [
    { id := "Shape", kind := .type, owner := some "::Shape" },
    { id := "Disc", kind := .type, owner := some "::Disc" }]
  symbols := [
    { id := "::Shape", name := "Shape", kind := .type },
    { id := "Shape::size", name := "_size", kind := .variable, visibility := .prot,
      scope := some "Shape", isField := true },
    { id := "Shape::get_size", name := "_get_size", kind := .method, visibility := .prot,
      scope := some "Shape" },
    { id := "::Disc", name := "Disc", kind := .type },
    { id := "Disc::get_size", name := "_get_size", kind := .method, visibility := .prot,
      scope := some "Disc", isOverride := true }]
  naming := ["::Shape", "Shape::size", "Shape::get_size", "::Disc", "Disc::get_size"]
  supertypeEdges := [("::Disc", "::Shape")]
  overrideEdges := [("Disc::get_size", "Shape::get_size")]

/-- The getter and its override follow the field. -/
theorem inStep_after_iff_shapes :
    (((proposing ["area"]).after { graph := shapes } ["Shape::size"]).2.graph.symbols.map
        (·.name) = ["Shape", "_area", "_get_area", "Disc", "_get_area"]) ∧
      ((proposing ["area"]).after { graph := shapes } ["Shape::size"]).2.graph.InStep := by
  have hd : shapes.Dispatch :=
    ⟨.of_measure (fun id => if id = "Disc::get_size" then 1 else 0) (by decide +kernel),
      by decide +kernel, by decide +kernel⟩
  refine ⟨by decide +kernel, ?_⟩
  exact (inStep_after_iff (proposing ["area"]) { graph := shapes } (by decide +kernel) hd
    (by decide +kernel) ["Shape::size"]).2 (by decide +kernel)

/-- A method that overrides a method of each of two bases. -/
def twoBases : Graph where
  scopes := [
    { id := "A", kind := .type }, { id := "B", kind := .type }, { id := "C", kind := .type }]
  symbols := [
    { id := "A::run", name := "_run", kind := .method, visibility := .prot, scope := some "A" },
    { id := "B::run", name := "_run", kind := .method, visibility := .prot, scope := some "B" },
    { id := "C::run", name := "_run", kind := .method, visibility := .prot, scope := some "C",
      isOverride := true }]
  naming := ["A::run", "B::run", "C::run"]
  overrideEdges := [("C::run", "A::run"), ("C::run", "B::run")]

/-- The method follows the base that is renamed and leaves the other one behind. -/
theorem not_inStep_twoBases :
    twoBases.WellFormed ∧ twoBases.Dispatch ∧ twoBases.InStep ∧
      ¬ ((proposing ["go"]).after { graph := twoBases } ["A::run"]).2.graph.InStep :=
  ⟨by decide +kernel,
    ⟨.of_measure (fun id => if id = "C::run" then 1 else 0) (by decide +kernel),
      by decide +kernel, by decide +kernel⟩,
    by decide +kernel, by decide +kernel⟩

end Workflow

end Pseudonym
