import Pseudonym.Proofs.Renaming.Workflow

/-!
# Public names

With the public tier switched off and public accessors left out, a run changes no public name
(`public_kept`). There are five ways for a symbol into a plan, and each is closed by another rule:

* the symbol that is processed: its tier decides, and a public symbol has no other tier;
* its overriders: overrides do not change how far a member is seen;
* an accessor that follows a field: it is escalated if it is public, and then left out;
* the family of such an accessor: it is reached through roots that are part of the program text, so
  the overrides up to a root and down from it keep the tier of the accessor;
* the parameter of a setter: parameters are not public.
-/

namespace Pseudonym

open Pseudonym.Graph Relation

namespace Graph

/-- Members related by overrides are seen equally far as far as they are part of the program text;
local symbols and parameters are not public. -/
structure Tiered (g : Graph) : Prop where
  overrides : ∀ a ∈ g.symbols, ∀ b ∈ g.symbols, a.isPhysical → b.isPhysical →
    TransGen g.Overrides a.id b.id → a.visibility = b.visibility
  locals : ∀ a ∈ g.symbols, a.isLocal → a.visibility ≠ .pub
  parameters : ∀ m ∈ g.symbols, ∀ q ∈ g.symbols, q.id ∈ m.parameters → q.visibility ≠ .pub

namespace Tiered

variable {g : Graph}

/-- It is enough that every single override keeps the tier. -/
theorem overrides_of_edges (hg : g.WellFormed)
    (h : ∀ e ∈ g.overrideEdges, ∀ a ∈ g.symbols, ∀ b ∈ g.symbols, a.id = e.1 → b.id = e.2 →
      a.visibility = b.visibility) {a b : Symbol} (ha : a ∈ g.symbols) (hb : b ∈ g.symbols)
    (hab : TransGen g.Overrides a.id b.id) : a.visibility = b.visibility := by
  generalize hbid : b.id = y at hab
  induction hab generalizing b with
  | single hstep => exact h _ hstep a ha b hb rfl hbid
  | tail _ hstep ih =>
      obtain ⟨c, hc, hcid⟩ := mem_symbolIds.1 (hg.override_mem _ hstep).1
      exact (ih hc hcid).trans (h _ hstep c hc b hb hcid hbid)

theorem of_renamed {ν : Symbol → String} {h : Graph} (r : Renamed ν g h) (ht : g.Tiered) :
    h.Tiered where
  overrides a ha b hb hpa hpb hab := by
    obtain ⟨a₀, ha₀, rfl⟩ := r.mem_symbols.1 ha
    obtain ⟨b₀, hb₀, rfl⟩ := r.mem_symbols.1 hb
    have hedges : h.Overrides = g.Overrides := by
      funext m o
      rw [Overrides, Overrides, r.overrideEdges_eq]
    rw [hedges] at hab
    exact ht.overrides a₀ ha₀ b₀ hb₀ hpa hpb hab
  locals a ha hlocal := by
    obtain ⟨a₀, ha₀, rfl⟩ := r.mem_symbols.1 ha
    exact ht.locals a₀ ha₀ hlocal
  parameters m hm q hq hmq := by
    obtain ⟨m₀, hm₀, rfl⟩ := r.mem_symbols.1 hm
    obtain ⟨q₀, hq₀, rfl⟩ := r.mem_symbols.1 hq
    exact ht.parameters m₀ hm₀ q₀ hq₀ hmq

/-- Overriders are seen as far as what they override. -/
theorem visibility_of_overrides (ht : g.Tiered) (hg : g.WellFormed) {a b : Symbol}
    (ha : a ∈ g.symbols) (hb : b ∈ g.symbols) (hpa : a.isPhysical) (hpb : b.isPhysical)
    (h : ReflTransGen g.Overrides a.id b.id) : a.visibility = b.visibility := by
  rcases reflTransGen_iff_eq_or_transGen.1 h with heq | h
  · rw [hg.symbol_ext ha hb heq.symm]
  · exact ht.overrides a ha b hb hpa hpb h

end Tiered

end Graph

/-! ## What a follower passed -/

namespace Cascade

variable {policy : AccessorPolicy} {field : Symbol} {pair : AccessorPair} {property : String}

theorem isEditable_iff {g : Graph} (hg : g.WellFormed) {method : Symbol} :
    (isEditable g method).1 ↔
      method.isPhysical ∧ ∀ r ∈ g.symbols, r.id ∈ g.findRoots method.id → r.isPhysical := by
  obtain ⟨c, hroots⟩ := hg.deepestRoots_eq method.id
  unfold isEditable
  rw [hroots]
  by_cases hphysical : method.isPhysical
  · simp only [hphysical, Bool.not_true, Bool.false_eq_true, if_false, true_and, List.all_eq_true]
    refine forall_congr' fun r => ?_
    have hof : r ∈ symbolsOf { g with rootCache := c } (g.findRoots method.id) ↔
        r ∈ g.symbols ∧ r.id ∈ g.findRoots method.id := hg.mem_symbolsOf
    rw [hof, and_imp]
  · simp [hphysical]

/-- A follower can be edited, and it is escalated exactly if the policy has a say and it is public
or has a public override. -/
theorem judge_editable {g : Graph} (hg : g.WellFormed) {method : Symbol} (hm : method ∈ g.symbols)
    {f : Follower} (h : (judge policy g field pair property method).1 = .follower f) :
    (isEditable g method).1 = true ∧
      f.escalated = (decide (policy ≠ .proceed) && Filter.isTransitivelyPublic g method) := by
  obtain ⟨-, -, c, hc⟩ := (isEditable_asks hm).recalls hg
  unfold judge at h
  cases hspelling : Name.accessor? method.name with
  | none =>
      rw [hspelling] at h
      cases h
  | some spelling =>
      rw [hspelling] at h
      dsimp only at h
      split at h
      · cases h
      · split at h
        · cases h
        · next heditable =>
            split at h
            · cases h
            · obtain rfl := Contribution.follower.inj h
              refine ⟨by simpa using heditable, ?_⟩
              dsimp only
              rw [hc]
              rfl

/-- No escalated follower is left. -/
theorem not_escalated_of_mem_settle {fs : List Follower} {f : Follower}
    (hf : f ∈ settle policy fs) : f.escalated = false := by
  unfold settle at hf
  split at hf
  · split at hf
    · cases hf
    · simpa using (List.mem_filter.1 hf).2
  · next hnone =>
      simp only [List.any_eq_true, not_exists, not_and, Bool.not_eq_true] at hnone
      exact hnone f hf

/-- A follower of a field can be edited, and unless the policy is to proceed it is not public. -/
theorem not_public_of_mem_settled {g : Graph} (hg : g.WellFormed) (hpolicy : policy ≠ .proceed)
    {name : String} {f : Follower} (hf : f ∈ (settled policy g field name).1) :
    (isEditable g f.method).1 = true ∧ f.method.visibility ≠ .pub := by
  unfold settled at hf
  split at hf
  · cases hf
  · dsimp only at hf
    rcases hfs : followers policy field (g.accessors field) (Name.property name) g
      (g.accessors field).methods with ⟨found, h⟩
    rw [hfs] at hf
    cases found with
    | none => cases hf
    | some fs =>
        have hms : ∀ m ∈ (g.accessors field).methods, m ∈ g.symbols :=
          fun m hm => (mem_accessors hm).1
        obtain ⟨hmem, k, hjudge, hrecalls⟩ :=
          exists_judge_of_mem_followers (g := g) (congrArg Prod.fst hfs) (settle_subset hf)
        have hasks :
            g.Asks (judge policy · field (g.accessors field) (Name.property name) f.method) :=
          judge_asks (hms _ hmem)
        obtain ⟨heditable, hescalated⟩ := judge_editable hg (hms _ hmem)
          ((hasks.answer_eq (hrecalls (Recalls.refl hg) hms)).symm.trans hjudge)
        refine ⟨heditable, fun hpublic => ?_⟩
        rw [not_escalated_of_mem_settle hf] at hescalated
        simp [hpolicy, Filter.isTransitivelyPublic, hpublic] at hescalated

end Cascade

/-! ## Commits -/

namespace Workflow

variable {policy : Policy} {g g' : Graph} {s : Symbol} {p : Plan}

/-- A symbol that passes the checks is part of the program text and not public. -/
theorem Commit.primary_not_public (hc : Commit policy g s p g') (ht : g.Tiered)
    (hpublic : policy.filter.renamePublic = false) : s.isPhysical ∧ s.visibility ≠ .pub := by
  have hphysical : s.isPhysical := by
    have hfirst := hc.first
    unfold Filter.firstRule? at hfirst
    split_ifs at hfirst with h
    simpa using h
  have henabled : policy.filter.visibilityEnabled g s := by
    have hlater := hc.later
    unfold Filter.laterRule at hlater
    split_ifs at hlater with _ _ _ _ _ _ hvisible
    simpa using hvisible
  refine ⟨hphysical, fun hpub => ?_⟩
  by_cases hlocal : s.isLocal
  · exact ht.locals s hc.mem hlocal hpub
  · simp [Filter.visibilityEnabled, hlocal, Filter.isTransitivelyPublic, hpub, Filter.tier,
      hpublic] at henabled

/-- The family of an accessor is seen as far as the accessor. -/
theorem visibility_of_kin (hg : g.WellFormed) (ht : g.Tiered) {method m : Symbol}
    (hmethod : method ∈ g.symbols) (heditable : (Cascade.isEditable g method).1 = true)
    (hm : Cascade.Kin g method.id m) : m.visibility = method.visibility := by
  obtain ⟨hphysical, hroots⟩ := (Cascade.isEditable_iff hg).1 heditable
  obtain ⟨hmem, hid | ⟨hmphysical, r, hr, hbelow⟩⟩ := hm
  · rw [hg.symbol_ext hmem hmethod hid]
  · -- Up to a root and down again: the root is part of the program text, as both ends are.
    obtain ⟨hup, -⟩ := (mem_findRoots hg (mem_symbolIds_of_mem hmethod)).1 hr
    obtain ⟨R, hR, rfl⟩ := mem_symbolIds.1
      (mem_symbolIds_of_reflTransGen hg (mem_symbolIds_of_mem hmethod) hup)
    have hRphysical := hroots R hR hr
    have hdown := (eq_or_mem_overriders hg (mem_symbolIds_of_mem hR)).1 hbelow
    exact (ht.visibility_of_overrides hg hmem hR hmphysical hRphysical hdown).trans
      (ht.visibility_of_overrides hg hmethod hR hphysical hRphysical hup).symm

/-- **One commit.** With the public tier off and public accessors left out, no public symbol is in a
plan. -/
theorem Commit.not_public (hg : g.WellFormed) (ht : g.Tiered) (hc : Commit policy g s p g')
    (hpublic : policy.filter.renamePublic = false) (hpolicy : policy.accessors ≠ .proceed)
    {t : Symbol} (htg : t ∈ g.symbols) (hmem : t.id ∈ p.symbols) : t.visibility ≠ .pub := by
  obtain ⟨hphysical, hprimary⟩ := hc.primary_not_public ht hpublic
  rcases (hc.planFor.mem_symbols _).1 hmem with hid | ⟨r, hdrag, hid⟩
  · rwa [hg.symbol_ext htg hc.mem hid]
  · cases hdrag with
    | overrider hm hmphysical hover =>
        obtain rfl := hg.symbol_ext hm htg hid
        have hbelow := ((mem_overriders hg (mem_symbolIds_of_mem hc.mem)).1 hover).2
        rwa [ht.overrides _ hm s hc.mem hmphysical hphysical hbelow]
    | follower hf hr =>
        obtain ⟨heditable, hfollower⟩ := Cascade.not_public_of_mem_settled hg hpolicy hf
        have hfmem := (mem_accessors (Cascade.mem_settled hf).1).1
        obtain ⟨m, hkin, rfl | hparameter⟩ := hr
        · obtain rfl := hg.symbol_ext hkin.1 htg hid
          rwa [visibility_of_kin hg ht hfmem heditable hkin]
        · obtain ⟨q, hq, rfl, hmq, -⟩ := Cascade.mem_setterParameter hg hparameter
          obtain rfl := hg.symbol_ext hq htg hid
          exact ht.parameters m hkin.1 q hq hmq

/-! ## Runs -/

variable {σ : Type} [Candidates σ]

/-- **Public names are never touched.** With the public tier off and public accessors left out, no
plan that a run commits holds a public symbol, and all public symbols keep their names. -/
theorem public_kept (w : Workflow σ) (program : Program) (hg : program.graph.WellFormed)
    (ht : program.graph.Tiered) (hpublic : w.policy.filter.renamePublic = false)
    (hpolicy : w.policy.accessors = .skipAccessor ∨ w.policy.accessors = .skipCascade)
    (ids : List SymbolId) :
    (∀ g s p, w.Commits program ids g s p →
        ∀ t ∈ g.symbols, t.id ∈ p.symbols → t.visibility ≠ .pub) ∧
      ∀ t ∈ program.graph.symbols, t.visibility = .pub →
        (w.after program ids).2.graph.nameOf t.id = t.name := by
  have hskip : w.policy.accessors ≠ .proceed := by
    rcases hpolicy with h | h <;> simp [h]
  constructor
  · rintro g s p ⟨before, rest, -, rfl, hat⟩ t htg hmem
    obtain ⟨ν, hν⟩ := after_renamed (w := w) hg before
    exact (hat.commit hg).not_public (after_wellFormed hg before) (ht.of_renamed hν) hpublic hskip
      htg hmem
  · intro t htg hpub
    refine nameOf_after_of_not_mem hg htg fun g s p ν _ hwf hν ⟨g', hcommit⟩ hmem => ?_
    exact hcommit.not_public hwf (ht.of_renamed hν) hpublic hskip (hν.withName_mem htg) hmem hpub

/-- A field with a public getter, which a subclass overrides, and a setter that is not public. -/
def gauge : Graph where
  scopes := [
    { id := "Gauge", kind := .type, owner := some "::Gauge" },
    { id := "Gauge.set_level", kind := .function, parent := some "Gauge" },
    { id := "Tank", kind := .type, owner := some "::Tank" }]
  symbols := [
    { id := "::Gauge", name := "Gauge", kind := .type },
    { id := "Gauge::level", name := "_level", kind := .variable, visibility := .prot,
      scope := some "Gauge", isField := true },
    { id := "Gauge::get_level", name := "get_level", kind := .method, scope := some "Gauge" },
    { id := "Gauge::set_level", name := "_set_level", kind := .method, visibility := .prot,
      scope := some "Gauge", parameters := ["Gauge.set_level::level"] },
    { id := "Gauge.set_level::level", name := "level", kind := .variable, visibility := .priv,
      scope := some "Gauge.set_level", isLocal := true },
    { id := "::Tank", name := "Tank", kind := .type },
    { id := "Tank::get_level", name := "get_level", kind := .method, scope := some "Tank",
      isOverride := true }]
  naming := ["::Gauge", "Gauge::level", "Gauge::get_level", "Gauge::set_level",
    "Gauge.set_level::level", "::Tank", "Tank::get_level"]
  supertypeEdges := [("::Tank", "::Gauge")]
  overrideEdges := [("Tank::get_level", "Gauge::get_level")]

/-- The field takes its setter along and leaves the public getter and its override alone. -/
theorem public_kept_gauge :
    ((proposing ["depth"]).after { graph := gauge } gauge.symbolIds).2.graph.nameOf
        "Gauge::set_level" = "_set_depth" ∧
      ∀ t ∈ gauge.symbols, t.visibility = .pub →
        ((proposing ["depth"]).after { graph := gauge } gauge.symbolIds).2.graph.nameOf t.id =
          t.name := by
  have hg : gauge.WellFormed := by decide +kernel
  have ht : gauge.Tiered :=
    { overrides := fun a ha b hb _ _ hab =>
        Tiered.overrides_of_edges hg (by decide +kernel) ha hb hab
      locals := by decide +kernel
      parameters := by decide +kernel }
  refine ⟨by decide +kernel, ?_⟩
  exact (public_kept (proposing ["depth"]) { graph := gauge } hg ht rfl (Or.inl rfl)
    gauge.symbolIds).2

end Workflow

end Pseudonym
