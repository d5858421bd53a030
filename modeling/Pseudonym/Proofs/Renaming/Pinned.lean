import Pseudonym.Proofs.Renaming.Workflow

/-!
# Pinned symbols

A symbol is pinned when it is reached by name at run time, when a marker blocks it, or when the tier
of its own visibility is switched off. The checks look at the symbol for which a plan is made, and
there not at its own tier: what decides is whether the symbol or an override of it is public. What
the plan drags along is not looked at. So a commit leaves pinned symbols alone exactly when it
spares them (`pinned_spared_iff`); an override with a marker of its own is renamed with its root
(`pinned_renamed_hooks`).
-/

namespace Pseudonym

open Pseudonym.Graph

namespace Filter

variable {f : Filter}

/-- The symbol must keep its name. -/
def Pinned (f : Filter) (g : Graph) (s : Symbol) : Prop :=
  s.isDynamic ∨ (f.markerPresence g s).blocks ∨ (!s.isLocal ∧ !f.tier s.visibility)

instance (f : Filter) (g : Graph) (s : Symbol) : Decidable (f.Pinned g s) :=
  inferInstanceAs (Decidable (_ ∨ _ ∨ _))

/-! ## Names do not matter -/

section Renamed

variable {ν : Symbol → String} {g h : Graph} (r : Renamed ν g h)
include r

theorem ownPresence_eq (s : Symbol) (name : String) :
    f.ownPresence h (s.withName name) = f.ownPresence g s := by
  unfold ownPresence
  rw [Symbol.withName_kind, Symbol.withName_id]
  split
  · rw [r.allSupertypes_eq, r.symbolsOf_eq]
    dsimp only
    rw [List.map_cons, List.map_map]
    rfl
  · rfl

theorem inheritsFrom_eq : inheritsFrom h = inheritsFrom g := by
  funext id
  unfold inheritsFrom
  rw [r.superMembers_eq, r.symbol?_eq]
  refine congrArg (g.superMembers id ++ ·) ?_
  cases g.symbol? id with
  | none => rfl
  | some s =>
      show ((h.enclosing (s.withName (ν s))).map (·.id)).toList =
        ((g.enclosing s).map (·.id)).toList
      unfold enclosing
      rw [Symbol.withName_scope, r.scope?_eq]
      cases s.scope with
      | none => rfl
      | some id =>
          cases hc : g.scope? id with
          | none => simp [hc]
          | some c =>
              cases ho : c.owner with
              | none => simp [hc, ho]
              | some owner =>
                  simp only [Option.bind_eq_bind, Option.bind_some, hc, ho, r.symbol?_eq,
                    Option.map_map]
                  rfl

theorem presenceOf_eq : f.presenceOf h = f.presenceOf g := by
  funext id
  unfold presenceOf
  rw [r.symbol?_eq, Option.map_map]
  refine congrArg (Option.getD · _) (Option.map_congr fun t _ => ?_)
  exact ownPresence_eq r t (ν t)

theorem markerPresence_eq (s : Symbol) (name : String) :
    f.markerPresence h (s.withName name) = f.markerPresence g s := by
  unfold markerPresence
  rw [inheritsFrom_eq r, presenceOf_eq r, r.symbolIds_eq, r.symbols_eq, List.length_map]
  rfl

theorem pinned_withName (s : Symbol) (name : String) :
    f.Pinned h (s.withName name) ↔ f.Pinned g s := by
  unfold Pinned
  rw [markerPresence_eq r]
  rfl

end Renamed

end Filter

/-! ## Commits that spare pinned symbols -/

/-- Giving `s` the name `name` touches no pinned symbol: the tier of `s` itself is switched on, and
nothing that is dragged along is pinned. -/
structure Spares (policy : Policy) (g : Graph) (s : Symbol) (name : String) : Prop where
  tier : s.isLocal ∨ policy.filter.tier s.visibility
  dragged : ∀ r, Drags policy.accessors g s name r → ∀ t ∈ g.symbols, t.id = r.symbol →
    ¬ policy.filter.Pinned g t

namespace Workflow

/-- The symbol for which a plan is made is not dynamic, and no marker blocks it. -/
theorem Commit.not_blocked {policy : Policy} {g g' : Graph} {s : Symbol} {p : Plan}
    (hc : Commit policy g s p g') :
    ¬ s.isDynamic ∧ ¬ (policy.filter.markerPresence g s).blocks := by
  have hlater := hc.later
  unfold Filter.laterRule at hlater
  split_ifs at hlater with _ _ _ hdynamic hblocks
  exact ⟨hdynamic, hblocks⟩

theorem Commit.pinned_iff {policy : Policy} {g g' : Graph} {s : Symbol} {p : Plan}
    (hc : Commit policy g s p g') :
    policy.filter.Pinned g s ↔ ¬ (s.isLocal ∨ policy.filter.tier s.visibility) := by
  obtain ⟨hdynamic, hblocks⟩ := hc.not_blocked
  simp [Filter.Pinned, hdynamic, hblocks]

/-- **One commit.** A plan holds no pinned symbol exactly when it spares them. -/
theorem Commit.spares_iff {policy : Policy} {g g' : Graph} {s : Symbol} {p : Plan}
    (hg : g.WellFormed) (hc : Commit policy g s p g') :
    (∀ t ∈ g.symbols, t.id ∈ p.symbols → ¬ policy.filter.Pinned g t) ↔
      Spares policy g s p.name := by
  constructor
  · intro hall
    refine ⟨?_, fun r hr t ht hid => ?_⟩
    · -- The checks leave the tier as the only way for the symbol itself to be pinned.
      have hs := hall s hc.mem ((hc.planFor.mem_symbols _).2 (Or.inl rfl))
      exact not_not.1 fun htier => hs (hc.pinned_iff.2 htier)
    · exact hall t ht ((hc.planFor.mem_symbols _).2 (Or.inr ⟨r, hr, hid.symm⟩))
  · intro hspares t ht hmem
    rcases (hc.planFor.mem_symbols _).1 hmem with hid | ⟨r, hr, hid⟩
    · obtain rfl := hg.symbol_ext ht hc.mem hid
      exact fun hpinned => hc.pinned_iff.1 hpinned hspares.tier
    · exact hspares.dragged r hr t ht hid.symm

variable {σ : Type} [Candidates σ]

/-- Where every commit spares pinned symbols, they keep their names. -/
theorem nameOf_after_of_pinned {w : Workflow σ} {program : Program} (hg : program.graph.WellFormed)
    {ids : List SymbolId}
    (hspares : ∀ g s p, w.Commits program ids g s p → Spares w.policy g s p.name)
    {t : Symbol} (ht : t ∈ program.graph.symbols)
    (hpinned : w.policy.filter.Pinned program.graph t) :
    (w.after program ids).2.graph.nameOf t.id = t.name := by
  refine nameOf_after_of_not_mem hg ht fun g s p ν hcommits hwf hν ⟨g', hcommit⟩ hmem => ?_
  -- The symbol is pinned under its present name too, so the plan does not hold it.
  exact (hcommit.spares_iff hwf).2 (hspares g s p hcommits) _ (hν.withName_mem ht) hmem
    ((Filter.pinned_withName hν t (ν t)).2 hpinned)

/-- **Pinned symbols** are in no plan that a run commits exactly when the commit spares them, and
where every commit does they keep their names. -/
theorem pinned_spared_iff (w : Workflow σ) (program : Program) (hg : program.graph.WellFormed)
    (ids : List SymbolId) :
    (∀ g s p, w.Commits program ids g s p →
      ((∀ t ∈ g.symbols, t.id ∈ p.symbols → ¬ w.policy.filter.Pinned g t) ↔
        Spares w.policy g s p.name)) ∧
    ((∀ g s p, w.Commits program ids g s p → Spares w.policy g s p.name) →
      ∀ t ∈ program.graph.symbols, w.policy.filter.Pinned program.graph t →
        (w.after program ids).2.graph.nameOf t.id = t.name) := by
  constructor
  · rintro g s p ⟨before, rest, -, rfl, hat⟩
    exact (hat.commit hg).spares_iff (after_wellFormed hg before)
  · intro hspares t ht hpinned
    exact nameOf_after_of_pinned hg hspares ht hpinned

/-- A method and an override of it that a framework calls by name. -/
def hooks : Graph where
  scopes := [{ id := "Base", kind := .type }, { id := "Plugin", kind := .type }]
  symbols := [
    { id := "Base::start", name := "_start", kind := .method, visibility := .prot,
      scope := some "Base" },
    { id := "Plugin::start", name := "_start", kind := .method, visibility := .prot,
      scope := some "Plugin", markers := [some "host.hook"], isOverride := true }]
  naming := ["Base::start", "Plugin::start"]
  overrideEdges := [("Plugin::start", "Base::start")]

/-- A workflow that keeps what carries the marker of the framework. -/
def hookKeeper : Workflow CandidateScript :=
  proposing ["begin"] { filter := { ignoreMarkers := { names := ["host.hook"] } } }

/-- The plan for the method holds the override. -/
def startPlan : Plan where
  primary := "Base::start"
  name := "_begin"
  cascade := [⟨"Plugin::start", "_begin"⟩]

/-- The same with an override that carries no marker, beside a method that does. -/
def drills : Graph where
  scopes := hooks.scopes
  symbols := [
    { id := "Base::start", name := "_start", kind := .method, visibility := .prot,
      scope := some "Base" },
    { id := "Plugin::start", name := "_start", kind := .method, visibility := .prot,
      scope := some "Plugin", isOverride := true },
    { id := "Plugin::stop", name := "_stop", kind := .method, visibility := .prot,
      scope := some "Plugin", markers := [some "host.hook"] }]
  naming := ["Base::start", "Plugin::start", "Plugin::stop"]
  overrideEdges := hooks.overrideEdges

/-- The commit for the method does not spare the override if that carries the marker. It does if it
carries none, and then the method that carries it keeps its name. -/
theorem pinned_spared_iff_hooks :
    (∃ s p, hookKeeper.Commits { graph := hooks } ["Base::start"] hooks s p ∧
      ¬ Spares hookKeeper.policy hooks s p.name) ∧
    (∃ s p, hookKeeper.Commits { graph := drills } ["Base::start"] drills s p ∧ p.cascade ≠ [] ∧
      Spares hookKeeper.policy drills s p.name) ∧
    (hookKeeper.after { graph := drills } ["Base::start"]).2.graph.nameOf "Plugin::stop" =
      "_stop" := by
  have hstarts : hookKeeper.Commits { graph := hooks } ["Base::start"] hooks
      (hooks.symbols.head (by decide)) startPlan :=
    ⟨[], [], by decide +kernel, rfl, by decide +kernel, by decide +kernel⟩
  have hdrills : hookKeeper.Commits { graph := drills } ["Base::start"] drills
      (drills.symbols.head (by decide)) startPlan :=
    ⟨[], [], by decide +kernel, rfl, by decide +kernel, by decide +kernel⟩
  obtain ⟨hiff, hkeeps⟩ := pinned_spared_iff hookKeeper { graph := drills } (by decide +kernel)
    ["Base::start"]
  have hspares : Spares hookKeeper.policy drills (drills.symbols.head (by decide)) startPlan.name :=
    (hiff _ _ _ hdrills).1 (by decide +kernel)
  -- There is only one commit.
  have hall : ∀ g s p, hookKeeper.Commits { graph := drills } ["Base::start"] g s p →
      Spares hookKeeper.policy g s p.name := by
    rintro g s p ⟨before, rest, hids, rfl, hs, hplan⟩
    obtain ⟨rfl, hid, -⟩ : before = [] ∧ s.id = "Base::start" ∧ rest = [] := by
      simpa [eq_comm] using List.singleton_eq_append_iff.1 hids
    have hfirst : ∀ s ∈ drills.symbols, s.id = "Base::start" →
        s = drills.symbols.head (by decide) := by decide +kernel
    obtain rfl := hfirst s hs hid
    have hplanned : (hookKeeper.process { graph := drills } (drills.symbols.head (by decide))).1.plan =
        some startPlan := by decide +kernel
    obtain rfl : startPlan = p := Option.some.inj (hplanned.symm.trans hplan)
    exact hspares
  refine ⟨⟨_, startPlan, hstarts, fun hspares => ?_⟩, ⟨_, startPlan, hdrills, by decide, hspares⟩,
    hkeeps hall (drills.symbols.getLast (by decide)) (by decide +kernel) (by decide +kernel)⟩
  have hnone := ((pinned_spared_iff hookKeeper { graph := hooks } (by decide +kernel)
    ["Base::start"]).1 _ _ _ hstarts).2 hspares
  exact absurd hnone (by decide +kernel)

/-- An override that carries a marker is renamed with its root. -/
theorem pinned_renamed_hooks :
    (∃ t ∈ hooks.symbols, t.id = "Plugin::start" ∧ hookKeeper.policy.filter.Pinned hooks t) ∧
      hooks.nameOf "Plugin::start" = "_start" ∧
      (hookKeeper.after { graph := hooks } ["Base::start"]).2.graph.nameOf "Plugin::start" =
        "_begin" :=
  ⟨by decide +kernel, by decide +kernel, by decide +kernel⟩

end Workflow

end Pseudonym
