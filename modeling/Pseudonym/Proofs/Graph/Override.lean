import Mathlib.Data.Fintype.Order
import Mathlib.Order.WellFounded
import Pseudonym.Proofs.Graph.Renamed

/-!
# Families of overrides

The questions about overriders and roots are exact: `overriders` lists what lies below a member in
the order of overrides and `findRoots` the ends of the chains above it (`mem_overriders`,
`mem_findRoots`). Without cycles every member has a root (`exists_root`).
-/

namespace Pseudonym.Graph

open Relation

variable {g : Graph}

/-- A member overrides another one directly. -/
def Overrides (g : Graph) (m o : SymbolId) : Prop := (m, o) ∈ g.overrideEdges

theorem edge_superMembers : Edge g.superMembers = g.Overrides := by
  funext m o
  exact propext mem_superMembers

theorem edge_directOverriders : Edge g.directOverriders = Function.swap g.Overrides := by
  funext m o
  exact propext mem_directOverriders

/-- Within registered symbols a closure is what one or more steps reach, the start left out. -/
theorem mem_closure (hg : g.WellFormed) {next : SymbolId → List SymbolId}
    (closed : ∀ a, next a ⊆ g.symbolIds) {start x : SymbolId} (hstart : start ∈ g.symbolIds) :
    x ∈ g.closure next start ↔ x ≠ start ∧ TransGen (Edge next) start x := by
  have hwhole : reach next g.symbolIds [start] = start :: g.closure next start := by
    rw [reach_cons, if_pos hstart, List.nil_append, closure]
  have hnd : (reach next g.symbolIds [start]).Nodup := nodup_reach hg.symbolIds_nodup
  have hmem : x ∈ reach next g.symbolIds [start] ↔ ReflTransGen (Edge next) start x := by
    simp [mem_reach_of_closed fun a _ => closed a, hstart]
  rw [hwhole] at hnd hmem
  have hfresh : start ∉ g.closure next start := (List.nodup_cons.1 hnd).1
  rw [List.mem_cons, reflTransGen_iff_eq_or_transGen] at hmem
  constructor
  · intro hx
    have hne : x ≠ start := fun heq => hfresh (heq ▸ hx)
    exact ⟨hne, (hmem.1 (Or.inr hx)).resolve_left hne⟩
  · rintro ⟨hne, hx⟩
    exact (hmem.2 (Or.inr hx)).resolve_left hne

theorem WellFormed.directOverriders_subset (hg : g.WellFormed) (m : SymbolId) :
    g.directOverriders m ⊆ g.symbolIds :=
  fun _ h => (hg.override_mem _ (mem_directOverriders.1 h)).1

theorem WellFormed.superMembers_subset (hg : g.WellFormed) (m : SymbolId) :
    g.superMembers m ⊆ g.symbolIds :=
  fun _ h => (hg.override_mem _ (mem_superMembers.1 h)).2

/-- The overriders of a member are the other members from which overrides lead to it. -/
theorem mem_overriders (hg : g.WellFormed) {m x : SymbolId} (hm : m ∈ g.symbolIds) :
    x ∈ g.overriders m ↔ x ≠ m ∧ TransGen g.Overrides x m := by
  rw [overriders, mem_closure hg hg.directOverriders_subset hm, edge_directOverriders,
    transGen_swap]

/-- A member and its overriders are everything from which overrides lead to it. -/
theorem eq_or_mem_overriders (hg : g.WellFormed) {m x : SymbolId} (hm : m ∈ g.symbolIds) :
    (x = m ∨ x ∈ g.overriders m) ↔ ReflTransGen g.Overrides x m := by
  rw [mem_overriders hg hm, reflTransGen_iff_eq_or_transGen]
  constructor
  · rintro (rfl | h)
    · exact Or.inl rfl
    · exact Or.inr h.2
  · rintro (rfl | h)
    · exact Or.inl rfl
    · by_cases hx : x = m
      · exact Or.inl hx
      · exact Or.inr ⟨hx, h⟩

/-- The roots of a member are the members above it that override nothing. -/
theorem mem_findRoots (hg : g.WellFormed) {m r : SymbolId} (hm : m ∈ g.symbolIds) :
    r ∈ g.findRoots m ↔ ReflTransGen g.Overrides m r ∧ ∀ o, ¬ g.Overrides r o := by
  have hempty : (g.superMembers r).isEmpty = true ↔ ∀ o, ¬ g.Overrides r o := by
    rw [List.isEmpty_iff, List.eq_nil_iff_forall_not_mem]
    exact forall_congr' fun o => not_congr mem_superMembers
  rw [findRoots, List.mem_filter, mem_reach_of_closed fun a _ => hg.superMembers_subset a, hempty,
    edge_superMembers]
  simp [hm]

theorem mem_symbolIds_of_reflTransGen (hg : g.WellFormed) {m r : SymbolId} (hm : m ∈ g.symbolIds)
    (h : ReflTransGen g.Overrides m r) : r ∈ g.symbolIds := by
  rcases ReflTransGen.cases_tail h with rfl | ⟨_, _, h⟩
  · exact hm
  · exact (hg.override_mem _ h).2

/-- No member overrides itself, directly or through others. -/
def OverridesAcyclic (g : Graph) : Prop := ∀ m, ¬ TransGen g.Overrides m m

/-- A measure that falls along overrides excludes cycles. -/
theorem OverridesAcyclic.of_measure (measure : SymbolId → Nat)
    (h : ∀ e ∈ g.overrideEdges, measure e.2 < measure e.1) : g.OverridesAcyclic := by
  have hdown : ∀ {m o}, TransGen g.Overrides m o → measure o < measure m := by
    intro m o hmo
    induction hmo with
    | single hmo => exact h _ hmo
    | tail _ hmo ih => exact Nat.lt_trans (h _ hmo) ih
  exact fun m hm => Nat.lt_irrefl _ (hdown hm)

/-- Without cycles every chain of overrides ends. -/
theorem exists_root (hg : g.WellFormed) (hac : g.OverridesAcyclic) {m : SymbolId}
    (hm : m ∈ g.symbolIds) : ∃ r, r ∈ g.findRoots m := by
  -- Registered members are finitely many, so "lies above" is well founded on them.
  let above (a b : { x // x ∈ g.symbolIds }) : Prop := TransGen g.Overrides b.1 a.1
  have : IsTrans _ above := ⟨fun _ _ _ hab hbc => hbc.trans hab⟩
  have : Std.Irrefl above := ⟨fun a ha => hac a.1 ha⟩
  have hwf : WellFounded above := Finite.wellFounded_of_trans_of_irrefl above
  have hmain : ∀ a : { x // x ∈ g.symbolIds }, ∃ r, r ∈ g.findRoots a.1 := by
    intro a
    induction a using hwf.induction with
    | _ a ih =>
        by_cases htop : ∀ o, ¬ g.Overrides a.1 o
        · exact ⟨a.1, (mem_findRoots hg a.2).2 ⟨.refl, htop⟩⟩
        · obtain ⟨o, ho⟩ := not_forall_not.1 htop
          have hoid : o ∈ g.symbolIds := (hg.override_mem _ ho).2
          obtain ⟨r, hr⟩ := ih ⟨o, hoid⟩ (.single ho)
          obtain ⟨hor, hend⟩ := (mem_findRoots hg hoid).1 hr
          exact ⟨r, (mem_findRoots hg a.2).2 ⟨.head ho hor, hend⟩⟩
  exact hmain ⟨m, hm⟩

end Pseudonym.Graph
