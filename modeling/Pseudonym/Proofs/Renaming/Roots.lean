import Pseudonym.Proofs.Renaming.Workflow

/-!
# Roots and overriders of a graph in use

A graph is built, renamed and asked for roots in any order. A `Call` is one of these operations, and
`Graph.afterAll` is what calls made one after the other leave of a graph. A call about registered
symbols keeps a graph well formed (`Call.wellFormed`), so what is remembered about roots is right at
every moment, and the override edges are those that the calls recorded
(`Call.mem_overrideEdges_after`). Hence roots and overriders are exact whatever was asked before,
and a member that overrides another one is no root of its own and never renamed for its own sake
(`roots_exact`).
-/

namespace Pseudonym.Graph

open Relation

/-! ## Calls -/

/-- An operation on a graph. -/
inductive Call where
  | addScope (scope : Scope)
  | addSymbol (s : Symbol)
  | addSupertype (type supertype : SymbolId)
  | addOverride (member overridden : SymbolId)
  | rename (id : SymbolId) (name : String)
  | forgetRoots
  | deepestRoots (id : SymbolId)

namespace Call

/-- What a call leaves of a graph; a refused registration changes nothing. -/
def after (g : Graph) : Call → Graph
  | addScope scope => (g.addScope scope).toOption.getD g
  | addSymbol s => (g.addSymbol s).toOption.getD g
  | addSupertype type supertype => g.addSupertype type supertype
  | addOverride member overridden => g.addOverride member overridden
  | rename id name => g.rename id name
  | forgetRoots => g.forgetRoots
  | deepestRoots id => (g.deepestRoots id).2

/-- The symbols that a call is about, as far as it does not register them. -/
def subjects : Call → List SymbolId
  | addScope _ | addSymbol _ | forgetRoots => []
  | addSupertype type supertype => [type, supertype]
  | addOverride member overridden => [member, overridden]
  | rename id _ => [id]
  | deepestRoots id => [id]

end Call

/-- What calls made one after the other leave of a graph. -/
def afterAll (g : Graph) (calls : List Call) : Graph := calls.foldl Call.after g

/-- Every call is about symbols that are registered by then. -/
def AllRegistered (g : Graph) : List Call → Prop
  | [] => True
  | call :: calls =>
    (∀ id ∈ call.subjects, id ∈ g.symbolIds) ∧ AllRegistered (call.after g) calls

instance decidableAllRegistered : ∀ (g : Graph) (calls : List Call),
    Decidable (g.AllRegistered calls)
  | _, [] => .isTrue trivial
  | g, call :: calls =>
    have := decidableAllRegistered (call.after g) calls
    inferInstanceAs (Decidable ((∀ id ∈ call.subjects, id ∈ g.symbolIds) ∧ AllRegistered _ calls))

variable {g : Graph}

/-! ## One call -/

namespace Call

theorem wellFormed (hg : g.WellFormed) {call : Call}
    (h : ∀ id ∈ call.subjects, id ∈ g.symbolIds) : (call.after g).WellFormed := by
  cases call with
  | addScope scope =>
      rw [after]
      cases hadd : g.addScope scope with
      | error => exact hg
      | ok => exact hg.addScope hadd
  | addSymbol s =>
      rw [after]
      cases hadd : g.addSymbol s with
      | error => exact hg
      | ok => exact hg.addSymbol hadd
  | addSupertype type supertype =>
      obtain ⟨htype, hsuper⟩ := List.forall_mem_cons.1 h
      exact hg.addSupertype htype (List.forall_mem_singleton.1 hsuper)
  | addOverride member overridden =>
      obtain ⟨hmember, hoverridden⟩ := List.forall_mem_cons.1 h
      exact hg.addOverride hmember (List.forall_mem_singleton.1 hoverridden)
  | rename id name => exact hg.rename (List.forall_mem_singleton.1 h) name
  | forgetRoots => exact hg.forgetRoots
  | deepestRoots id => exact hg.deepestRoots (List.forall_mem_singleton.1 h)

/-- Only a recorded override adds an edge, and it does unless a member would override itself. -/
theorem mem_overrideEdges_after {call : Call} {m o : SymbolId} :
    (m, o) ∈ (call.after g).overrideEdges ↔
      (m, o) ∈ g.overrideEdges ∨ (m ≠ o ∧ call = .addOverride m o) := by
  cases call with
  | addScope scope =>
      rw [after, Graph.addScope]
      split <;> simp [Except.toOption]
  | addSymbol s =>
      rw [after, Graph.addSymbol]
      split <;> simp [Except.toOption]
  | addSupertype type supertype =>
      rw [after, Graph.addSupertype]
      split <;> simp [Graph.forgetRoots]
  | addOverride member overridden =>
      have hedges : (g.addOverride member overridden).overrideEdges =
          if member = overridden ∨ (member, overridden) ∈ g.overrideEdges then g.overrideEdges
          else g.overrideEdges ++ [(member, overridden)] := by
        rw [Graph.addOverride]
        split <;> rfl
      rw [after, hedges, addOverride.injEq]
      split
      · next hkept =>
          refine ⟨Or.inl, ?_⟩
          rintro (hold | ⟨hne, rfl, rfl⟩)
          · exact hold
          · exact hkept.resolve_left hne
      · next hnew =>
          rw [List.mem_append, List.mem_singleton, Prod.mk.injEq, eq_comm (a := m),
            eq_comm (a := o)]
          refine or_congr_right ⟨?_, And.right⟩
          rintro ⟨rfl, rfl⟩
          exact ⟨fun heq => hnew (Or.inl heq), rfl, rfl⟩
  | rename id name =>
      rw [after, Graph.rename]
      split <;> simp [updateSymbol]
  | forgetRoots => simp [after, Graph.forgetRoots]
  | deepestRoots id =>
      rw [after, Graph.deepestRoots]
      split <;> simp

end Call

/-! ## Runs of calls -/

theorem WellFormed.afterAll : ∀ {calls : List Call} {g : Graph}, g.WellFormed →
    g.AllRegistered calls → (g.afterAll calls).WellFormed
  | [], _, hg, _ => hg
  | _ :: _, _, hg, hcalls => (Call.wellFormed hg hcalls.1).afterAll hcalls.2

theorem mem_overrideEdges_afterAll {m o : SymbolId} : ∀ {calls : List Call} {g : Graph},
    (m, o) ∈ (g.afterAll calls).overrideEdges ↔
      (m, o) ∈ g.overrideEdges ∨ (m ≠ o ∧ .addOverride m o ∈ calls)
  | [], g => by simp [Graph.afterAll]
  | call :: calls, g => by
      have hrest : (m, o) ∈ ((call.after g).afterAll calls).overrideEdges ↔ _ :=
        mem_overrideEdges_afterAll
      rw [Call.mem_overrideEdges_after] at hrest
      rw [show g.afterAll (call :: calls) = (call.after g).afterAll calls from rfl, hrest,
        List.mem_cons, or_assoc, and_or_left, eq_comm (a := call)]

/-! ## Exact answers -/

theorem WellFormed.nodup_findRoots (hg : g.WellFormed) (m : SymbolId) : (g.findRoots m).Nodup :=
  (nodup_reach hg.symbolIds_nodup).filter _

theorem WellFormed.nodup_overriders (hg : g.WellFormed) (m : SymbolId) :
    (g.overriders m).Nodup :=
  nodup_reach (hg.symbolIds_nodup.erase m)

/-- A member that overrides another one is no root. -/
theorem findRoots_ne_of_overrides (hg : g.WellFormed) {m o : SymbolId} (ho : g.Overrides m o) :
    g.findRoots m ≠ [m] := by
  intro hroots
  have hself : m ∈ g.findRoots m := hroots ▸ List.mem_singleton_self m
  exact ((mem_findRoots hg (hg.override_mem _ ho).1).1 hself).2 o ho

/-- **Roots and overriders are exact** after any calls. A symbol overrides directly what a call
recorded; `deepestRoots` lists the symbols above it that override nothing, and `overriders` those
below it, each once. A symbol that overrides anything is not its own only root, and no plan is made
for it. -/
theorem roots_exact {σ : Type} [Candidates σ] {calls : List Call}
    (hcalls : AllRegistered {} calls) {s : Symbol} (hs : s ∈ (afterAll {} calls).symbols) :
    let g := afterAll {} calls
    let Up (m o : SymbolId) : Prop := o ∈ g.superMembers m
    (∀ m o, Up m o ↔ m ≠ o ∧ .addOverride m o ∈ calls) ∧
      ((g.deepestRoots s.id).1.Nodup ∧
        ∀ r, r ∈ (g.deepestRoots s.id).1 ↔ ReflTransGen Up s.id r ∧ ∀ o, ¬ Up r o) ∧
      ((g.overriders s.id).Nodup ∧
        ∀ m, m ∈ g.overriders s.id ↔ m ≠ s.id ∧ TransGen Up m s.id) ∧
      ∀ o, Up s.id o → (g.deepestRoots s.id).1 ≠ [s.id] ∧
        ∀ (w : Workflow σ) (changes : Changes), (w.policy.filter.check g s).1 ≠ .eligible ∧
          (w.process { graph := g, changes } s).1.plan = none := by
  intro g Up
  have hg : g.WellFormed := WellFormed.empty.afterAll hcalls
  have hid : s.id ∈ g.symbolIds := mem_symbolIds_of_mem hs
  have hup : Up = g.Overrides := edge_superMembers
  rw [hup, hg.deepestRoots_fst]
  refine ⟨fun m o => ?_, ⟨hg.nodup_findRoots _, fun r => mem_findRoots hg hid⟩,
    ⟨hg.nodup_overriders _, fun m => mem_overriders hg hid⟩, fun o ho => ?_⟩
  · show (m, o) ∈ (afterAll {} calls).overrideEdges ↔ _
    rw [mem_overrideEdges_afterAll]
    simp
  · have hroots := findRoots_ne_of_overrides hg ho
    refine ⟨hroots, fun w changes => ?_⟩
    have hineligible : (w.policy.filter.check g s).1 ≠ .eligible := fun heligible =>
      hroots (Workflow.check_eligible hg heligible).2.1
    refine ⟨hineligible, ?_⟩
    obtain ⟨-, -, ⟨-, -, houtcome⟩ | ⟨heligible, -⟩⟩ :=
      Workflow.process_trail w { graph := g, changes } s
    · rw [houtcome]
      rfl
    · exact absurd heligible hineligible

/-- A method that overrides one of each of two bases, both of which override the same one. The
roots are asked for between the registrations, and one of the two bases gets another name. -/
def diamond : List Call :=
  (["Both", "Left", "Right", "Base"].map fun type =>
      .addSymbol { id := type ++ "::run", name := "run", kind := .method }) ++
    [.addOverride "Both::run" "Left::run", .deepestRoots "Both::run",
      .addOverride "Both::run" "Right::run", .rename "Right::run" "go", .deepestRoots "Both::run",
      .addOverride "Right::run" "Base::run", .addOverride "Left::run" "Base::run"]

/-- The one root of the method is at the top, and it is not the method itself. -/
theorem roots_exact_diamond :
    ((afterAll {} diamond).deepestRoots "Both::run").1 = ["Base::run"] ∧
      (afterAll {} diamond).overriders "Base::run" = ["Right::run", "Left::run", "Both::run"] ∧
      ReflTransGen (fun m o => o ∈ (afterAll {} diamond).superMembers m) "Both::run" "Base::run" := by
  have hroots : ((afterAll {} diamond).deepestRoots "Both::run").1 = ["Base::run"] := by
    decide +kernel
  have hcalls : AllRegistered {} diamond := by decide +kernel
  have hexact := roots_exact (σ := CandidateScript) hcalls
    (s := { id := "Both::run", name := "run", kind := .method, isOverride := true })
    (by decide +kernel)
  refine ⟨hroots, by decide +kernel, ((hexact.2.1.2 "Base::run").1 ?_).1⟩
  rw [hroots]
  exact List.mem_singleton_self _

end Pseudonym.Graph
