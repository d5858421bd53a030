import Mathlib.Algebra.GroupWithZero.Nat
import Pseudonym.Proofs.Renaming.Workflow

/-!
# The contract of the workflow

Processing a symbol ends in one of three ways, and the outcome tells which one: the symbol is
filtered out before any attempt, its attempts are used up, or a plan is committed (`Ends`). Only a
committed plan changes the program, and it changes what it names. Every attempt shows in the
outcome, as a rejected candidate, as the conflicts of a refused plan or as the commit (`Accounted`).
The counters of a run are those of its outcomes (`Tallied`): recording one outcome keeps them so
(`Tallied.record`), and hence does a run (`tallied_processAll`).
-/

namespace Pseudonym

open Pseudonym.Graph

namespace Workflow

/-! ## How a symbol may end -/

/-- No symbol changed, and nothing was added to the changes. -/
structure Kept (before after : Program) : Prop where
  symbols_eq : after.graph.symbols = before.graph.symbols
  changes_eq : after.changes = before.changes

/-- The symbols of a plan have the names planned for them, all other symbols have the names they
had, and the plan was added to the changes. -/
structure CarriedOut (p : Plan) (before after : Program) : Prop where
  planned : ∀ e ∈ p.entries,
    e.symbol ∈ before.graph.symbolIds ∧ after.graph.nameOf e.symbol = e.name
  others : ∀ t ∈ before.graph.symbols, t.id ∉ p.symbols → after.graph.nameOf t.id = t.name
  changes_eq : after.changes =
    { before.changes with committed := before.changes.committed ++ [p] }

/-- What each ending of the workflow for `s` means. -/
def Ends (policy : Policy) (s : Symbol) (o : Outcome) (before after : Program) : Prop :=
  match o.state with
  | .filtered =>
    o.attempts = 0 ∧ o.rejected = [] ∧ o.conflicts = [] ∧ o.newName = none ∧ o.plan = none ∧
      Kept before after
  | .exhausted =>
    o.attempts = policy.maxAttempts ∧ o.newName = none ∧ o.plan = none ∧ Kept before after
  | .committed =>
    1 ≤ o.attempts ∧ o.attempts ≤ policy.maxAttempts ∧
      ∃ p, o.plan = some p ∧ o.newName = some p.name ∧ p.primary = s.id ∧
        rejection? policy.reserved s.name p.name = none ∧
        after.graph.nameOf s.id = p.name ∧ CarriedOut p before after

variable {σ : Type} [Candidates σ]

/-- The outcome accounts for the attempts of a chain: each one is a rejected candidate, a plan that
was refused because of its conflicts, or the commit. -/
structure Accounted (policy : Policy) (s : Symbol) (start last : Program × σ) (log : List Attempt)
    (o : Outcome) : Prop where
  trail : Trail policy s start log last
  rejected_eq : o.rejected = log.filterMap Attempt.rejected?
  conflicts_eq : o.conflicts = (log.filterMap Attempt.refused?).flatMap (·.2)
  conflicts_ne_nil : ∀ r ∈ log.filterMap Attempt.refused?, r.2 ≠ []
  attempts_eq : o.attempts = o.rejected.length + (log.filterMap Attempt.refused?).length +
    if o.state = .committed then 1 else 0

/-- The workflow keeps its promises for one symbol. -/
structure Contract (w : Workflow σ) (program : Program) (s : Symbol) : Prop where
  ends : Ends w.policy s (w.process program s).1 program (w.process program s).2.2
  accounted : ∃ log, Accounted w.policy s
    ({ program with graph := (w.policy.filter.check program.graph s).2 }, w.source)
    ((w.process program s).2.2, (w.process program s).2.1.source) log (w.process program s).1

theorem Kept.of_recalls {before after : Program} (hgraph : Recalls before.graph after.graph)
    (hchanges : after.changes = before.changes) : Kept before after :=
  ⟨hgraph.symbols_eq, hchanges⟩

theorem Commit.carriedOut {policy : Policy} {before after : Program} {s : Symbol} {p : Plan}
    (hc : Commit policy before.graph s p after.graph) (hg : before.graph.WellFormed)
    (hchanges : after.changes =
      { before.changes with committed := before.changes.committed ++ [p] }) :
    CarriedOut p before after where
  planned e he := ⟨hc.planFor.mem_symbolIds hg hc.mem he, hc.nameOf_of_mem hg he⟩
  others t ht hout := by
    rw [hc.nameOf_of_not_mem hg (mem_symbolIds_of_mem ht) hout, hg.nameOf_id ht]
  changes_eq := hchanges

/-- The first entry of a committed plan is the symbol that was processed. -/
theorem Commit.nameOf_primary {policy : Policy} {g g' : Graph} {s : Symbol} {p : Plan}
    (hc : Commit policy g s p g') (hg : g.WellFormed) : g'.nameOf s.id = p.name := by
  have hfirst : (⟨p.primary, p.name⟩ : Rename) ∈ p.entries := by
    rw [Plan.entries, Plan.distinct]
    exact List.mem_cons_self
  rw [← hc.planFor.primary_eq]
  exact hc.nameOf_of_mem hg hfirst

/-- As many attempts commit a plan as the ending says. -/
theorem Searched.countP_isCommitted {left : Nat} {log : List Attempt} {o o' : Outcome}
    (h : Searched left log o o') :
    log.countP Attempt.isCommitted = if o'.state = .committed then 1 else 0 := by
  rcases h.ending with ⟨hstate, -, hfailed, -⟩ | ⟨failed, name, p, rfl, hfailed, -, hstate, -⟩
  · rw [hstate, if_neg (by simp), List.countP_eq_zero]
    simpa using hfailed
  · have hnone : failed.countP Attempt.isCommitted = 0 :=
      List.countP_eq_zero.2 (by simpa using hfailed)
    rw [hstate, if_pos rfl, List.countP_append, hnone]
    rfl

theorem accounted_process (w : Workflow σ) (program : Program) (s : Symbol) :
    ∃ log, Accounted w.policy s
      ({ program with graph := (w.policy.filter.check program.graph s).2 }, w.source)
      ((w.process program s).2.2, (w.process program s).2.1.source) log
      (w.process program s).1 := by
  obtain ⟨log, htrail, ⟨-, rfl, hr⟩ | ⟨-, hsearched⟩⟩ := process_trail w program s
  · exact ⟨[], htrail, by rw [hr]; rfl, by rw [hr]; rfl, by simp, by rw [hr]; rfl⟩
  · have hrejected : (w.process program s).1.rejected = log.filterMap Attempt.rejected? :=
      hsearched.rejected_eq
    refine ⟨log, htrail, hrejected, hsearched.conflicts_eq, htrail.conflicts_ne_nil, ?_⟩
    rw [hrejected, ← hsearched.countP_isCommitted, ← Attempt.length_eq]
    exact hsearched.attempts_eq.trans (Nat.zero_add _)

theorem ends_process (w : Workflow σ) {program : Program} (hg : program.graph.WellFormed)
    {s : Symbol} (hs : s ∈ program.graph.symbols) :
    Ends w.policy s (w.process program s).1 program (w.process program s).2.2 := by
  have hcommit := process_commit w hg hs
  obtain ⟨log, -, hending⟩ := process_trail w program s
  unfold Ends
  rcases hending with ⟨-, -, hr⟩ | ⟨-, hsearched⟩
  · rcases hcommit with ⟨-, -, -, hgraph, hchanges⟩ | ⟨p, -, -, hstate, -⟩
    · rw [hr]
      exact ⟨rfl, rfl, rfl, rfl, rfl, .of_recalls hgraph hchanges⟩
    · rw [hr] at hstate
      cases hstate
  · have hattempts : (w.process program s).1.attempts = log.length :=
      hsearched.attempts_eq.trans (Nat.zero_add _)
    rcases hsearched.ending with ⟨hstate, hlength, -⟩ | ⟨failed, _, _, rfl, -, hlength, hstate, -⟩
    · rcases hcommit with ⟨hname, hplan, -, hgraph, hchanges⟩ | ⟨p, -, -, hcommitted, -⟩
      · rw [hstate]
        exact ⟨hattempts.trans hlength, hname, hplan, .of_recalls hgraph hchanges⟩
      · rw [hstate] at hcommitted
        cases hcommitted
    · rcases hcommit with ⟨-, -, hnot, -⟩ | ⟨p, hname, hplan, -, hc, hchanges⟩
      · exact absurd hstate hnot
      · rw [hstate]
        refine ⟨?_, hattempts.trans_le hlength, p, hplan, hname, hc.planFor.primary_eq, hc.accepted,
          hc.nameOf_primary hg, hc.carriedOut hg hchanges⟩
        rw [hattempts, List.length_append]
        exact Nat.le_add_left 1 _

/-! ## The counters of a run -/

section Record

variable (t : Statistics) (o : Outcome)

theorem record_processed : (t.record o).processed = t.processed + 1 := by
  unfold Statistics.record
  cases o.state <;> rfl

theorem record_attempts : (t.record o).attempts = t.attempts + o.attempts := by
  unfold Statistics.record
  cases o.state <;> rfl

theorem record_rejectedCandidates :
    (t.record o).rejectedCandidates = t.rejectedCandidates + o.rejected.length := by
  unfold Statistics.record
  cases o.state <;> rfl

theorem record_conflicts : (t.record o).conflicts = t.conflicts + o.conflicts.length := by
  unfold Statistics.record
  cases o.state <;> rfl

/-- One more outcome has its ending. -/
theorem record_endings :
    (t.record o).committed + (t.record o).filtered + (t.record o).exhausted =
      t.committed + t.filtered + t.exhausted + 1 := by
  unfold Statistics.record
  cases o.state <;> dsimp only <;> omega

theorem record_committed :
    (t.record o).committed = t.committed + if o.state = .committed then 1 else 0 := by
  unfold Statistics.record
  cases o.state <;> rfl

theorem record_cascaded (hplan : o.plan.isSome ↔ o.state = .committed) :
    (t.record o).cascaded = t.cascaded + (o.plan.toList.map (·.entries.length - 1)).sum := by
  have hnone : o.state ≠ .committed → o.plan = none := fun h => by simpa [← hplan] using h
  unfold Statistics.record
  cases hstate : o.state with
  | committed => cases o.plan <;> simp
  | filtered => simp [hnone, hstate]
  | exhausted => simp [hnone, hstate]

theorem sum_countReason (reason : Eligibility) : ∀ counts : List (Eligibility × Nat),
    ((countReason reason counts).map (·.2)).sum = (counts.map (·.2)).sum + 1
  | [] => rfl
  | (r, n) :: rest => by
      rw [countReason]
      split
      · rw [List.map_cons, List.map_cons, List.sum_cons, List.sum_cons]
        omega
      · rw [List.map_cons, List.map_cons, List.sum_cons, List.sum_cons, sum_countReason reason rest]
        omega

/-- What is filtered out is counted under its reason. -/
theorem record_reasons (h : t.filtered = (t.filteredByReason.map (·.2)).sum) :
    (t.record o).filtered = ((t.record o).filteredByReason.map (·.2)).sum := by
  unfold Statistics.record
  cases o.state with
  | filtered =>
      rw [sum_countReason, ← h]
  | committed => exact h
  | exhausted => exact h

end Record

/-- The plans that were committed. -/
def plans (outcomes : List Outcome) : List Plan := outcomes.filterMap (·.plan)

theorem plans_append (os os' : List Outcome) : plans (os ++ os') = plans os ++ plans os' :=
  List.filterMap_append

theorem plans_singleton (o : Outcome) : plans [o] = o.plan.toList := by
  unfold plans
  cases ho : o.plan <;> simp [ho]

/-- The counters are those of the outcomes. -/
structure Tallied (t : Statistics) (outcomes : List Outcome) : Prop where
  processed_eq : t.processed = outcomes.length
  endings : t.processed = t.committed + t.filtered + t.exhausted
  reasons : t.filtered = (t.filteredByReason.map (·.2)).sum
  committed_eq : t.committed = (plans outcomes).length
  cascaded_eq : t.cascaded = ((plans outcomes).map (·.entries.length - 1)).sum
  attempts_eq : t.attempts = (outcomes.map (·.attempts)).sum
  rejected_eq : t.rejectedCandidates = (outcomes.map (·.rejected.length)).sum
  conflicts_eq : t.conflicts = (outcomes.map (·.conflicts.length)).sum

theorem Tallied.nil : Tallied {} [] := ⟨rfl, rfl, rfl, rfl, rfl, rfl, rfl, rfl⟩

/-- Counting an outcome that has a plan just when one was committed. -/
theorem Tallied.record {t : Statistics} {outcomes : List Outcome} (h : Tallied t outcomes)
    {o : Outcome} (hplan : o.plan.isSome ↔ o.state = .committed) :
    Tallied (t.record o) (outcomes ++ [o]) := by
  have hsum : ∀ f : Outcome → Nat,
      ((outcomes ++ [o]).map f).sum = (outcomes.map f).sum + f o := by simp
  have hplans : plans (outcomes ++ [o]) = plans outcomes ++ o.plan.toList := by
    rw [plans_append, plans_singleton]
  constructor
  · rw [record_processed, h.processed_eq, List.length_append, List.length_singleton]
  · rw [record_processed, record_endings, h.endings]
  · exact record_reasons t o h.reasons
  · rw [record_committed, h.committed_eq, hplans, List.length_append]
    simp only [← hplan]
    cases o.plan <;> rfl
  · rw [record_cascaded t o hplan, h.cascaded_eq, hplans, List.map_append, List.sum_append]
  · rw [record_attempts, h.attempts_eq, hsum]
  · rw [record_rejectedCandidates, h.rejected_eq, hsum]
  · rw [record_conflicts, h.conflicts_eq, hsum]

/-- A symbol is processed with a plan just when one was committed, and its plan is added to the
changes. -/
theorem process_plan (w : Workflow σ) {program : Program} (hg : program.graph.WellFormed)
    {s : Symbol} (hs : s ∈ program.graph.symbols) :
    let r := w.process program s
    (r.1.plan.isSome ↔ r.1.state = .committed) ∧
      r.2.2.changes.committed = program.changes.committed ++ r.1.plan.toList ∧
      r.2.2.graph.WellFormed := by
  rcases process_commit w hg hs with ⟨-, hplan, hstate, hgraph, hchanges⟩ |
    ⟨p, -, hplan, hstate, hcommit, hchanges⟩
  · exact ⟨by simp [hplan, hstate], by simp [hplan, hchanges], hgraph.right⟩
  · exact ⟨by simp [hplan, hstate], by simp [hplan, hchanges], hcommit.wellFormed⟩

/-- A run counts its outcomes and adds its plans to the changes. -/
theorem tallied_processAll (ids : List SymbolId) : ∀ (w : Workflow σ) {program : Program}
    {before : List Outcome}, program.graph.WellFormed → Tallied w.statistics before →
    Tallied (w.processAll program ids).2.1.statistics
        (before ++ (w.processAll program ids).1) ∧
      (w.processAll program ids).2.2.changes.committed =
        program.changes.committed ++ plans (w.processAll program ids).1 := by
  induction ids with
  | nil =>
      intro w program before _ h
      rw [processAll, List.append_nil]
      exact ⟨h, (List.append_nil _).symm⟩
  | cons id ids ih =>
      intro w program before hg h
      rw [processAll]
      cases hid : program.graph.symbol? id with
      | none => exact ih w hg h
      | some s =>
          obtain ⟨hs, -⟩ := hg.symbol?_eq_some.1 hid
          obtain ⟨hplan, hchanges, hwf⟩ := process_plan w hg hs
          obtain ⟨htallied, hcommitted⟩ := ih (w.process program s).2.1 hwf (h.record hplan)
          rw [List.append_assoc, List.singleton_append] at htallied
          refine ⟨htallied, hcommitted.trans ?_⟩
          rw [hchanges, List.append_assoc, ← plans_singleton, ← plans_append]
          rfl

/-! ## The whole contract -/

/-- The workflow keeps its contract for every symbol, and the counters of a new workflow are those
of its run. -/
theorem process_contract (w : Workflow σ) (program : Program) (hg : program.graph.WellFormed) :
    (∀ s ∈ program.graph.symbols, Contract w program s) ∧
      ∀ ids, w.statistics = {} →
        Tallied (w.processAll program ids).2.1.statistics (w.processAll program ids).1 ∧
          (w.processAll program ids).2.2.changes.committed =
            program.changes.committed ++ plans (w.processAll program ids).1 := by
  refine ⟨fun s hs => ⟨ends_process w hg hs, accounted_process w program s⟩, fun ids hnew => ?_⟩
  have hstart : Tallied w.statistics [] := hnew ▸ Tallied.nil
  exact tallied_processAll ids w hg hstart

/-- A method with an overrider, and another one beside it. -/
def relay : Graph where
  scopes := [
    { id := "Relay", kind := .type, owner := some "::Relay" },
    { id := "Pump", kind := .type, owner := some "::Pump" }]
  symbols := [
    { id := "::Relay", name := "Relay", kind := .type },
    { id := "Relay::open", name := "_open", kind := .method, visibility := .prot,
      scope := some "Relay" },
    { id := "Relay::close", name := "_close", kind := .method, visibility := .prot,
      scope := some "Relay" },
    { id := "::Pump", name := "Pump", kind := .type },
    { id := "Pump::open", name := "_open", kind := .method, visibility := .prot,
      scope := some "Pump", isOverride := true }]
  naming := ["::Relay", "Relay::open", "Relay::close", "::Pump", "Pump::open"]
  supertypeEdges := [("::Pump", "::Relay")]
  overrideEdges := [("Pump::open", "Relay::open")]

/-- The first method gets a name at its third attempt, after a blank candidate and one that is
taken; then there are no candidates left for the second one. -/
theorem process_contract_relay :
    let w := proposing ["", "close", "start"]
    let r := w.processAll { graph := relay } relay.symbolIds
    r.1.map (fun o => (o.state, o.attempts, o.rejected.length, o.conflicts.length)) =
        [(.filtered, 0, 0, 0), (.committed, 3, 1, 2), (.exhausted, 5, 5, 0), (.filtered, 0, 0, 0),
          (.filtered, 0, 0, 0)] ∧
      r.2.1.statistics.cascaded = 1 ∧
      (∀ s ∈ relay.symbols, Contract w { graph := relay } s) ∧
      Tallied r.2.1.statistics r.1 := by
  intro w r
  have hg : relay.WellFormed := by decide +kernel
  obtain ⟨hcontract, hcounters⟩ := process_contract w { graph := relay } hg
  exact ⟨by decide +kernel, by decide +kernel, hcontract, (hcounters relay.symbolIds rfl).1⟩

end Workflow

end Pseudonym
