import Pseudonym.Proofs.Renaming.Attempts
import Pseudonym.Proofs.Renaming.Cascade

/-!
# What a run of the workflow commits

The plan for a symbol names the symbol and everything that the rename drags along: overriders and,
for a field, the families of the accessors that follow it (`Drags`, `buildPlan_planFor`). Processing
a symbol either leaves the program as it was or commits one such plan (`process_cases`). A run is a
sequence of these steps; `Commits` names the plans committed on the way, each with the graph it was
committed in, and `after_induction` lifts what a commit keeps to what a run keeps.
-/

namespace Pseudonym

open Pseudonym.Graph Relation

/-! ## The plan for a symbol -/

namespace Plan

theorem add_primary (p : Plan) (r : Rename) : (p.add r).primary = p.primary := by
  unfold add
  split <;> rfl

theorem add_name (p : Plan) (r : Rename) : (p.add r).name = p.name := by
  unfold add
  split <;> rfl

theorem mem_cascade_add {p : Plan} {r e : Rename} (h : e ∈ (p.add r).cascade) :
    e ∈ p.cascade ∨ e = r := by
  unfold add at h
  split at h
  · exact Or.inl h
  · rcases List.mem_append.1 h with h | h
    · exact Or.inl h
    · exact Or.inr (List.mem_singleton.1 h)

theorem mem_symbols_add {p : Plan} {r : Rename} {id : SymbolId} :
    id ∈ (p.add r).symbols ↔ id ∈ p.symbols ∨ id = r.symbol := by
  unfold add
  split
  · next hin =>
      refine ⟨Or.inl, ?_⟩
      rintro (h | rfl)
      · exact h
      · refine mem_symbols.2 (hin.imp id fun hany => ?_)
        obtain ⟨e, he, heq⟩ := List.any_eq_true.1 hany
        exact List.mem_map.2 ⟨e, he, by simpa using heq⟩
  · rw [mem_symbols, mem_symbols, List.map_append, List.mem_append, List.map_singleton,
      List.mem_singleton, or_assoc]

/-- Adding renames in turn keeps the first entry, and the plan holds what was added. -/
theorem foldl_add : ∀ (rs : List Rename) (p : Plan),
    (rs.foldl add p).primary = p.primary ∧ (rs.foldl add p).name = p.name ∧
      (∀ e ∈ (rs.foldl add p).cascade, e ∈ p.cascade ∨ e ∈ rs) ∧
      ∀ id, id ∈ (rs.foldl add p).symbols ↔ id ∈ p.symbols ∨ ∃ r ∈ rs, r.symbol = id
  | [], p => ⟨rfl, rfl, fun _ he => Or.inl he, fun id => by simp⟩
  | r :: rs, p => by
      obtain ⟨hprimary, hname, hcascade, hsymbols⟩ := foldl_add rs (p.add r)
      rw [List.foldl_cons]
      refine ⟨hprimary.trans (add_primary p r), hname.trans (add_name p r), fun e he => ?_,
        fun id => ?_⟩
      · rcases hcascade e he with he | he
        · rcases mem_cascade_add he with he | rfl
          · exact Or.inl he
          · exact Or.inr List.mem_cons_self
        · exact Or.inr (List.mem_cons_of_mem _ he)
      · rw [hsymbols, mem_symbols_add, List.exists_mem_cons_iff, or_assoc, eq_comm (a := id)]

end Plan

/-- Giving `s` the name `name` drags a rename along: an overrider gets the same name, and the
families of the accessors that follow a field get theirs. -/
inductive Drags (policy : AccessorPolicy) (g : Graph) (s : Symbol) (name : String) : Rename → Prop
  | overrider {m : Symbol} (hm : m ∈ g.symbols) (physical : m.isPhysical)
      (overrides : m.id ∈ g.overriders s.id) : Drags policy g s name ⟨m.id, name⟩
  | follower {f : Cascade.Follower} {r : Rename} (hf : f ∈ (Cascade.settled policy g s name).1)
      (hr : Cascade.FollowerRename g (Name.property s.name) (Name.property name) f r) :
      Drags policy g s name r

theorem Drags.mem_symbolIds {policy : AccessorPolicy} {g : Graph} {s : Symbol} {name : String}
    {r : Rename} (h : Drags policy g s name r) (hg : g.WellFormed) : r.symbol ∈ g.symbolIds := by
  cases h with
  | overrider hm => exact mem_symbolIds_of_mem hm
  | follower hf hr =>
      obtain ⟨m, hm, rfl | hparameter⟩ := hr
      · exact mem_symbolIds_of_mem hm.1
      · obtain ⟨q, hq, rfl, -⟩ := Cascade.mem_setterParameter hg hparameter
        exact mem_symbolIds_of_mem hq

/-- What is remembered does not change what is dragged along. -/
theorem Drags.congr {policy : AccessorPolicy} {g h : Graph} (hgh : Recalls g h) {s : Symbol}
    {name : String} {r : Rename} : Drags policy h s name r ↔ Drags policy g s name r := by
  have hsettled : (Cascade.settled policy h s name).1 = (Cascade.settled policy g s name).1 :=
    (Cascade.settled_asks name).answer_eq hgh
  obtain ⟨-, -, _, rfl⟩ := hgh
  constructor
  · rintro (⟨hm, physical, overrides⟩ | ⟨hf, hr⟩)
    · exact .overrider hm physical overrides
    · exact .follower (hsettled ▸ hf) hr
  · rintro (⟨hm, physical, overrides⟩ | ⟨hf, hr⟩)
    · exact .overrider hm physical overrides
    · exact .follower (hsettled ▸ hf) hr

/-- The plan that gives `s` the name `name` holds what the rename drags along, and nothing else. -/
structure PlanFor (policy : AccessorPolicy) (g : Graph) (s : Symbol) (name : String) (p : Plan) :
    Prop where
  primary_eq : p.primary = s.id
  name_eq : p.name = name
  entry : ∀ e ∈ p.entries, e = ⟨s.id, name⟩ ∨ Drags policy g s name e
  mem_symbols : ∀ id, id ∈ p.symbols ↔ id = s.id ∨ ∃ r, Drags policy g s name r ∧ r.symbol = id

theorem PlanFor.congr {policy : AccessorPolicy} {g h : Graph} (hgh : Recalls g h) {s : Symbol}
    {name : String} {p : Plan} (hp : PlanFor policy h s name p) : PlanFor policy g s name p where
  primary_eq := hp.primary_eq
  name_eq := hp.name_eq
  entry e he := (hp.entry e he).imp id (Drags.congr hgh).1
  mem_symbols id := by simp only [hp.mem_symbols, Drags.congr hgh]

theorem PlanFor.mem_symbolIds {policy : AccessorPolicy} {g : Graph} {s : Symbol} {name : String}
    {p : Plan} (hp : PlanFor policy g s name p) (hg : g.WellFormed) (hs : s ∈ g.symbols)
    {e : Rename} (he : e ∈ p.entries) : e.symbol ∈ g.symbolIds := by
  rcases hp.entry e he with rfl | hdrag
  · exact mem_symbolIds_of_mem hs
  · exact hdrag.mem_symbolIds hg

namespace Workflow

theorem buildPlan_asks {g : Graph} (policy : AccessorPolicy) (s : Symbol) (name : String) :
    g.Asks (buildPlan policy · s name) := by
  let first : Plan := ((g.symbolsOf (g.overriders s.id)).filter (·.isPhysical)).foldl
    (fun p m => p.add ⟨m.id, name⟩) { primary := s.id, name }
  have hcascade := (Cascade.build_asks (g := g) policy s name).bind
    (fun renames h => (renames.foldl Plan.add first, h))
    (.of_unremembered (fun _ => rfl) fun _ => rfl)
  unfold buildPlan
  dsimp only
  split
  · -- Overriders are not remembered, so the plan starts with the same ones in all these graphs.
    intro h r
    have hanswer := hcascade h r
    obtain ⟨-, -, _, rfl⟩ := r
    exact hanswer
  · exact .of_unremembered (fun _ => rfl) fun _ => rfl

/-- The overriders that follow a symbol are those that are part of the program text. -/
theorem mem_overriderRenames {g : Graph} (hg : g.WellFormed) (s : Symbol) (name : String) :
    ∀ r : Rename,
      r ∈ ((g.symbolsOf (g.overriders s.id)).filter (·.isPhysical)).map (⟨·.id, name⟩) ↔
        ∃ m ∈ g.symbols, m.isPhysical ∧ m.id ∈ g.overriders s.id ∧ r = ⟨m.id, name⟩ := by
  intro r
  simp only [List.mem_map, List.mem_filter, hg.mem_symbolsOf, and_assoc]
  refine exists_congr fun m => and_congr_right fun _ => ?_
  rw [eq_comm (a := r), and_left_comm]

theorem buildPlan_planFor {g : Graph} (hg : g.WellFormed) (policy : AccessorPolicy) (s : Symbol)
    (name : String) : PlanFor policy g s name (buildPlan policy g s name).1 := by
  let overriders : List Rename :=
    ((g.symbolsOf (g.overriders s.id)).filter (·.isPhysical)).map (⟨·.id, name⟩)
  let dependents : List Rename := if s.isField then (Cascade.build policy g s name).1 else []
  have hplan : (buildPlan policy g s name).1 =
      (overriders ++ dependents).foldl Plan.add { primary := s.id, name } := by
    rw [List.foldl_append, List.foldl_map]
    unfold buildPlan
    dsimp only [dependents]
    split <;> rfl
  have hmem : ∀ r, r ∈ overriders ++ dependents ↔ Drags policy g s name r := by
    intro r
    rw [List.mem_append, mem_overriderRenames hg]
    constructor
    · rintro (⟨m, hm, physical, overrides, rfl⟩ | h)
      · exact .overrider hm physical overrides
      · dsimp only [dependents] at h
        split at h
        · obtain ⟨f, hf, hr⟩ := (Cascade.mem_build hg).1 h
          exact .follower hf hr
        · cases h
    · rintro (⟨hm, physical, overrides⟩ | ⟨hf, hr⟩)
      · exact Or.inl ⟨_, hm, physical, overrides, rfl⟩
      · refine Or.inr ?_
        dsimp only [dependents]
        rw [if_pos (Cascade.isField_of_mem_settled hf)]
        exact (Cascade.mem_build hg).2 ⟨_, hf, hr⟩
  obtain ⟨hprimary, hname, hcascade, hsymbols⟩ :=
    Plan.foldl_add (overriders ++ dependents) { primary := s.id, name }
  rw [hplan]
  refine ⟨hprimary, hname, fun e he => ?_, fun id => ?_⟩
  · rcases Plan.mem_entries he with rfl | he
    · rw [hprimary, hname]
      exact Or.inl rfl
    · exact Or.inr ((hmem e).1 ((hcascade e he).resolve_left (by simp)))
  · rw [hsymbols, Plan.mem_symbols]
    simp only [List.map_nil, List.not_mem_nil, or_false, hmem]

/-! ## Processing a symbol -/

/-- What holds when a plan is committed for `s`: the symbol and the name passed all checks, the plan
is the one for them, and the graph is renamed accordingly. -/
structure Commit (policy : Policy) (g : Graph) (s : Symbol) (p : Plan) (g' : Graph) : Prop where
  mem : s ∈ g.symbols
  first : Filter.firstRule? s = none
  roots : g.findRoots s.id = [s.id]
  later : policy.filter.laterRule g s = .eligible
  accepted : rejection? policy.reserved s.name p.name = none
  planFor : PlanFor policy.accessors g s p.name p
  renamed : Renamed (nameAfter p.entries) g g'
  wellFormed : g'.WellFormed

namespace Commit

variable {policy : Policy} {g g' : Graph} {s : Symbol} {p : Plan} (hc : Commit policy g s p g')
include hc

theorem nameOf_of_not_mem (hg : g.WellFormed) {id : SymbolId} (hid : id ∈ g.symbolIds)
    (h : id ∉ p.symbols) : g'.nameOf id = g.nameOf id := by
  obtain ⟨a, ha, rfl⟩ := mem_symbolIds.1 hid
  rw [hc.renamed.nameOf_eq hg ha, nameAfter_of_not_mem h, hg.nameOf_id ha]

theorem nameOf_of_mem (hg : g.WellFormed) {e : Rename} (he : e ∈ p.entries) :
    g'.nameOf e.symbol = e.name := by
  obtain ⟨a, ha, hid⟩ := mem_symbolIds.1 (hc.planFor.mem_symbolIds hg hc.mem he)
  rw [← hid, hc.renamed.nameOf_eq hg ha, nameAfter_of_mem p.entries_nodup he hid.symm]

end Commit

variable {σ : Type} [Candidates σ]

/-- A failed attempt changes nothing, except for what is remembered about roots. -/
theorem Tries.kept {policy : Policy} {g : Graph} {s : Symbol} {start last : Program × σ}
    {a : Attempt} (h : Tries policy s start a last) (hfailed : a.isCommitted = false)
    (hgraph : Recalls g start.1.graph) :
    Recalls g last.1.graph ∧ last.1.changes = start.1.changes := by
  cases h with
  | rejected => exact ⟨hgraph, rfl⟩
  | committed => cases hfailed
  | @refused program _ _ name p _ _ _ _ _ _ planned refused reported =>
      have hasked := (buildPlan_asks policy.accessors s name).recalls hgraph.right
      rw [planned] at hasked
      obtain ⟨hnil, -⟩ | ⟨-, rfl, rfl⟩ := Changes.rename_cases refused
      · exact absurd hnil reported
      · exact ⟨hgraph.trans hasked, rfl⟩

theorem Trail.kept {policy : Policy} {g : Graph} {s : Symbol} {start last : Program × σ}
    {log : List Attempt} (h : Trail policy s start log last)
    (hfailed : ∀ a ∈ log, a.isCommitted = false) (hgraph : Recalls g start.1.graph) :
    Recalls g last.1.graph ∧ last.1.changes = start.1.changes := by
  induction h with
  | nil => exact ⟨hgraph, rfl⟩
  | cons first _ ih =>
      obtain ⟨hfirst, hrest⟩ := List.forall_mem_cons.1 hfailed
      obtain ⟨hnext, hchanges⟩ := first.kept hfirst hgraph
      obtain ⟨hlast, hsame⟩ := ih hrest hnext
      exact ⟨hlast, hsame.trans hchanges⟩

/-- An attempt commits the plan for a name that was not rejected. -/
theorem Tries.commit {policy : Policy} {g : Graph} {s : Symbol} {start last : Program × σ}
    {name : String} {p : Plan} (h : Tries policy s start (.committed name p) last)
    (hs : s ∈ g.symbols) (hgraph : Recalls g start.1.graph) :
    p.name = name ∧ rejection? policy.reserved s.name name = none ∧
      PlanFor policy.accessors g s name p ∧ Renamed (nameAfter p.entries) g last.1.graph ∧
      last.1.graph.WellFormed ∧
      last.1.changes =
        { start.1.changes with committed := start.1.changes.committed ++ [p] } := by
  cases h with
  | @committed program _ _ _ _ graph _ _ _ accepted planned committed =>
      have hbuilt := buildPlan_planFor hgraph.right policy.accessors s name
      have hasked := (buildPlan_asks policy.accessors s name).recalls hgraph.right
      rw [planned] at hbuilt hasked
      -- The plan was built after earlier attempts, whose questions the graph remembers.
      have hfor : PlanFor policy.accessors g s name p := hbuilt.congr hgraph
      have hwhole : Recalls g graph := hgraph.trans hasked
      obtain ⟨-, -, rfl⟩ | ⟨hne, -⟩ := Changes.rename_cases committed
      · refine ⟨hbuilt.name_eq, accepted, hfor, ?_, ?_, Changes.changes_of_committed committed⟩
        · exact hwhole.renamed.trans
            (applyRenames_renamed hwhole.right.symbolIds_nodup p.entries_nodup)
        · refine hwhole.right.applyRenames fun e he => ?_
          rw [hwhole.renamed.symbolIds_eq]
          exact hfor.mem_symbolIds hgraph.left hs he
      · exact absurd rfl hne

theorem check_asks {f : Filter} {g : Graph} {s : Symbol} (hs : s ∈ g.symbols) :
    g.Asks (f.check · s) := by
  unfold Filter.check
  cases Filter.firstRule? s with
  | some verdict => exact .of_unremembered (fun _ => rfl) fun _ => rfl
  | none =>
      exact (deepestRoots_asks (mem_symbolIds_of_mem hs)).bind
        (fun roots h => (if roots ≠ [s.id] then .notRoot else f.laterRule h s, h))
        (.of_unremembered (fun _ => rfl) fun _ => rfl)

/-- An eligible symbol passes all rules and overrides nothing. -/
theorem check_eligible {f : Filter} {g : Graph} (hg : g.WellFormed) {s : Symbol}
    (h : (f.check g s).1 = .eligible) :
    Filter.firstRule? s = none ∧ g.findRoots s.id = [s.id] ∧ f.laterRule g s = .eligible := by
  obtain ⟨c, hroots⟩ := hg.deepestRoots_eq s.id
  unfold Filter.check at h
  cases hfirst : Filter.firstRule? s with
  | some verdict =>
      rw [hfirst] at h
      obtain rfl : verdict = .eligible := h
      unfold Filter.firstRule? at hfirst
      split_ifs at hfirst <;> cases hfirst
  | none =>
      rw [hfirst, hroots] at h
      dsimp only at h
      split at h
      · cases h
      · next hroot => exact ⟨rfl, not_not.1 hroot, h⟩

/-- Processing a symbol leaves the program as it was, or it commits one plan for the symbol and adds
it to the changes. -/
theorem process_commit (w : Workflow σ) {program : Program} (hg : program.graph.WellFormed)
    {s : Symbol} (hs : s ∈ program.graph.symbols) :
    let r := w.process program s
    (r.1.newName = none ∧ r.1.plan = none ∧ r.1.state ≠ .committed ∧
        Recalls program.graph r.2.2.graph ∧ r.2.2.changes = program.changes) ∨
      ∃ p, r.1.newName = some p.name ∧ r.1.plan = some p ∧ r.1.state = .committed ∧
        Commit w.policy program.graph s p r.2.2.graph ∧
        r.2.2.changes = { program.changes with committed := program.changes.committed ++ [p] } := by
  intro r
  have hchecked := (check_asks (f := w.policy.filter) hs).recalls hg
  obtain ⟨log, htrail, ⟨-, rfl, hr⟩ | ⟨heligible, hsearched⟩⟩ := process_trail w program s
  · obtain ⟨hgraph, hchanges⟩ := htrail.kept (by simp) hchecked
    have hr : r.1 = unattempted s _ := hr
    rw [hr]
    exact Or.inl ⟨rfl, rfl, by simp [unattempted], hgraph, hchanges⟩
  · rcases hsearched.ending with ⟨hstate, -, hfailed, hname, hplan⟩ |
      ⟨failed, name, p, rfl, hfailed, -, hstate, hname, hplan⟩
    · obtain ⟨hgraph, hchanges⟩ := htrail.kept hfailed hchecked
      have hstate : r.1.state = .exhausted := hstate
      exact Or.inl ⟨hname, hplan, by simp [hstate], hgraph, hchanges⟩
    · obtain ⟨hfirst, hroots, hlater⟩ := check_eligible hg heligible
      obtain ⟨before, hbefore, hlast⟩ := htrail.of_concat
      obtain ⟨hgraph, hchanges⟩ := hbefore.kept hfailed hchecked
      obtain ⟨rfl, haccepted, hfor, hrenamed, hwf, hcommitted⟩ := hlast.commit hs hgraph
      rw [hchanges] at hcommitted
      exact Or.inr ⟨p, hname, hplan, hstate,
        ⟨hs, hfirst, hroots, hlater, haccepted, hfor, hrenamed, hwf⟩, hcommitted⟩

/-- Processing a symbol leaves the graph as it was or commits one plan for the symbol. -/
theorem process_cases (w : Workflow σ) {program : Program} (hg : program.graph.WellFormed)
    {s : Symbol} (hs : s ∈ program.graph.symbols) :
    let r := w.process program s
    (r.1.plan = none ∧ r.1.state ≠ .committed ∧ Recalls program.graph r.2.2.graph) ∨
      ∃ p, r.1.plan = some p ∧ r.1.state = .committed ∧
        Commit w.policy program.graph s p r.2.2.graph := by
  rcases process_commit w hg hs with ⟨-, hplan, hstate, hgraph, -⟩ |
    ⟨p, -, hplan, hstate, hcommit, -⟩
  · exact Or.inl ⟨hplan, hstate, hgraph⟩
  · exact Or.inr ⟨p, hplan, hstate, hcommit⟩

theorem process_policy (w : Workflow σ) (program : Program) (s : Symbol) :
    (w.process program s).2.1.policy = w.policy := rfl

/-! ## Runs -/

/-- A workflow that proposes given names. -/
def proposing (names : List String) (policy : Policy := {}) : Workflow CandidateScript :=
  { policy, source := { names } }

/-- The workflow and the program after some symbols were processed in turn. -/
def after (w : Workflow σ) (program : Program) (ids : List SymbolId) : Workflow σ × Program :=
  (w.processAll program ids).2

@[simp] theorem after_nil (w : Workflow σ) (program : Program) :
    w.after program [] = (w, program) := rfl

theorem after_cons (w : Workflow σ) (program : Program) (id : SymbolId) (ids : List SymbolId) :
    w.after program (id :: ids) =
      match program.graph.symbol? id with
      | none => w.after program ids
      | some s => (w.process program s).2.1.after (w.process program s).2.2 ids := by
  unfold after
  rw [processAll]
  cases program.graph.symbol? id <;> rfl

theorem after_append (ys : List SymbolId) : ∀ (xs : List SymbolId) (w : Workflow σ)
    (program : Program), w.after program (xs ++ ys) =
      (w.after program xs).1.after (w.after program xs).2 ys
  | [], _, _ => rfl
  | x :: xs, w, program => by
      rw [List.cons_append, after_cons, after_cons]
      cases program.graph.symbol? x with
      | none => exact after_append ys xs w program
      | some s => exact after_append ys xs _ _

/-- After the symbols `before` were processed, the next one is `s` and the plan `p` is committed for
it. -/
def CommitsAt (w : Workflow σ) (program : Program) (before : List SymbolId) (s : Symbol)
    (p : Plan) : Prop :=
  s ∈ (w.after program before).2.graph.symbols ∧
    ((w.after program before).1.process (w.after program before).2 s).1.plan = some p

/-- While the symbols `ids` are processed in turn, the plan `p` is committed for the symbol `s` in
the graph `g`. -/
def Commits (w : Workflow σ) (program : Program) (ids : List SymbolId) (g : Graph) (s : Symbol)
    (p : Plan) : Prop :=
  ∃ before rest, ids = before ++ s.id :: rest ∧ g = (w.after program before).2.graph ∧
    w.CommitsAt program before s p

theorem after_policy (w : Workflow σ) (program : Program) (ids : List SymbolId) :
    (w.after program ids).1.policy = w.policy := by
  induction ids generalizing w program with
  | nil => rfl
  | cons id ids ih =>
      rw [after_cons]
      cases program.graph.symbol? id with
      | none => exact ih w program
      | some s => exact (ih _ _).trans (process_policy w program s)

theorem after_concat_none {w : Workflow σ} {program : Program} {before : List SymbolId}
    {id : SymbolId} (h : (w.after program before).2.graph.symbol? id = none) :
    w.after program (before ++ [id]) = w.after program before := by
  rw [after_append, after_cons, h, after_nil]

theorem after_concat_some {w : Workflow σ} {program : Program} {before : List SymbolId}
    {id : SymbolId} {s : Symbol} (h : (w.after program before).2.graph.symbol? id = some s) :
    w.after program (before ++ [id]) =
      ((w.after program before).1.process (w.after program before).2 s).2 := by
  rw [after_append, after_cons, h]
  rfl

/-- A run goes on without a change or with the commit of one plan. -/
theorem after_concat_cases {w : Workflow σ} {program : Program} {before : List SymbolId}
    (hg : (w.after program before).2.graph.WellFormed) (id : SymbolId) :
    let g := (w.after program before).2.graph
    let g' := (w.after program (before ++ [id])).2.graph
    Recalls g g' ∨
      ∃ s p, s.id = id ∧ w.CommitsAt program before s p ∧ Commit w.policy g s p g' := by
  intro g g'
  cases hid : g.symbol? id with
  | none =>
      left
      show Recalls g (w.after program (before ++ [id])).2.graph
      rw [after_concat_none hid]
      exact Recalls.refl hg
  | some s =>
      obtain ⟨hs, hsid⟩ := hg.symbol?_eq_some.1 hid
      show Recalls g (w.after program (before ++ [id])).2.graph ∨
        ∃ s p, s.id = id ∧ w.CommitsAt program before s p ∧
          Commit w.policy g s p (w.after program (before ++ [id])).2.graph
      rw [after_concat_some hid]
      rcases process_cases (w.after program before).1 hg hs with
        ⟨-, -, hsame⟩ | ⟨p, hplan, -, hcommit⟩
      · exact Or.inl hsame
      · rw [after_policy] at hcommit
        exact Or.inr ⟨s, p, hsid, ⟨hs, hplan⟩, hcommit⟩

theorem after_wellFormed {w : Workflow σ} {program : Program} (hg : program.graph.WellFormed)
    (ids : List SymbolId) : (w.after program ids).2.graph.WellFormed := by
  induction ids using List.reverseRecOn with
  | nil => exact hg
  | append_singleton before id ih =>
      rcases after_concat_cases ih id with hsame | ⟨_, _, _, _, hcommit⟩
      · exact hsame.right
      · exact hcommit.wellFormed

/-- What a run commits passed the checks at that time. -/
theorem CommitsAt.commit {w : Workflow σ} {program : Program} {before : List SymbolId} {s : Symbol}
    {p : Plan} (h : w.CommitsAt program before s p) (hg : program.graph.WellFormed) :
    Commit w.policy (w.after program before).2.graph s p
      (w.after program (before ++ [s.id])).2.graph := by
  obtain ⟨hs, hplan⟩ := h
  have hwf := after_wellFormed (w := w) hg before
  rw [after_concat_some (hwf.symbol?_id hs)]
  rcases process_cases (w.after program before).1 hwf hs with ⟨hnone, -⟩ | ⟨q, hq, -, hcommit⟩
  · rw [hnone] at hplan
    cases hplan
  · obtain rfl : q = p := Option.some.inj (hq.symm.trans hplan)
    rw [after_policy] at hcommit
    exact hcommit

/-- A run changes nothing but names. -/
theorem after_renamed {w : Workflow σ} {program : Program} (hg : program.graph.WellFormed)
    (ids : List SymbolId) : ∃ ν, Renamed ν program.graph (w.after program ids).2.graph := by
  induction ids using List.reverseRecOn with
  | nil => exact ⟨Symbol.name, Renamed.refl _⟩
  | append_singleton before id ih =>
      obtain ⟨ν, hν⟩ := ih
      rcases after_concat_cases (after_wellFormed (w := w) hg before) id with
        hsame | ⟨_, p, _, _, hcommit⟩
      · exact ⟨_, hν.trans hsame.renamed⟩
      · exact ⟨_, hν.trans hcommit.renamed⟩

/-- What holds at the start and is kept by every commit holds after every part of a run. -/
theorem after_induction {w : Workflow σ} {program : Program} (hg : program.graph.WellFormed)
    {ids : List SymbolId} {motive : Graph → Prop} (start : motive program.graph)
    (same : ∀ g h, Recalls g h → motive g → motive h)
    (commit : ∀ g s p g' ν, w.Commits program ids g s p → g.WellFormed →
      Renamed ν program.graph g → Commit w.policy g s p g' → motive g → motive g')
    (before : List SymbolId) : before <+: ids → motive (w.after program before).2.graph := by
  -- A run is followed from its start, so the induction adds the symbol processed last.
  induction before using List.reverseRecOn with
  | nil => exact fun _ => start
  | append_singleton before id ih =>
      intro hprefix
      have hbefore := ih ((List.prefix_append before [id]).trans hprefix)
      have hwf := after_wellFormed (w := w) hg before
      rcases after_concat_cases hwf id with hsame | ⟨s, p, rfl, hat, hcommit⟩
      · exact same _ _ hsame hbefore
      · obtain ⟨ν, hν⟩ := after_renamed (w := w) hg before
        obtain ⟨rest, hrest⟩ := hprefix
        have hids : ids = before ++ s.id :: rest := by rw [← hrest]; simp
        exact commit _ s p _ ν ⟨before, rest, hids, rfl, hat⟩ hwf hν hcommit hbefore

/-- A symbol that no committed plan holds keeps its name. -/
theorem nameOf_after_of_not_mem {w : Workflow σ} {program : Program}
    (hg : program.graph.WellFormed) {ids : List SymbolId} {t : Symbol}
    (ht : t ∈ program.graph.symbols)
    (hout : ∀ g s p ν, w.Commits program ids g s p → g.WellFormed → Renamed ν program.graph g →
      (∃ g', Commit w.policy g s p g') → t.id ∉ p.symbols) :
    (w.after program ids).2.graph.nameOf t.id = t.name := by
  refine after_induction (motive := fun g => g.nameOf t.id = t.name) hg (hg.nameOf_id ht)
    ?_ ?_ ids (List.prefix_refl ids)
  · rintro g h ⟨-, -, _, rfl⟩ hname
    exact hname
  · intro g s p g' ν hcommits hwf hν hcommit hname
    have hid : t.id ∈ g.symbolIds := hν.symbolIds_eq ▸ mem_symbolIds_of_mem ht
    have hkept := hcommit.nameOf_of_not_mem hwf hid (hout g s p ν hcommits hwf hν ⟨g', hcommit⟩)
    exact hkept.trans hname

end Workflow

end Pseudonym
