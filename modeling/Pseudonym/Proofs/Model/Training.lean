import Mathlib.Data.List.Count
import Mathlib.Logic.Function.Basic
import Pseudonym.Model.Chain
import Pseudonym.Proofs.Model.Transition

/-!
# Training by several threads

Names are fed to a chain by threads that take turns at single steps: a transition is counted, a name
is done, or someone asks for the probabilities of a table, which are kept until the table counts
again. Whatever the order of names and of turns, the outcome is that of training the names one after
another (`Schedule.agrees`): a table is what it counts, a schedule does each step of each name once
(`Schedule.count_eq`), and the probabilities that are kept are those of the counts (`Shared.Sound`).
-/

namespace Pseudonym.Model

/-- The probabilities of a table, row by row. -/
abbrev Probabilities := List (String × List (String × Float))

/-- How often any token followed `source`. -/
def Table.rowTotal (t : Table) (source : String) : Nat := ((t.row? source).map Row.total).getD 0

/-- Probabilities as they should be: rows and columns in lexicographic order, with an entry for each
transition that was counted, its share of its row. -/
structure Materialized (t : Table) (ps : Probabilities) : Prop where
  rows_sorted : (ps.map Prod.fst).Pairwise (· < ·)
  columns_sorted : ∀ r ∈ ps, (r.2.map Prod.fst).Pairwise (· < ·)
  entry_iff : ∀ a b p, (∃ row, (a, row) ∈ ps ∧ (b, p) ∈ row) ↔
    0 < t.count a b ∧ p = Float.ofNat (t.count a b) / Float.ofNat (t.rowTotal a)

namespace Table

theorem Proper.row?_eq_some {t : Table} (h : t.Proper) {s : String} {row : Row}
    (hmem : (s, row) ∈ t.rows) : t.row? s = some row := by
  unfold row?
  cases hfind : t.rows.find? fun r => r.1 = s with
  | none =>
    have hne := List.find?_eq_none.1 hfind (s, row) hmem
    simp at hne
  | some r =>
    have hs : r.1 = s := by simpa using List.find?_some hfind
    have hr : r = (s, row) :=
      List.inj_on_of_nodup_map h.keys_nodup (List.mem_of_find?_eq_some hfind) hmem hs
    rw [hr]
    rfl

theorem mem_normalizeRow {row : Row} {b : String} {p : Float} :
    (b, p) ∈ normalizeRow row ↔
      ∃ n, (b, n) ∈ row ∧ p = Float.ofNat n / Float.ofNat row.total := by
  simp only [normalizeRow, List.mem_map, (sortByToken_perm row).mem_iff, Prod.exists, Prod.mk.injEq]
  constructor
  · rintro ⟨b', n, hmem, rfl, rfl⟩
    exact ⟨n, hmem, rfl⟩
  · rintro ⟨n, hmem, rfl⟩
    exact ⟨b, n, hmem, rfl, rfl⟩

theorem normalizeRow_keys (row : Row) :
    (normalizeRow row).map Prod.fst = (sortByToken row).map Prod.fst := by
  simp [normalizeRow, Function.comp_def]

/-- A proper table is read as it should be. -/
theorem Proper.materialized {t : Table} (h : t.Proper) : Materialized t t.probabilities := by
  have hmem (a : String) (entries : List (String × Float)) :
      (a, entries) ∈ t.probabilities ↔ ∃ row, (a, row) ∈ t.rows ∧ entries = normalizeRow row := by
    rw [h.probabilities_eq, (sortByToken_perm _).mem_iff, List.mem_map]
    constructor
    · rintro ⟨⟨s, row⟩, hrow, heq⟩
      cases heq
      exact ⟨row, hrow, rfl⟩
    · rintro ⟨row, hrow, rfl⟩
      exact ⟨(a, row), hrow, rfl⟩
  refine ⟨?_, ?_, fun a b p => ?_⟩
  · rw [h.probabilities_eq]
    exact sortByToken_sorted (by simpa [Function.comp_def] using h.keys_nodup)
  · rintro ⟨s, entries⟩ hr
    obtain ⟨row, hrow, rfl⟩ := (hmem s entries).1 hr
    rw [normalizeRow_keys]
    exact sortByToken_sorted (h.rows_proper _ hrow).keys_nodup
  · constructor
    · rintro ⟨entries, hentries, hp⟩
      obtain ⟨row, hrow, rfl⟩ := (hmem a entries).1 hentries
      obtain ⟨n, hn, rfl⟩ := mem_normalizeRow.1 hp
      obtain ⟨rfl, hpos⟩ := (h.rows_proper _ hrow).mem_iff.1 hn
      rw [h.count_of_mem hrow, rowTotal, h.row?_eq_some hrow]
      exact ⟨hpos, rfl⟩
    · rintro ⟨hpos, rfl⟩
      obtain ⟨row, hrow⟩ := exists_of_count_pos hpos
      rw [h.count_of_mem hrow] at hpos ⊢
      rw [rowTotal, h.row?_eq_some hrow]
      refine ⟨_, (hmem a _).2 ⟨row, hrow, rfl⟩, mem_normalizeRow.2 ⟨_, ?_, rfl⟩⟩
      exact (h.rows_proper _ hrow).mem_iff.2 ⟨rfl, hpos⟩

end Table

/-! ## Chains -/

namespace Chain

@[simp] theorem table_setTable (c : Chain) (kind other : SymbolKind) (t : Table) :
    (c.setTable kind t).table other = if kind = other then t else c.table other := by
  cases kind <;> cases other <;> rfl

@[simp] theorem setTable_trained (c : Chain) (kind : SymbolKind) (t : Table) :
    (c.setTable kind t).trained = c.trained := by
  cases kind <;> rfl

@[simp] theorem setTable_frozen (c : Chain) (kind : SymbolKind) (t : Table) :
    (c.setTable kind t).frozen = c.frozen := by
  cases kind <;> rfl

/-- Trains names of any kinds one after another. -/
def trainEach (c : Chain) : List (SymbolKind × String) → Except ChainError Chain
  | [] => .ok c
  | (kind, name) :: rest =>
    match c.train kind name with
    | .ok (_, c) => c.trainEach rest
    | .error e => .error e

end Chain

/-! ## Turns of threads -/

/-- What a thread does in one turn. -/
inductive Turn where
  /-- Counts a transition. -/
  | count (kind : SymbolKind) (source target : String)
  /-- Counts a name whose transitions are all counted. -/
  | finish
  /-- Asks for the probabilities of a table. -/
  | read (kind : SymbolKind)
deriving DecidableEq

/-- A chain as threads share it, with the probabilities that were asked for since a table last
counted. -/
structure Shared where
  chain : Chain
  known : SymbolKind → Option Probabilities := fun _ => none

namespace Shared

/-- The probabilities that a reader gets. -/
def probabilities (s : Shared) (kind : SymbolKind) : Probabilities :=
  (s.known kind).getD (s.chain.table kind).probabilities

/-- Takes a turn. -/
def step (s : Shared) : Turn → Shared
  | .count kind a b =>
    { chain := s.chain.setTable kind ((s.chain.table kind).increment a b)
      known := Function.update s.known kind none }
  | .finish => { s with chain := { s.chain with trained := s.chain.trained + 1 } }
  | .read kind => { s with known := Function.update s.known kind (some (s.probabilities kind)) }

/-- Takes turns in order. -/
def run (s : Shared) (log : List Turn) : Shared := log.foldl step s

@[simp] theorem run_nil (s : Shared) : s.run [] = s := rfl

@[simp] theorem run_cons (s : Shared) (turn : Turn) (log : List Turn) :
    s.run (turn :: log) = (s.step turn).run log := rfl

@[simp] theorem run_append (s : Shared) (log log' : List Turn) :
    s.run (log ++ log') = (s.run log).run log' := List.foldl_append

/-- Tables come up by counting, and what is kept of a table are its probabilities. -/
structure Sound (s : Shared) : Prop where
  proper : ∀ kind, (s.chain.table kind).Proper
  known_eq : ∀ kind ps, s.known kind = some ps → ps = (s.chain.table kind).probabilities

theorem Sound.probabilities_eq {s : Shared} (h : s.Sound) (kind : SymbolKind) :
    s.probabilities kind = (s.chain.table kind).probabilities := by
  unfold probabilities
  cases hknown : s.known kind with
  | none => rfl
  | some ps => exact h.known_eq kind ps hknown

theorem Sound.step {s : Shared} (h : s.Sound) (turn : Turn) : (s.step turn).Sound := by
  cases turn with
  | count kind a b =>
    refine ⟨fun other => ?_, fun other ps hps => ?_⟩
    · simp only [Shared.step, Chain.table_setTable]
      split
      · exact (h.proper kind).increment a b
      · exact h.proper other
    · -- The table that counted has nothing kept, and the others did not change.
      by_cases hkind : kind = other
      · subst hkind
        simp [Shared.step] at hps
      · simp only [Shared.step, Function.update_of_ne (Ne.symm hkind)] at hps
        simpa [Shared.step, hkind] using h.known_eq other ps hps
  | finish => exact ⟨h.proper, h.known_eq⟩
  | read kind =>
    refine ⟨h.proper, fun other ps hps => ?_⟩
    by_cases hkind : kind = other
    · subst hkind
      simp only [Shared.step, Function.update_self, Option.some.injEq] at hps
      rw [← hps, h.probabilities_eq]
      rfl
    · simp only [Shared.step, Function.update_of_ne (Ne.symm hkind)] at hps
      exact h.known_eq other ps hps

theorem Sound.run {s : Shared} (h : s.Sound) (log : List Turn) : (s.run log).Sound := by
  induction log generalizing s with
  | nil => exact h
  | cons turn log ih => exact ih (h.step turn)

/-- The counts after some turns. -/
theorem count_run (s : Shared) (log : List Turn) (kind : SymbolKind) (a b : String) :
    ((s.run log).chain.table kind).count a b =
      (s.chain.table kind).count a b + log.count (.count kind a b) := by
  induction log generalizing s with
  | nil => rfl
  | cons turn log ih =>
    rw [run_cons, ih, List.count_cons]
    cases turn with
    | count other c d =>
      by_cases hkind : other = kind
      · subst hkind
        simp only [step, Chain.table_setTable, if_true, Table.count_increment, beq_iff_eq,
          Turn.count.injEq, true_and, Prod.mk.injEq]
        omega
      · simp [step, hkind]
    | finish => cases kind <;> simp [step, Chain.table]
    | read other => simp [step]

/-- The names that are done after some turns. -/
theorem trained_run (s : Shared) (log : List Turn) :
    (s.run log).chain.trained = s.chain.trained + log.count .finish := by
  induction log generalizing s with
  | nil => rfl
  | cons turn log ih =>
    rw [run_cons, ih, List.count_cons]
    cases turn with
    | count kind a b => simp [step]
    | finish =>
      simp only [step, beq_self_eq_true, if_true]
      omega
    | read kind => simp [step]

end Shared

/-- The turns of a thread that trains a name. -/
def turnsFor (call : SymbolKind × String) : List Turn :=
  match Name.words call.2 with
  | [] => []
  | tokens => (Chain.transitions tokens).map (fun (a, b) => .count call.1 a b) ++ [.finish]

/-- The orders in which threads may get their turns: each thread takes its own in order, and tables
are read at any time. -/
inductive Schedule : List (List Turn) → List Turn → Prop
  | done {threads : List (List Turn)} (h : ∀ t ∈ threads, t = []) : Schedule threads []
  | turn {threads : List (List Turn)} {turn : Turn} {rest log : List Turn} (n : Nat)
      (h : threads[n]? = some (turn :: rest)) (more : Schedule (threads.set n rest) log) :
      Schedule threads (turn :: log)
  | read {threads : List (List Turn)} {log : List Turn} (kind : SymbolKind)
      (more : Schedule threads log) : Schedule threads (.read kind :: log)

/-- A schedule takes every turn of every thread once, readers apart. -/
theorem Schedule.count_eq {threads : List (List Turn)} {log : List Turn} (h : Schedule threads log)
    {turn : Turn} (hturn : ∀ kind, turn ≠ .read kind) :
    log.count turn = threads.flatten.count turn := by
  induction h with
  | done hall => rw [List.flatten_eq_nil_iff.2 hall]
  | @turn threads first rest log n hn more ih =>
    obtain ⟨hlt, hget⟩ := List.getElem?_eq_some_iff.1 hn
    have hsplit : threads = threads.take n ++ (first :: rest) :: threads.drop (n + 1) := by
      rw [← hget, ← List.drop_eq_getElem_cons hlt, List.take_append_drop]
    rw [List.count_cons, ih, List.set_eq_take_append_cons_drop, if_pos hlt]
    conv_rhs => rw [hsplit]
    simp only [List.flatten_append, List.flatten_cons, List.count_append, List.count_cons]
    omega
  | read kind more ih =>
    rw [List.count_cons, ih, if_neg]
    · rfl
    · simpa using (hturn kind).symm

/-! ## Names one after another -/

/-- Counting transitions one at a time counts them all. -/
theorem Shared.chain_run_counts (s : Shared) (kind : SymbolKind) (steps : List (String × String)) :
    (s.run (steps.map fun (a, b) => .count kind a b)).chain =
      s.chain.setTable kind (Chain.addTransitions (s.chain.table kind) steps) := by
  induction steps generalizing s with
  | nil => cases kind <;> rfl
  | cons step steps ih =>
    rw [List.map_cons, run_cons, ih]
    cases kind <;> rfl

/-- Training a name takes the turns of a thread for it. -/
theorem Chain.train_eq {c : Chain} (hfrozen : c.frozen = false) (kind : SymbolKind) (name : String) :
    ∃ used c', c.train kind name = .ok (used, c') ∧ c'.frozen = false ∧
      c' = (Shared.run ⟨c, fun _ => none⟩ (turnsFor (kind, name))).chain := by
  have hopen : ¬ c.frozen = true := by simp [hfrozen]
  cases hwords : Name.words name with
  | nil =>
    refine ⟨false, c, by rw [Chain.train, if_neg hopen, hwords], hfrozen, ?_⟩
    simp [turnsFor, hwords]
  | cons token tokens =>
    refine ⟨true, _, by rw [Chain.train, if_neg hopen, hwords], by simpa using hfrozen, ?_⟩
    have hturns : turnsFor (kind, name) = (Chain.transitions (token :: tokens)).map
        (fun (a, b) => .count kind a b) ++ [.finish] := by
      simp [turnsFor, hwords]
    rw [hturns, Shared.run_append, Shared.run_cons, Shared.run_nil, Shared.step,
      Shared.chain_run_counts]
    simp

/-- What is counted after names were trained one after another. -/
theorem Chain.trainEach_eq {c : Chain} (hfrozen : c.frozen = false)
    (hproper : ∀ kind, (c.table kind).Proper) (calls : List (SymbolKind × String)) :
    ∃ c', c.trainEach calls = .ok c' ∧ (∀ kind, (c'.table kind).Proper) ∧
      c'.trained = c.trained + (calls.map turnsFor).flatten.count .finish ∧
      ∀ kind a b, (c'.table kind).count a b =
        (c.table kind).count a b + (calls.map turnsFor).flatten.count (.count kind a b) := by
  induction calls generalizing c with
  | nil => exact ⟨c, rfl, hproper, rfl, fun _ _ _ => rfl⟩
  | cons call calls ih =>
    obtain ⟨kind, name⟩ := call
    obtain ⟨used, c₁, htrain, hfrozen₁, hc₁⟩ := Chain.train_eq hfrozen kind name
    have hsound : Shared.Sound ⟨c, fun _ => none⟩ := ⟨hproper, by simp⟩
    have hproper₁ : ∀ kind, (c₁.table kind).Proper := hc₁ ▸ (hsound.run _).proper
    obtain ⟨c', heach, hproper', htrained, hcount⟩ := ih hfrozen₁ hproper₁
    refine ⟨c', by rw [Chain.trainEach, htrain]; exact heach, hproper', ?_, fun other a b => ?_⟩
    · rw [htrained, hc₁, Shared.trained_run, List.map_cons, List.flatten_cons, List.count_append,
        Nat.add_assoc]
    · rw [hcount, hc₁, Shared.count_run, List.map_cons, List.flatten_cons, List.count_append,
        Nat.add_assoc]

/-! ## Schedules -/

/-- A shared chain has trained what a chain has, and its readers get what they should. -/
structure Shared.Agrees (s : Shared) (c : Chain) : Prop where
  trained_eq : s.chain.trained = c.trained
  count_eq : ∀ kind a b, (s.chain.table kind).count a b = (c.table kind).count a b
  probabilities_eq : ∀ kind, s.probabilities kind = (c.table kind).probabilities
  materialized : ∀ kind, Materialized (c.table kind) (s.probabilities kind)

/-- **Training does not depend on order or scheduling.** For any names in any order, whatever turns
the threads that train them get and whatever is read in between, the outcome is that of training the
names one after another. -/
theorem Schedule.agrees (limit : Nat) {calls calls' : List (SymbolKind × String)}
    (hcalls : calls.Perm calls') {log : List Turn} (h : Schedule (calls'.map turnsFor) log) :
    ∃ c, Chain.trainEach { maxTokens := limit } calls = .ok c ∧
      (Shared.run ⟨{ maxTokens := limit }, fun _ => none⟩ log).Agrees c := by
  have hempty : ∀ kind, (Chain.table { maxTokens := limit } kind).Proper := by
    rintro (_ | _ | _) <;> exact .empty
  have hsound : Shared.Sound ⟨{ maxTokens := limit }, fun _ => none⟩ := ⟨hempty, by simp⟩
  obtain ⟨c, heach, hproper, htrained, hcount⟩ :=
    Chain.trainEach_eq (c := { maxTokens := limit }) rfl hempty calls
  have hperm : (calls.map turnsFor).flatten.Perm (calls'.map turnsFor).flatten :=
    (hcalls.map turnsFor).flatten
  have hcounts (kind : SymbolKind) (a b : String) :
      ((Shared.run ⟨{ maxTokens := limit }, fun _ => none⟩ log).chain.table kind).count a b =
        (c.table kind).count a b := by
    rw [Shared.count_run, hcount, h.count_eq (by simp), hperm.count_eq]
  have hprobabilities (kind : SymbolKind) :
      (Shared.run ⟨{ maxTokens := limit }, fun _ => none⟩ log).probabilities kind =
        (c.table kind).probabilities := by
    rw [(hsound.run log).probabilities_eq]
    exact ((hsound.run log).proper kind).probabilities_eq_of_count (hproper kind) (hcounts kind)
  refine ⟨c, heach, ?_, hcounts, hprobabilities, fun kind => ?_⟩
  · rw [Shared.trained_run, htrained, h.count_eq (by simp), hperm.count_eq]
  · rw [hprobabilities]
    exact (hproper kind).materialized

/-- Two names of one kind and one of another. -/
def memberCalls : List (SymbolKind × String) :=
  [(.variable, "userName"), (.method, "reset"), (.variable, "userId")]

/-- The threads run side by side, and the table of variables is read while it still counts. -/
def memberLog : List Turn :=
  [.count .variable "" "user", .count .variable "" "user", .count .variable "user" "id",
    .read .variable, .count .method "" "reset", .count .variable "user" "name",
    .count .variable "id" "", .read .variable, .count .variable "name" "", .finish,
    .count .method "reset" "", .finish, .finish]

/-- The names come in another order, and their turns are mixed. -/
theorem Schedule.agrees_members :
    memberCalls.Perm memberCalls.reverse ∧
      Schedule (memberCalls.reverse.map turnsFor) memberLog ∧
      ∃ c, Chain.trainEach { maxTokens := 8 } memberCalls = .ok c ∧
        (Shared.run ⟨{ maxTokens := 8 }, fun _ => none⟩ memberLog).Agrees c := by
  have hperm : memberCalls.Perm memberCalls.reverse := (List.reverse_perm _).symm
  have hthreads : memberCalls.reverse.map turnsFor =
      [[.count .variable "" "user", .count .variable "user" "id", .count .variable "id" "", .finish],
        [.count .method "" "reset", .count .method "reset" "", .finish],
        [.count .variable "" "user", .count .variable "user" "name", .count .variable "name" "",
          .finish]] := by
    decide +kernel
  have hlog : Schedule (memberCalls.reverse.map turnsFor) memberLog := by
    rw [hthreads]
    exact .turn 2 rfl <| .turn 0 rfl <| .turn 0 rfl <| .read .variable <| .turn 1 rfl <|
      .turn 2 rfl <| .turn 0 rfl <| .read .variable <| .turn 2 rfl <| .turn 0 rfl <|
      .turn 1 rfl <| .turn 2 rfl <| .turn 1 rfl <| .done (by simp)
  exact ⟨hperm, hlog, Schedule.agrees 8 hperm hlog⟩

end Pseudonym.Model
