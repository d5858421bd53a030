import Mathlib.Data.List.Nodup
import Mathlib.Data.String.Basic
import Pseudonym.Model.Transition

/-!
# A table is what it counts

Tables keep rows and columns in the order in which they first came up. None of that shows in the
probabilities: two tables with the same counts have the same ones (`probabilities_eq_of_count`),
since both directions are sorted and a proper table has each token once. Counting a transition adds
one to its own count (`Table.count_increment`) and keeps a table proper (`Table.Proper.increment`).
-/

namespace Pseudonym.Model

/-! ## Sorting by token -/

section Sorting

variable {α : Type}

theorem Table.sortByToken_perm (entries : List (String × α)) : (sortByToken entries).Perm entries :=
  List.mergeSort_perm ..

/-- The tokens of sorted entries never fall. -/
theorem Table.sortByToken_pairwise (entries : List (String × α)) :
    (sortByToken entries).Pairwise fun a b => a.1 ≤ b.1 := by
  have hsorted : (sortByToken entries).Pairwise fun a b => decide (a.1 ≤ b.1) = true :=
    List.pairwise_mergeSort
      (fun a b c hab hbc => decide_eq_true ((of_decide_eq_true hab).trans (of_decide_eq_true hbc)))
      (fun a b => by simpa using le_total a.1 b.1) entries
  exact hsorted.imp of_decide_eq_true

/-- Where each token stands once, the sorted entries do not depend on the order they came in. -/
theorem Table.sortByToken_eq_of_perm {l l' : List (String × α)} (h : l.Perm l')
    (hkeys : (l.map Prod.fst).Nodup) : sortByToken l = sortByToken l' := by
  refine List.Perm.eq_of_pairwise ?_ (sortByToken_pairwise l) (sortByToken_pairwise l')
    ((sortByToken_perm l).trans (h.trans (sortByToken_perm l').symm))
  intro a b ha hb hab hba
  have ha : a ∈ l := (sortByToken_perm l).mem_iff.1 ha
  have hb : b ∈ l := h.mem_iff.2 ((sortByToken_perm l').mem_iff.1 hb)
  exact List.inj_on_of_nodup_map hkeys ha hb (le_antisymm hab hba)

/-- Where each token stands once, the tokens of sorted entries rise. -/
theorem Table.sortByToken_sorted {l : List (String × α)} (hkeys : (l.map Prod.fst).Nodup) :
    ((sortByToken l).map Prod.fst).Pairwise (· < ·) := by
  have hnodup : ((sortByToken l).map Prod.fst).Nodup :=
    ((sortByToken_perm l).map Prod.fst).nodup_iff.2 hkeys
  have hle : ((sortByToken l).map Prod.fst).Pairwise (· ≤ ·) :=
    List.pairwise_map.2 (sortByToken_pairwise l)
  exact hle.imp₂ (fun _ _ hle hne => lt_of_le_of_ne hle hne) hnodup

theorem Table.map_sortByToken {β : Type} {f : String × α → String × β} (hf : ∀ e, (f e).1 = e.1)
    (l : List (String × α)) : (sortByToken l).map f = sortByToken (l.map f) :=
  List.map_mergeSort fun a _ b _ => by rw [hf, hf]

end Sorting

/-! ## Rows -/

namespace Row

/-- A row as it comes up by counting: each token once, and each was counted. -/
structure Proper (row : Row) : Prop where
  keys_nodup : (row.map Prod.fst).Nodup
  positive : ∀ e ∈ row, 0 < e.2

theorem count_cons (t : String) (n : Nat) (rest : Row) (token : String) :
    count ((t, n) :: rest) token = if t = token then n else count rest token := by
  by_cases h : t = token <;> simp [count, h]

theorem count_increment (row : Row) (token other : String) :
    (row.increment token).count other = row.count other + if token = other then 1 else 0 := by
  induction row with
  | nil => by_cases h : token = other <;> simp [increment, count, h]
  | cons e rest ih =>
    obtain ⟨t, n⟩ := e
    by_cases ht : t = token
    · subst ht
      by_cases h : t = other <;> simp [increment, count_cons, h]
    · by_cases h : t = other
      · subst h
        simp [increment, count_cons, ht, Ne.symm ht]
      · simp [increment, count_cons, ht, h, ih]

theorem mem_keys_increment {row : Row} {token t : String} :
    t ∈ (row.increment token).map Prod.fst ↔ t = token ∨ t ∈ row.map Prod.fst := by
  induction row with
  | nil => simp [increment]
  | cons e rest ih =>
    obtain ⟨u, n⟩ := e
    by_cases hu : u = token
    · simp [increment, hu]
    · simp only [increment, if_neg hu, List.map_cons, List.mem_cons, ih]
      tauto

theorem Proper.increment {row : Row} (h : row.Proper) (token : String) :
    (row.increment token).Proper := by
  obtain ⟨hkeys, hpos⟩ := h
  induction row with
  | nil => exact ⟨by simp [Row.increment], by simp [Row.increment]⟩
  | cons e rest ih =>
    obtain ⟨t, n⟩ := e
    obtain ⟨hfirst, hrest⟩ := List.nodup_cons.1 hkeys
    obtain ⟨hn, hposRest⟩ := List.forall_mem_cons.1 hpos
    by_cases ht : t = token
    · simp only [Row.increment, if_pos ht]
      exact ⟨hkeys, List.forall_mem_cons.2 ⟨Nat.succ_pos n, hposRest⟩⟩
    · obtain ⟨hkeys', hpos'⟩ := ih hrest hposRest
      simp only [Row.increment, if_neg ht]
      refine ⟨List.nodup_cons.2 ⟨fun hmem => ?_, hkeys'⟩, List.forall_mem_cons.2 ⟨hn, hpos'⟩⟩
      exact (mem_keys_increment.1 hmem).elim ht hfirst

theorem Proper.mem_iff {row : Row} (h : row.Proper) {t : String} {n : Nat} :
    (t, n) ∈ row ↔ row.count t = n ∧ 0 < n := by
  obtain ⟨hkeys, hpos⟩ := h
  induction row with
  | nil =>
    simp only [List.not_mem_nil, count, List.find?_nil, Option.map_none, Option.getD_none, false_iff]
    omega
  | cons e rest ih =>
    obtain ⟨u, m⟩ := e
    obtain ⟨hfirst, hrest⟩ := List.nodup_cons.1 hkeys
    obtain ⟨hm, hposRest⟩ := List.forall_mem_cons.1 hpos
    rw [count_cons, List.mem_cons, Prod.mk.injEq]
    by_cases hu : u = t
    · subst hu
      have hout : (u, n) ∉ rest := fun hmem => hfirst (List.mem_map.2 ⟨_, hmem, rfl⟩)
      simp only [true_and, hout, or_false, if_true]
      exact ⟨fun hn => ⟨hn.symm, hn ▸ hm⟩, fun hn => hn.1.symm⟩
    · simp [hu, Ne.symm hu, ih hrest hposRest]

/-- Rows with the same counts differ in order only. -/
theorem Proper.perm_of_count {row row' : Row} (h : row.Proper) (h' : row'.Proper)
    (hcount : ∀ t, row.count t = row'.count t) : row.Perm row' := by
  refine (List.perm_ext_iff_of_nodup h.keys_nodup.of_map h'.keys_nodup.of_map).2 fun e => ?_
  obtain ⟨t, n⟩ := e
  rw [h.mem_iff, h'.mem_iff, hcount]

theorem total_eq_of_perm {row row' : Row} (h : row.Perm row') : row.total = row'.total := by
  have hsum (row : Row) : row.total = (row.map Prod.snd).sum := by
    induction row with
    | nil => rfl
    | cons e rest ih => rw [List.map_cons, List.sum_cons, ← ih]; rfl
  rw [hsum, hsum, (h.map Prod.snd).sum_nat]

theorem Proper.total_pos {row : Row} (h : row.Proper) (hne : row ≠ []) : 0 < row.total := by
  obtain ⟨e, rest, rfl⟩ := List.exists_cons_of_ne_nil hne
  exact Nat.add_pos_left (h.positive e List.mem_cons_self) _

end Row

/-! ## Tables -/

namespace Table

/-- A table as it comes up by counting. -/
structure Proper (t : Table) : Prop where
  keys_nodup : (t.rows.map Prod.fst).Nodup
  rows_proper : ∀ r ∈ t.rows, r.2.Proper
  rows_ne_nil : ∀ r ∈ t.rows, r.2 ≠ []

theorem Proper.empty : Proper .empty := ⟨List.nodup_nil, by simp [Table.empty], by simp [Table.empty]⟩

theorem count_mk_cons (s : String) (row : Row) (rest : List (String × Row)) (source target : String) :
    count ⟨(s, row) :: rest⟩ source target =
      if s = source then row.count target else count ⟨rest⟩ source target := by
  by_cases h : s = source <;> simp [count, row?, h]

/-- Counting a transition adds one to its count and nothing to the others. -/
theorem count_increment (t : Table) (a b source target : String) :
    (t.increment a b).count source target =
      t.count source target + if (a, b) = (source, target) then 1 else 0 := by
  obtain ⟨rows⟩ := t
  simp only [increment, Prod.mk.injEq]
  induction rows with
  | nil =>
    by_cases ha : a = source <;> by_cases hb : b = target <;>
      simp [incrementRows, count, row?, Row.count, ha, hb]
  | cons r rest ih =>
    obtain ⟨s, row⟩ := r
    by_cases hs : s = a
    · subst hs
      by_cases h : s = source
      · simp [incrementRows, count_mk_cons, h, Row.count_increment]
      · simp [incrementRows, count_mk_cons, h]
    · by_cases h : s = source
      · subst h
        simp [incrementRows, count_mk_cons, hs, Ne.symm hs]
      · simp [incrementRows, count_mk_cons, hs, h, ih]

theorem mem_keys_incrementRows {rows : List (String × Row)} {a b s : String} :
    s ∈ (incrementRows a b rows).map Prod.fst ↔ s = a ∨ s ∈ rows.map Prod.fst := by
  induction rows with
  | nil => simp [incrementRows]
  | cons r rest ih =>
    obtain ⟨u, row⟩ := r
    by_cases hu : u = a
    · simp [incrementRows, hu]
    · simp only [incrementRows, if_neg hu, List.map_cons, List.mem_cons, ih]
      tauto

theorem increment_ne_nil (row : Row) (token : String) : row.increment token ≠ [] := by
  intro hnil
  have hmem : token ∈ (row.increment token).map Prod.fst := Row.mem_keys_increment.2 (.inl rfl)
  simp [hnil] at hmem

theorem Proper.increment {t : Table} (h : t.Proper) (a b : String) : (t.increment a b).Proper := by
  obtain ⟨rows⟩ := t
  obtain ⟨hkeys, hproper, hne⟩ := h
  simp only at hkeys hproper hne
  induction rows with
  | nil =>
    have hrow : Row.Proper [(b, 1)] := ⟨List.nodup_singleton b, by simp⟩
    exact ⟨List.nodup_singleton a, by simpa [Table.increment, incrementRows] using hrow,
      by simp [Table.increment, incrementRows]⟩
  | cons r rest ih =>
    obtain ⟨s, row⟩ := r
    obtain ⟨hfirst, hrest⟩ := List.nodup_cons.1 hkeys
    obtain ⟨hrow, hproperRest⟩ := List.forall_mem_cons.1 hproper
    obtain ⟨hrowNe, hneRest⟩ := List.forall_mem_cons.1 hne
    by_cases hs : s = a
    · simp only [Table.increment, incrementRows, if_pos hs]
      exact ⟨hkeys, List.forall_mem_cons.2 ⟨hrow.increment b, hproperRest⟩,
        List.forall_mem_cons.2 ⟨increment_ne_nil row b, hneRest⟩⟩
    · obtain ⟨hkeys', hproper', hne'⟩ := ih hrest hproperRest hneRest
      simp only [Table.increment, incrementRows, if_neg hs] at hkeys' hproper' hne' ⊢
      refine ⟨List.nodup_cons.2 ⟨fun hmem => ?_, hkeys'⟩,
        List.forall_mem_cons.2 ⟨hrow, hproper'⟩, List.forall_mem_cons.2 ⟨hrowNe, hne'⟩⟩
      exact (mem_keys_incrementRows.1 hmem).elim hs hfirst

theorem Proper.count_of_mem {t : Table} (h : t.Proper) {s : String} {row : Row}
    (hmem : (s, row) ∈ t.rows) (target : String) : t.count s target = row.count target := by
  obtain ⟨rows⟩ := t
  obtain ⟨hkeys, -, -⟩ := h
  simp only at hkeys hmem
  induction rows with
  | nil => cases hmem
  | cons r rest ih =>
    obtain ⟨u, first⟩ := r
    obtain ⟨hfirst, hrest⟩ := List.nodup_cons.1 hkeys
    rw [count_mk_cons]
    rcases List.mem_cons.1 hmem with heq | hmem
    · cases heq
      simp
    · have hne : u ≠ s := fun he => hfirst (List.mem_map.2 ⟨_, hmem, he.symm⟩)
      rw [if_neg hne, ih hmem hrest]

theorem exists_of_count_pos {t : Table} {s target : String} (h : 0 < t.count s target) :
    ∃ row, (s, row) ∈ t.rows := by
  unfold count row? at h
  cases hfind : t.rows.find? fun r => r.1 = s with
  | none => simp [hfind] at h
  | some r =>
    have hs : r.1 = s := by simpa using List.find?_some hfind
    exact ⟨r.2, hs ▸ List.mem_of_find?_eq_some hfind⟩

/-- A row of one table has a counterpart in every table with the same counts. -/
theorem Proper.exists_row {t t' : Table} (h : t.Proper) (h' : t'.Proper)
    (hcount : ∀ a b, t.count a b = t'.count a b) {s : String} {row : Row} (hmem : (s, row) ∈ t.rows) :
    ∃ row', (s, row') ∈ t'.rows ∧ row.Perm row' := by
  have hrow : row.Proper := h.rows_proper _ hmem
  obtain ⟨e, rest, rfl⟩ := List.exists_cons_of_ne_nil (h.rows_ne_nil _ hmem)
  have hpos : 0 < t'.count s e.1 := by
    rw [← hcount, h.count_of_mem hmem, Row.count_cons, if_pos rfl]
    exact hrow.positive e List.mem_cons_self
  obtain ⟨row', hmem'⟩ := exists_of_count_pos hpos
  refine ⟨row', hmem', hrow.perm_of_count (h'.rows_proper _ hmem') fun b => ?_⟩
  rw [← h.count_of_mem hmem, hcount, h'.count_of_mem hmem']

/-! ## Probabilities -/

theorem normalizeRow_eq_of_perm {row row' : Row} (h : row.Perm row') (hrow : row.Proper) :
    normalizeRow row = normalizeRow row' := by
  rw [normalizeRow, normalizeRow, sortByToken_eq_of_perm h hrow.keys_nodup, Row.total_eq_of_perm h]

/-- No row of a proper table is left out. -/
theorem Proper.probabilities_eq {t : Table} (h : t.Proper) :
    t.probabilities = sortByToken (t.rows.map fun r => (r.1, normalizeRow r.2)) := by
  have hall : ∀ r ∈ sortByToken t.rows, (decide (r.2.total ≠ 0)) = true := by
    intro r hr
    have hr : r ∈ t.rows := (sortByToken_perm _).mem_iff.1 hr
    have hpos := (h.rows_proper r hr).total_pos (h.rows_ne_nil r hr)
    exact decide_eq_true (by omega)
  rw [probabilities, List.filter_eq_self.2 hall]
  exact map_sortByToken (f := fun r => (r.1, normalizeRow r.2)) (fun _ => rfl) t.rows

/-- **Tables with the same counts have the same probabilities**, in the same order. -/
theorem Proper.probabilities_eq_of_count {t t' : Table} (h : t.Proper) (h' : t'.Proper)
    (hcount : ∀ a b, t.count a b = t'.count a b) : t.probabilities = t'.probabilities := by
  have hkeys (t : Table) (h : t.Proper) :
      ((t.rows.map fun r => (r.1, normalizeRow r.2)).map Prod.fst).Nodup := by
    simpa [Function.comp_def] using h.keys_nodup
  have hsub {t t' : Table} (h : t.Proper) (h' : t'.Proper)
      (hcount : ∀ a b, t.count a b = t'.count a b) (e : String × List (String × Float))
      (he : e ∈ t.rows.map fun r => (r.1, normalizeRow r.2)) :
      e ∈ t'.rows.map fun r => (r.1, normalizeRow r.2) := by
    obtain ⟨⟨s, row⟩, hmem, rfl⟩ := List.mem_map.1 he
    obtain ⟨row', hmem', hperm⟩ := h.exists_row h' hcount hmem
    exact List.mem_map.2 ⟨(s, row'), hmem',
      by rw [normalizeRow_eq_of_perm hperm (h.rows_proper _ hmem)]⟩
  rw [h.probabilities_eq, h'.probabilities_eq]
  refine sortByToken_eq_of_perm ?_ (hkeys t h)
  refine (List.perm_ext_iff_of_nodup (hkeys t h).of_map (hkeys t' h').of_map).2 fun e => ?_
  exact ⟨hsub h h' hcount e, hsub h' h (fun a b => (hcount a b).symm) e⟩

end Table

end Pseudonym.Model
