import Mathlib.Algebra.GroupWithZero.Nat
import Mathlib.Algebra.Order.BigOperators.Group.List
import Pseudonym.Proofs.Model.Training
import Pseudonym.Proofs.Text.Case

/-!
# Sampling from a trained chain

Every name that is trained leads from the terminator through its words and back, so each token of a
table is left as often as it is entered (`Table.Balanced`). Hence a walk never comes to a token that
has no row: it ends by drawing the terminator or at its limit, and each of its steps was counted
(`Table.Balanced.walk_path`). Neither depends on the random numbers, nor on how the probabilities
are rounded, since a draw picks some entry of a row that is not empty (`draw_mem`).
-/

namespace Pseudonym.Name

/-- No word of a name is empty. -/
theorem ne_empty_of_mem_words {name word : String} (h : word ∈ words name) : word ≠ "" := by
  obtain ⟨token, htoken, rfl⟩ := List.mem_map.1 h
  have hletters := List.of_mem_filter htoken
  rw [Text.isLetterText, Bool.and_eq_true] at hletters
  exact Text.lower_ne_empty (by simpa using hletters.1)

end Pseudonym.Name

namespace Pseudonym.Model

/-! ## Draws -/

theorem drawFrom_mem (u : Float) : ∀ (row : List (String × Float)) (passed : Float) (chosen : String),
    drawFrom u passed chosen row ∈ chosen :: row.map Prod.fst
  | [], _, _ => List.mem_singleton_self _
  | (token, p) :: rest, passed, chosen => by
      rw [drawFrom, List.map_cons]
      split
      · exact List.mem_cons_of_mem _ List.mem_cons_self
      · exact List.mem_cons_of_mem _ (drawFrom_mem u rest (passed + p) token)

/-- A draw picks an entry, also where the probabilities do not add up to one. -/
theorem draw_mem {row : List (String × Float)} (h : row ≠ []) (u : Float) :
    draw row u ∈ row.map Prod.fst := by
  obtain ⟨⟨token, p⟩, rest, rfl⟩ := List.exists_cons_of_ne_nil h
  rw [draw, drawFrom, List.map_cons]
  split
  · exact List.mem_cons_self
  · exact drawFrom_mem u rest _ token

/-! ## What is entered and what is left -/

theorem Row.total_increment (row : Row) (token : String) :
    (row.increment token).total = row.total + 1 := by
  induction row with
  | nil => rfl
  | cons e rest ih =>
    obtain ⟨t, n⟩ := e
    have hcons (m : Nat) (r : Row) : Row.total ((t, m) :: r) = m + r.total := rfl
    by_cases h : t = token
    · rw [Row.increment, if_pos h, hcons, hcons]
      omega
    · rw [Row.increment, if_neg h, hcons, hcons, ih]
      omega

namespace Table

/-- How often `target` followed any token. -/
def entered (t : Table) (target : String) : Nat := (t.rows.map fun r => r.2.count target).sum

/-- Every token is left as often as it is entered. -/
def Balanced (t : Table) : Prop := ∀ token, t.rowTotal token = t.entered token

theorem rowTotal_mk_cons (s : String) (row : Row) (rest : List (String × Row)) (source : String) :
    rowTotal ⟨(s, row) :: rest⟩ source =
      if s = source then row.total else rowTotal ⟨rest⟩ source := by
  by_cases h : s = source <;> simp [rowTotal, row?, h]

theorem rowTotal_increment (t : Table) (a b source : String) :
    (t.increment a b).rowTotal source = t.rowTotal source + if a = source then 1 else 0 := by
  obtain ⟨rows⟩ := t
  simp only [increment]
  induction rows with
  | nil => by_cases h : a = source <;> simp [incrementRows, rowTotal, row?, Row.total, h]
  | cons r rest ih =>
    obtain ⟨s, row⟩ := r
    by_cases hs : s = a
    · subst hs
      by_cases h : s = source <;>
        simp [incrementRows, rowTotal_mk_cons, h, Row.total_increment]
    · by_cases h : s = source
      · subst h
        simp [incrementRows, rowTotal_mk_cons, hs, Ne.symm hs]
      · simp [incrementRows, rowTotal_mk_cons, hs, h, ih]

theorem entered_increment (t : Table) (a b target : String) :
    (t.increment a b).entered target = t.entered target + if b = target then 1 else 0 := by
  obtain ⟨rows⟩ := t
  simp only [increment, entered]
  induction rows with
  | nil => by_cases h : b = target <;> simp [incrementRows, Row.count, h]
  | cons r rest ih =>
    obtain ⟨s, row⟩ := r
    by_cases hs : s = a
    · simp only [incrementRows, if_pos hs, List.map_cons, List.sum_cons, Row.count_increment]
      omega
    · simp only [incrementRows, if_neg hs, List.map_cons, List.sum_cons, ih]
      omega

/-- A token that follows another one is entered. -/
theorem Proper.entered_pos {t : Table} (h : t.Proper) {a b : String} (hcount : 0 < t.count a b) :
    0 < t.entered b := by
  obtain ⟨row, hrow⟩ := exists_of_count_pos hcount
  rw [h.count_of_mem hrow] at hcount
  have hle : row.count b ≤ t.entered b :=
    List.single_le_sum (fun _ _ => Nat.zero_le _) _
      (List.mem_map_of_mem (f := fun r : String × Row => r.2.count b) hrow)
  exact Nat.lt_of_lt_of_le hcount hle

/-- The row of a token has entries where the token is left. -/
theorem row_ne_nil_iff {t : Table} {source : String} : t.row source ≠ [] ↔ 0 < t.rowTotal source := by
  unfold row rowTotal
  cases t.row? source with
  | none => simp
  | some r =>
    simp only [Option.map_some, Option.getD_some]
    split
    · next hzero => simp [hzero]
    · next hpos =>
      have hr : r ≠ [] := by
        rintro rfl
        exact hpos rfl
      have hlength : (normalizeRow r).length = r.length := by
        rw [normalizeRow, List.length_map, (sortByToken_perm r).length_eq]
      exact iff_of_true (List.ne_nil_of_length_pos (hlength ▸ List.length_pos_iff.2 hr))
        (Nat.pos_of_ne_zero hpos)

/-- What stands in the row of a token was counted. -/
theorem Proper.count_pos_of_mem_row {t : Table} (h : t.Proper) {source token : String}
    (hmem : token ∈ (t.row source).map Prod.fst) : 0 < t.count source token := by
  unfold row at hmem
  cases hrow : t.row? source with
  | none => simp [hrow] at hmem
  | some r =>
    rw [hrow] at hmem
    dsimp only at hmem
    split at hmem
    · simp at hmem
    · obtain ⟨⟨b, p⟩, hb, rfl⟩ := List.mem_map.1 hmem
      obtain ⟨n, hn, -⟩ := mem_normalizeRow.1 hb
      obtain ⟨⟨s, row⟩, hfind, rfl⟩ := Option.map_eq_some_iff.1 hrow
      have hs : s = source := by simpa using List.find?_some hfind
      subst hs
      have hmem := List.mem_of_find?_eq_some hfind
      obtain ⟨hcount, hpos⟩ := (h.rows_proper _ hmem).mem_iff.1 hn
      rw [h.count_of_mem hmem, hcount]
      exact hpos

end Table

/-! ## Walks -/

/-- A walk after `current`: it has at most `limit` tokens, none of them is the terminator, each step
was counted, and a walk below the limit ends with a step to the terminator. -/
structure Path (t : Table) (limit : Nat) (current : String) (tokens : List String) : Prop where
  length_le : tokens.length ≤ limit
  ne_terminator : ∀ token ∈ tokens, token ≠ terminator
  counted : (current :: tokens).IsChain fun a b => 0 < t.count a b
  ended : tokens.length < limit →
    0 < t.count ((current :: tokens).getLast (List.cons_ne_nil _ _)) terminator

/-- **A walk from a token that is left never gets stuck.** -/
theorem Table.Balanced.walk_path {t : Table} (h : t.Balanced) (hproper : t.Proper) {σ : Type}
    [Random.Source σ] : ∀ (limit : Nat) {current : String}, 0 < t.rowTotal current →
      ∀ source : σ, Path t limit current (Chain.walk t limit current source).1
  | 0, current, _, source =>
      ⟨Nat.le_refl _, by simp [Chain.walk], .singleton _, fun hlt => absurd hlt (by simp)⟩
  | limit + 1, current, hleft, source => by
      have hrow : t.row current ≠ [] := Table.row_ne_nil_iff.2 hleft
      have hdrawn (u : Float) : 0 < t.count current (draw (t.row current) u) :=
        hproper.count_pos_of_mem_row (draw_mem hrow u)
      unfold Chain.walk
      split
      · next hnil => exact absurd hnil hrow
      · next row _ =>
        dsimp only
        generalize Random.Source.draw source = drawn
        obtain ⟨k, source⟩ := drawn
        dsimp only
        split
        · next hend =>
          refine ⟨Nat.zero_le _, by simp, .singleton _, fun _ => ?_⟩
          rw [List.getLast_singleton, ← hend]
          exact hdrawn _
        · next hgo =>
          -- What is entered is left, so the walk goes on.
          have hnext := hproper.entered_pos (hdrawn (Random.unit k))
          rw [← h] at hnext
          have hrest := h.walk_path hproper limit hnext source
          exact
            { length_le := Nat.succ_le_succ hrest.length_le
              ne_terminator := List.forall_mem_cons.2 ⟨hgo, hrest.ne_terminator⟩
              counted := .cons_cons (hdrawn _) hrest.counted
              ended := fun hlt => by
                rw [List.getLast_cons_cons]
                exact hrest.ended (Nat.lt_of_succ_lt_succ hlt) }

/-! ## Training -/

namespace Table

theorem rowTotal_addTransitions (t : Table) (steps : List (String × String)) (source : String) :
    (Chain.addTransitions t steps).rowTotal source =
      t.rowTotal source + (steps.map Prod.fst).count source := by
  induction steps generalizing t with
  | nil => rfl
  | cons step steps ih =>
    have hstep := ih (t.increment step.1 step.2)
    rw [rowTotal_increment] at hstep
    rw [List.map_cons, List.count_cons, Chain.addTransitions, List.foldl_cons]
    simp only [Chain.addTransitions] at hstep
    rw [hstep]
    simp only [beq_iff_eq]
    omega

theorem entered_addTransitions (t : Table) (steps : List (String × String)) (target : String) :
    (Chain.addTransitions t steps).entered target =
      t.entered target + (steps.map Prod.snd).count target := by
  induction steps generalizing t with
  | nil => rfl
  | cons step steps ih =>
    have hstep := ih (t.increment step.1 step.2)
    rw [entered_increment] at hstep
    rw [List.map_cons, List.count_cons, Chain.addTransitions, List.foldl_cons]
    simp only [Chain.addTransitions] at hstep
    rw [hstep]
    simp only [beq_iff_eq]
    omega

theorem count_addTransitions (t : Table) (steps : List (String × String)) (a b : String) :
    (Chain.addTransitions t steps).count a b = t.count a b + steps.count (a, b) := by
  induction steps generalizing t with
  | nil => rfl
  | cons step steps ih =>
    have hstep := ih (t.increment step.1 step.2)
    rw [count_increment] at hstep
    rw [List.count_cons, Chain.addTransitions, List.foldl_cons]
    simp only [Chain.addTransitions, Prod.mk.eta] at hstep
    rw [hstep]
    simp only [beq_iff_eq]
    omega

theorem Proper.addTransitions {t : Table} (h : t.Proper) (steps : List (String × String)) :
    (Chain.addTransitions t steps).Proper := by
  induction steps generalizing t with
  | nil => exact h
  | cons step steps ih => exact ih (h.increment step.1 step.2)

end Table

namespace Chain

theorem map_fst_transitions (tokens : List String) :
    (transitions tokens).map Prod.fst = terminator :: tokens :=
  List.map_fst_zip (by simp)

theorem map_snd_transitions (tokens : List String) :
    (transitions tokens).map Prod.snd = tokens ++ [terminator] :=
  List.map_snd_zip (by simp)

end Chain

/-- A table as it comes up by training. No name goes from the terminator straight back to it. -/
structure Flowing (t : Table) : Prop where
  proper : t.Proper
  balanced : t.Balanced
  apart : t.count terminator terminator = 0

theorem Flowing.empty : Flowing .empty := ⟨.empty, fun _ => rfl, rfl⟩

/-- Training a name keeps the balance: its first token enters it from the terminator, its last one
leaves it there. -/
theorem Flowing.addTransitions {t : Table} (h : Flowing t) {tokens : List String}
    (hne : tokens ≠ []) (htokens : ∀ token ∈ tokens, token ≠ terminator) :
    Flowing (Chain.addTransitions t (Chain.transitions tokens)) where
  proper := h.proper.addTransitions _
  balanced token := by
    rw [Table.rowTotal_addTransitions, Table.entered_addTransitions, h.balanced token,
      Chain.map_fst_transitions, Chain.map_snd_transitions, List.count_cons, List.count_append,
      List.count_singleton]
  apart := by
    obtain ⟨first, rest, rfl⟩ := List.exists_cons_of_ne_nil hne
    have hout : (terminator, terminator) ∉ Chain.transitions (first :: rest) := by
      rw [Chain.transitions, List.cons_append, List.zip_cons_cons, List.mem_cons, Prod.mk.injEq]
      rintro (⟨-, hfirst⟩ | hrest)
      · exact htokens first List.mem_cons_self hfirst.symm
      · exact htokens _ (List.of_mem_zip hrest).1 rfl
    rw [Table.count_addTransitions, h.apart, List.count_eq_zero_of_not_mem hout]

namespace Chain

/-- Whether training a name adds anything. -/
def contributes (name : String) : Bool := !(Name.words name).isEmpty

/-- Training tells whether a name contributed, and changes the table of its kind only. -/
theorem train_eq_ok {c : Chain} (hfrozen : c.frozen = false) (kind : SymbolKind) (name : String) :
    ∃ c', c.train kind name = .ok (contributes name, c') ∧ c'.frozen = false ∧
      c'.maxTokens = c.maxTokens ∧
      ∀ other, c'.table other =
        if kind = other ∧ contributes name then
          addTransitions (c.table other) (transitions (Name.words name))
        else c.table other := by
  have hopen : ¬ c.frozen = true := by simp [hfrozen]
  cases hwords : Name.words name with
  | nil =>
    refine ⟨c, ?_, hfrozen, rfl, fun other => ?_⟩
    · rw [train, if_neg hopen, hwords, contributes, hwords]
      rfl
    · simp [contributes, hwords]
  | cons token tokens =>
    have hcontributes : contributes name = true := by simp [contributes, hwords]
    refine ⟨_, by rw [train, if_neg hopen, hwords, hcontributes], by simpa using hfrozen, ?_,
      fun other => ?_⟩
    · cases kind <;> rfl
    · rw [hcontributes]
      cases kind <;> cases other <;> rfl

/-- How many of the names of a kind contribute. -/
def contributions (kind : SymbolKind) (calls : List (SymbolKind × String)) : Nat :=
  calls.countP fun call => decide (call.1 = kind) && contributes call.2

theorem train_flowing {c : Chain} (hfrozen : c.frozen = false)
    (h : ∀ kind, Flowing (c.table kind)) (kind : SymbolKind) (name : String) :
    ∃ c', c.train kind name = .ok (contributes name, c') ∧ c'.frozen = false ∧
      c'.maxTokens = c.maxTokens ∧
      ∀ other, Flowing (c'.table other) ∧ (c'.table other).rowTotal terminator =
        (c.table other).rowTotal terminator + contributions other [(kind, name)] := by
  obtain ⟨c', htrain, hfrozen', hlimit, htable⟩ := train_eq_ok hfrozen kind name
  refine ⟨c', htrain, hfrozen', hlimit, fun other => ?_⟩
  have hwords : ∀ word ∈ Name.words name, word ≠ terminator := fun _ => Name.ne_empty_of_mem_words
  rw [htable]
  split
  · next hused =>
    have hne : Name.words name ≠ [] := by simpa [contributes] using hused.2
    refine ⟨(h other).addTransitions hne hwords, ?_⟩
    -- The terminator is left once for each name, since no word is empty.
    rw [Table.rowTotal_addTransitions, map_fst_transitions, List.count_cons_self,
      List.count_eq_zero_of_not_mem fun hmem => hwords _ hmem rfl]
    simp [contributions, hused.1, hused.2]
  · next hunused =>
    refine ⟨h other, ?_⟩
    have hzero : contributions other [(kind, name)] = 0 := by
      simpa [contributions, not_and] using hunused
    rw [hzero, Nat.add_zero]

theorem trainEach_flowing {c : Chain} (hfrozen : c.frozen = false)
    (h : ∀ kind, Flowing (c.table kind)) (calls : List (SymbolKind × String)) :
    ∃ c', c.trainEach calls = .ok c' ∧ c'.maxTokens = c.maxTokens ∧
      ∀ kind, Flowing (c'.table kind) ∧ (c'.table kind).rowTotal terminator =
        (c.table kind).rowTotal terminator + contributions kind calls := by
  induction calls generalizing c with
  | nil => exact ⟨c, rfl, rfl, fun kind => ⟨h kind, rfl⟩⟩
  | cons call calls ih =>
    obtain ⟨kind, name⟩ := call
    obtain ⟨c₁, htrain, hfrozen₁, hlimit₁, hflow₁⟩ := train_flowing hfrozen h kind name
    obtain ⟨c', heach, hlimit, hflow⟩ := ih hfrozen₁ fun other => (hflow₁ other).1
    refine ⟨c', by rw [trainEach, htrain]; exact heach, hlimit.trans hlimit₁, fun other => ?_⟩
    refine ⟨(hflow other).1, ?_⟩
    have hsplit : contributions other ((kind, name) :: calls) =
        contributions other [(kind, name)] + contributions other calls := by
      rw [contributions, contributions, contributions, ← List.countP_append]
      rfl
    rw [(hflow other).2, (hflow₁ other).2, hsplit, Nat.add_assoc]

theorem contributions_eq_zero_iff {kind : SymbolKind} {calls : List (SymbolKind × String)} :
    contributions kind calls = 0 ↔ ∀ name, (kind, name) ∈ calls → contributes name = false := by
  rw [contributions, List.countP_eq_zero]
  constructor
  · intro h name hmem
    simpa using h (kind, name) hmem
  · rintro h ⟨other, name⟩ hmem hused
    simp only [Bool.and_eq_true, decide_eq_true_eq] at hused
    obtain ⟨rfl, hused⟩ := hused
    simp [h name hmem] at hused

end Chain

/-! ## Samples -/

/-- A token sequence that a table can lead to: its tokens are words, each step from the terminator on
was counted, and a sequence below the limit stops where names stopped. -/
structure Sampled (t : Table) (limit : Nat) (tokens : List String) : Prop where
  length_le : tokens.length ≤ limit
  ne_empty : ∀ token ∈ tokens, token ≠ ""
  counted : (terminator :: tokens).IsChain fun a b => 0 < t.count a b
  ended : ∀ last ∈ tokens.getLast?, tokens.length < limit → 0 < t.count last terminator

theorem Sampled.nil (t : Table) (limit : Nat) : Sampled t limit [] :=
  ⟨Nat.zero_le _, by simp, .singleton _, by simp⟩

theorem Path.sampled {t : Table} {limit : Nat} {tokens : List String}
    (h : Path t limit terminator tokens) : Sampled t limit tokens where
  length_le := h.length_le
  ne_empty := h.ne_terminator
  counted := h.counted
  ended last hlast hlt := by
    have hpos := h.ended hlt
    obtain ⟨rest, rfl⟩ := List.getLast?_eq_some_iff.1 hlast
    simpa using hpos

/-- **Samples are trained paths and never get stuck.** After names of any kinds were trained, every
token of a table is left as often as it is entered. Whatever the random numbers, a sample is a
sequence of counted steps that ends at its limit or where a name ended, and it is empty only if no
name of its kind contributed. -/
theorem Chain.sampled_of_trained {limit : Nat} (hlimit : 0 < limit)
    (calls : List (SymbolKind × String)) :
    ∃ c, trainEach { maxTokens := limit } calls = .ok c ∧ ∀ kind, (c.table kind).Balanced ∧
      ∀ {σ : Type} [Random.Source σ] (source : σ),
        Sampled (c.table kind) limit (c.sample kind source).1 ∧
        ((c.sample kind source).1 = [] ↔ ∀ name, (kind, name) ∈ calls → contributes name = false) := by
  have hnew : ∀ kind, (Chain.table { maxTokens := limit } kind) = .empty := by
    rintro (_ | _ | _) <;> rfl
  obtain ⟨c, heach, hmax, hflow⟩ := trainEach_flowing (c := { maxTokens := limit }) rfl
    (fun kind => by rw [hnew kind]; exact .empty) calls
  refine ⟨c, heach, fun kind => ?_⟩
  obtain ⟨hflowing, htotal⟩ := hflow kind
  have hstart : (c.table kind).rowTotal terminator = contributions kind calls := by
    rw [htotal, hnew, Nat.add_eq_right]
    rfl
  refine ⟨hflowing.balanced, fun source => ?_⟩
  rw [sample, hmax, ← contributions_eq_zero_iff, ← hstart]
  rcases Nat.eq_zero_or_pos ((c.table kind).rowTotal terminator) with hzero | hpos
  · -- Nothing was trained, so the walk has no row to start with.
    have hrow : (c.table kind).row terminator = [] :=
      not_not.1 fun hne => absurd (Table.row_ne_nil_iff.1 hne) (by omega)
    obtain ⟨n, rfl⟩ := Nat.exists_eq_succ_of_ne_zero (Nat.pos_iff_ne_zero.1 hlimit)
    have hwalk : (walk (c.table kind) (n + 1) terminator source).1 = [] := by
      rw [walk, hrow]
    rw [hwalk]
    exact ⟨Sampled.nil _ _, iff_of_true rfl hzero⟩
  · have hpath := hflowing.balanced.walk_path hflowing.proper limit hpos source
    refine ⟨hpath.sampled, iff_of_false (fun hnil => ?_) (Nat.pos_iff_ne_zero.1 hpos)⟩
    -- An empty walk would have drawn the terminator right away.
    have hend := hpath.ended (by rw [hnil]; exact hlimit)
    simp only [hnil, List.getLast_singleton] at hend
    exact absurd hflowing.apart (Nat.pos_iff_ne_zero.1 hend)

/-- Two names share a token and one has no words; samples of variables have at most two tokens. -/
theorem Chain.sampled_of_trained_shared :
    0 < 2 ∧ ∃ c, trainEach { maxTokens := 2 }
        [(.variable, "userName"), (.variable, "name_of_user"), (.method, "_2")] = .ok c ∧
      ∀ kind, (c.table kind).Balanced ∧ ∀ {σ : Type} [Random.Source σ] (source : σ),
        Sampled (c.table kind) 2 (c.sample kind source).1 ∧
        ((c.sample kind source).1 = [] ↔ ∀ name,
          (kind, name) ∈ [(SymbolKind.variable, "userName"), (.variable, "name_of_user"),
            (.method, "_2")] → contributes name = false) :=
  ⟨by decide, Chain.sampled_of_trained (by decide) _⟩

end Pseudonym.Model
