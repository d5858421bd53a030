import Pseudonym.Proofs.Model.Tokens

/-!
# Chains that know one spelling

After training, a table counts the steps of the names of its kind and nothing else
(`trainEach_table`). If all these names have the same words, and no word twice, every token of the
table has one successor, whatever the counts are. So a walk has no choice: it gives these words back,
as many as the limit allows (`sample_of_one_spelling`).
-/

namespace Pseudonym.Model

/-! ## Tokens with one successor -/

namespace Table

variable {t : Table} {source next : String}

theorem Proper.row_keys_nodup (h : t.Proper) (source : String) :
    ((t.row source).map Prod.fst).Nodup := by
  unfold row
  cases hrow : t.row? source with
  | none => exact List.nodup_nil
  | some r =>
      obtain ⟨⟨s, row⟩, hfind, rfl⟩ := Option.map_eq_some_iff.1 hrow
      have hproper := h.rows_proper _ (List.mem_of_find?_eq_some hfind)
      dsimp only
      split
      · exact List.nodup_nil
      · rw [normalizeRow_keys, ((sortByToken_perm row).map Prod.fst).nodup_iff]
        exact hproper.keys_nodup

/-- A token that was followed by one token only has no other one in its row. -/
theorem Proper.row_of_single (h : t.Proper) (hcount : 0 < t.count source next)
    (honly : ∀ other, 0 < t.count source other → other = next) :
    (t.row source).map Prod.fst = [next] := by
  have hall : ∀ other ∈ (t.row source).map Prod.fst, other = next := fun other hother =>
    honly other (h.count_pos_of_mem_row hother)
  have hne : t.row source ≠ [] := by
    obtain ⟨row, hrow⟩ := exists_of_count_pos hcount
    rw [row_ne_nil_iff, rowTotal, h.row?_eq_some hrow]
    exact (h.rows_proper _ hrow).total_pos (h.rows_ne_nil _ hrow)
  have hnodup := h.row_keys_nodup source
  obtain ⟨entry, rest, hentries⟩ := List.exists_cons_of_ne_nil hne
  rw [hentries, List.map_cons] at hall hnodup ⊢
  obtain ⟨hfirst, hrest⟩ := List.forall_mem_cons.1 hall
  cases rest with
  | nil => rw [hfirst, List.map_nil]
  | cons other rest =>
      -- Another entry would be for the same token.
      have hother : other.1 = entry.1 := (hrest other.1 List.mem_cons_self).trans hfirst.symm
      exact absurd (hother ▸ List.mem_cons_self) (List.nodup_cons.1 hnodup).1

end Table

/-! ## Trained tables -/

namespace Chain

/-- The transitions that training counts in the table of a kind. -/
def stepsOf (kind : SymbolKind) (calls : List (SymbolKind × String)) : List (String × String) :=
  calls.flatMap fun call =>
    if call.1 = kind ∧ contributes call.2 then transitions (Name.words call.2) else []

/-- Training adds the steps of all names to the tables of their kinds. -/
theorem trainEach_table {c : Chain} (hfrozen : c.frozen = false)
    (calls : List (SymbolKind × String)) :
    ∃ c', c.trainEach calls = .ok c' ∧ c'.maxTokens = c.maxTokens ∧
      ∀ kind, c'.table kind = addTransitions (c.table kind) (stepsOf kind calls) := by
  induction calls generalizing c with
  | nil => exact ⟨c, rfl, rfl, fun _ => rfl⟩
  | cons call calls ih =>
      obtain ⟨kind, name⟩ := call
      obtain ⟨c₁, htrain, hfrozen₁, hlimit₁, htable₁⟩ := train_eq_ok hfrozen kind name
      obtain ⟨c', heach, hlimit, htable⟩ := ih hfrozen₁
      refine ⟨c', by rw [trainEach, htrain]; exact heach, hlimit.trans hlimit₁, fun other => ?_⟩
      have hsplit : stepsOf other ((kind, name) :: calls) =
          stepsOf other [(kind, name)] ++ stepsOf other calls := by
        simp [stepsOf]
      have hfirst : c₁.table other = addTransitions (c.table other) (stepsOf other [(kind, name)]) := by
        rw [htable₁, stepsOf, List.flatMap_singleton]
        split <;> rfl
      rw [htable, hfirst, hsplit, addTransitions, addTransitions, addTransitions, List.foldl_append]

/-- Where all names of a kind have the same words, their steps are the steps of these words. -/
theorem mem_stepsOf {kind : SymbolKind} {calls : List (SymbolKind × String)} {ts : List String}
    (hsome : ∃ name, (kind, name) ∈ calls)
    (hwords : ∀ name, (kind, name) ∈ calls → Name.words name = ts) (hts : ts ≠ [])
    {step : String × String} : step ∈ stepsOf kind calls ↔ step ∈ transitions ts := by
  have hused : ∀ name, (kind, name) ∈ calls → contributes name := by
    intro name hname
    simpa [contributes, hwords name hname] using hts
  rw [stepsOf, List.mem_flatMap]
  constructor
  · rintro ⟨⟨other, name⟩, hcall, hstep⟩
    split at hstep
    · next hkind =>
        obtain rfl : other = kind := hkind.1
        rwa [hwords name hcall] at hstep
    · cases hstep
  · intro hstep
    obtain ⟨name, hname⟩ := hsome
    refine ⟨(kind, name), hname, ?_⟩
    rwa [if_pos ⟨rfl, hused name hname⟩, hwords name hname]

theorem stepsOf_eq_nil {kind : SymbolKind} {calls : List (SymbolKind × String)}
    (hwords : ∀ name, (kind, name) ∈ calls → Name.words name = []) : stepsOf kind calls = [] := by
  rw [stepsOf, List.flatMap_eq_nil_iff]
  rintro ⟨other, name⟩ hcall
  refine if_neg ?_
  rintro ⟨rfl, hused⟩
  simp [contributes, hwords name hcall] at hused

/-! ## Walks without a choice -/

/-- A walk along steps that are the only ones from their tokens. -/
theorem walk_of_only {t : Table} {σ : Type} [Random.Source σ] : ∀ {rest : List String}
    {current : String} (limit : Nat) (source : σ),
    (∀ step ∈ (current :: rest).zip (rest ++ [terminator]),
      (t.row step.1).map Prod.fst = [step.2]) →
    (∀ token ∈ rest, token ≠ terminator) → (walk t limit current source).1 = rest.take limit
  | rest, _, 0, _, _, _ => by simp [walk]
  | [], current, limit + 1, source, hsteps, _ => by
      obtain ⟨_, hwalk⟩ := walk_of_single (hsteps (current, terminator) List.mem_cons_self) limit source
      rw [hwalk, if_pos rfl]
      rfl
  | next :: rest, current, limit + 1, source, hsteps, htokens => by
      obtain ⟨hnext, hrest⟩ := List.forall_mem_cons.1 htokens
      rw [List.cons_append, List.zip_cons_cons] at hsteps
      obtain ⟨hfirst, hsteps⟩ := List.forall_mem_cons.1 hsteps
      obtain ⟨source', hwalk⟩ := walk_of_single hfirst limit source
      rw [hwalk, if_neg hnext, walk_of_only limit source' hsteps hrest, List.take_succ_cons]

/-! ## Samples -/

/-- Where no token comes twice, each has one successor. -/
theorem eq_of_mem_transitions {ts : List String} (hdistinct : (terminator :: ts).Nodup)
    {a b b' : String} (h : (a, b) ∈ transitions ts) (h' : (a, b') ∈ transitions ts) : b' = b := by
  have hkeys : ((transitions ts).map Prod.fst).Nodup := by
    rwa [map_fst_transitions]
  have hsame : (a, b') = (a, b) := List.inj_on_of_nodup_map hkeys h' h rfl
  exact congrArg Prod.snd hsame

/-- **A chain that knows one spelling reproduces it.** Let all names of a kind, at least one, have
the same words, and no word twice. Then every sample of the kind consists of these words, in order,
up to the limit, whatever is drawn and whatever names of other kinds were trained. -/
theorem sample_of_one_spelling (limit : Nat) {kind : SymbolKind}
    {calls : List (SymbolKind × String)} {ts : List String} (hdistinct : ts.Nodup)
    (hsome : ∃ name, (kind, name) ∈ calls)
    (hwords : ∀ name, (kind, name) ∈ calls → Name.words name = ts) :
    ∃ c, trainEach { maxTokens := limit } calls = .ok c ∧
      ∀ {σ : Type} [Random.Source σ] (source : σ),
        (c.sample kind source).1 = ts.take (min ts.length limit) := by
  have hnew : Chain.table { maxTokens := limit } kind = .empty := by
    cases kind <;> rfl
  obtain ⟨c, heach, hmax, htable⟩ := trainEach_table (c := { maxTokens := limit }) rfl calls
  refine ⟨c, heach, fun source => ?_⟩
  have hcount (a b : String) : (c.table kind).count a b = (stepsOf kind calls).count (a, b) := by
    rw [htable, hnew, Table.count_addTransitions, Nat.add_eq_right]
    rfl
  have hproper : (c.table kind).Proper := by
    rw [htable, hnew]
    exact Table.Proper.empty.addTransitions _
  have htokens : ∀ token ∈ ts, token ≠ terminator := by
    obtain ⟨name, hname⟩ := hsome
    rw [← hwords name hname]
    exact fun _ => Name.ne_empty_of_mem_words
  have htake : ts.take (min ts.length limit) = ts.take limit := by
    rw [Nat.min_comm, ← List.take_take, List.take_length]
  rw [sample, hmax, htake]
  rcases eq_or_ne ts [] with rfl | hts
  · -- Nothing was counted, so there is no row to start with.
    rw [htable, hnew, stepsOf_eq_nil hwords, List.take_nil]
    cases limit <;> rfl
  · have hdistinct' : (terminator :: ts).Nodup :=
      List.nodup_cons.2 ⟨fun hmem => htokens _ hmem rfl, hdistinct⟩
    have hpos (a b : String) : 0 < (c.table kind).count a b ↔ (a, b) ∈ transitions ts := by
      rw [hcount, List.count_pos_iff, mem_stepsOf hsome hwords hts]
    refine walk_of_only limit source (fun step hstep => ?_) htokens
    exact hproper.row_of_single ((hpos _ _).2 hstep) fun other hother =>
      eq_of_mem_transitions hdistinct' hstep ((hpos _ _).1 hother)

/-- Two spellings of the same words, and a method with some of them the other way round. -/
def counterCalls : List (SymbolKind × String) :=
  [(.variable, "maxUserCount"), (.method, "userMax"), (.variable, "MAX_USER_COUNT")]

/-- The limit leaves the last word out, and the method does not lead a walk back. -/
theorem sample_of_one_spelling_counter :
    ["max", "user", "count"].Nodup ∧ (∃ name, (.variable, name) ∈ counterCalls) ∧
      (∀ name, (.variable, name) ∈ counterCalls → Name.words name = ["max", "user", "count"]) ∧
      ∃ c, trainEach { maxTokens := 2 } counterCalls = .ok c ∧
        ∀ {σ : Type} [Random.Source σ] (source : σ),
          (c.sample .variable source).1 = ["max", "user"] := by
  have hdistinct : ["max", "user", "count"].Nodup := by decide
  have hsome : ∃ name, (.variable, name) ∈ counterCalls := ⟨_, List.mem_cons_self⟩
  have hwords : ∀ name, (.variable, name) ∈ counterCalls →
      Name.words name = ["max", "user", "count"] := by
    have hspelled : Name.words "maxUserCount" = ["max", "user", "count"] ∧
        Name.words "MAX_USER_COUNT" = ["max", "user", "count"] := by decide +kernel
    intro name hname
    simp only [counterCalls, List.mem_cons, Prod.mk.injEq, List.not_mem_nil, reduceCtorEq,
      false_and, true_and, false_or, or_false] at hname
    rcases hname with rfl | rfl
    · exact hspelled.1
    · exact hspelled.2
  exact ⟨hdistinct, hsome, hwords, sample_of_one_spelling 2 hdistinct hsome hwords⟩

end Chain

end Pseudonym.Model
