import Pseudonym.Proofs.Model.Sampling

/-!
# The tokens of a trained chain

A chain starts empty, is trained with names and may be frozen (`Chain.Trained`). All that enters its
tables are words of names and the terminator between them, so whatever is true of those is true of
every token that a walk comes to (`Table.Enters.walk`). The words of a name are letters in lower
case: no sample has an underscore in it (`Chain.Trained.sample_bare`).
-/

namespace Pseudonym.Name

open Text

/-- The words of a name are free of underscores. -/
theorem bare_of_mem_words {name word : String} (h : word ∈ words name) : '_' ∉ word.toList := by
  obtain ⟨token, htoken, rfl⟩ := List.mem_map.1 h
  have hletters := List.of_mem_filter htoken
  rw [isLetterText, Bool.and_eq_true, List.all_eq_true] at hletters
  have hbare : '_' ∉ token.toList := fun hmem => absurd (hletters.2 '_' hmem) (by decide +kernel)
  rw [lower, String.toList_ofList]
  exact lowerAfter_bare hbare []

end Pseudonym.Name

namespace Pseudonym.Model

/-! ## What enters a table -/

namespace Table

variable {P : String → Prop} {t : Table}

/-- A proper table in which tokens of one kind only follow others. -/
structure Enters (P : String → Prop) (t : Table) : Prop where
  proper : t.Proper
  entered : ∀ {a b}, 0 < t.count a b → P b

theorem Enters.empty : Enters P .empty := by
  refine ⟨.empty, fun {a b} hcount => ?_⟩
  cases hcount

theorem Enters.addTransitions (h : t.Enters P) {steps : List (String × String)}
    (hsteps : ∀ step ∈ steps, P step.2) : (Chain.addTransitions t steps).Enters P := by
  refine ⟨h.proper.addTransitions steps, fun {a b} hcount => ?_⟩
  rw [count_addTransitions] at hcount
  by_cases hold : 0 < t.count a b
  · exact h.entered hold
  · -- The transition is new, so it is one of the steps.
    have hnew : (a, b) ∈ steps := List.count_pos_iff.1 (by omega)
    exact hsteps (a, b) hnew

/-- A walk comes to tokens that entered the table, whatever is drawn. -/
theorem Enters.walk (h : t.Enters P) {σ : Type} [Random.Source σ] (limit : Nat) :
    ∀ (current : String) (source : σ), ∀ token ∈ (Chain.walk t limit current source).1, P token := by
  induction limit with
  | zero => simp [Chain.walk]
  | succ limit ih =>
      intro current source token htoken
      unfold Chain.walk at htoken
      split at htoken
      · cases htoken
      · next hrow =>
          have hdrawn (u : Float) : P (draw (t.row current) u) :=
            h.entered (h.proper.count_pos_of_mem_row (draw_mem hrow u))
          dsimp only at htoken
          split at htoken
          · cases htoken
          · rcases List.mem_cons.1 htoken with rfl | htoken
            · exact hdrawn _
            · exact ih _ _ token htoken

end Table

/-! ## Training -/

namespace Chain

/-- The chains that come up by training: names of any kinds are added to an empty chain, and at some
time it may be frozen. -/
inductive Trained : Chain → Prop
  | new {limit : Int} {c : Chain} (h : Chain.ofLimit limit = .ok c) : Trained c
  | train {c c' : Chain} {kind : SymbolKind} {name : String} {used : Bool} (before : Trained c)
      (h : c.train kind name = .ok (used, c')) : Trained c'
  | freeze {c : Chain} (before : Trained c) : Trained c.freeze

/-- A name is trained as long as the chain is not frozen. -/
theorem frozen_of_train {c c' : Chain} {kind : SymbolKind} {name : String} {used : Bool}
    (h : c.train kind name = .ok (used, c')) : c.frozen = false := by
  unfold train at h
  split at h
  · cases h
  · next hfrozen => simpa using hfrozen

/-- Only tokens without underscores enter the tables. -/
theorem Trained.enters {c : Chain} (h : Trained c) (kind : SymbolKind) :
    (c.table kind).Enters fun token => '_' ∉ token.toList := by
  induction h with
  | @new limit c h =>
      unfold ofLimit at h
      split at h
      · cases h
      · cases h
        cases kind <;> exact .empty
  | @train c c' trained name used _ h ih =>
      obtain ⟨c'', htrain, -, -, htable⟩ := train_eq_ok (frozen_of_train h) trained name
      rw [h] at htrain
      cases htrain
      rw [htable]
      split
      · refine ih.addTransitions fun step hstep => ?_
        have hentered : step.2 ∈ Name.words name ++ [terminator] := by
          rw [← map_snd_transitions]
          exact List.mem_map_of_mem hstep
        rcases List.mem_append.1 hentered with hword | hend
        · exact Name.bare_of_mem_words hword
        · rw [List.mem_singleton.1 hend]
          decide
      · exact ih
  | freeze _ ih => cases kind <;> exact ih

/-- **Samples are free of underscores.** -/
theorem Trained.sample_bare {c : Chain} (h : Trained c) {σ : Type} [Random.Source σ]
    (kind : SymbolKind) (source : σ) : ∀ token ∈ (c.sample kind source).1, '_' ∉ token.toList :=
  (h.enters kind).walk c.maxTokens terminator source

/-! ## Tokens with one successor -/

section Single

variable {t : Table} {current next : String} (hrow : (t.row current).map Prod.fst = [next])
  {σ : Type} [Random.Source σ] (limit : Nat) (source : σ)
include hrow

/-- Where there is one successor only, it is drawn. -/
theorem draw_of_single (u : Float) : draw (t.row current) u = next := by
  have hne : t.row current ≠ [] := by
    intro hnil
    rw [hnil] at hrow
    cases hrow
  have hmem := draw_mem hne u
  rwa [hrow, List.mem_singleton] at hmem

theorem walk_of_single : ∃ source' : σ, (walk t (limit + 1) current source).1 =
    if next = terminator then [] else next :: (walk t limit next source').1 := by
  have hdrawn := draw_of_single hrow
  refine ⟨(Random.Source.draw source).2, ?_⟩
  rw [walk]
  split
  · next hnil =>
      rw [hnil] at hrow
      cases hrow
  · simp only [hdrawn]
    split
    · rfl
    · rfl

end Single

end Chain

end Pseudonym.Model
