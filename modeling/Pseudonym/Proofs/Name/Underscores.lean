import Mathlib.Data.List.DropRight
import Pseudonym.Name.Words

/-!
# Underscores at the ends of a name

A name is the underscores in front of it and its body. Whether it is mangled is seen at its two
ends: a text of characters that neither begin nor end with an underscore (`Flanked`) leaves the
underscores in front of it as they are, and there they alone decide (`leading_append`,
`isMangled_append`).
-/

namespace Pseudonym.Name

open Text

/-! ## The body of a name -/

theorem mem_of_mem_body {name : String} {c : Char} (h : c ∈ (body name).toList) :
    c ∈ name.toList := by
  rw [body, trimLeftWhile, String.toList_ofList] at h
  exact (List.dropWhile_sublist _).subset h

/-- A body has no underscores in front. -/
theorem body_body (name : String) : body (body name) = body name := by
  have hdrop : (body name).toList.dropWhile isUnderscore = (body name).toList := by
    simp [body, trimLeftWhile, List.dropWhile_idempotent]
  show String.ofList ((body name).toList.dropWhile isUnderscore) = body name
  rw [hdrop, String.ofList_toList]

/-! ## Underscores in front -/

theorem mem_leading {name : String} {c : Char} (h : c ∈ (leading name).toList) : c = '_' := by
  rw [leading, String.toList_ofList] at h
  simpa [isUnderscore] using List.all_eq_true.1 List.all_takeWhile c h

/-- Underscores before something else are all the underscores in front. -/
theorem leading_append {lead rest : List Char} (hlead : ∀ c ∈ lead, c = '_')
    (hrest : rest.head? ≠ some '_') {name : String} (hname : name.toList = lead ++ rest) :
    leading name = String.ofList lead := by
  have hall : ∀ c ∈ lead, isUnderscore c := by
    intro c hc
    rw [hlead c hc]
    rfl
  have hstop : rest.takeWhile isUnderscore = [] := by
    cases rest with
    | nil => rfl
    | cons c rest =>
        refine List.takeWhile_cons_of_neg fun hc => hrest ?_
        rw [List.head?_cons, show c = '_' by simpa [isUnderscore] using hc]
  rw [leading, hname, List.takeWhile_append_of_pos hall, hstop, List.append_nil]

/-- A name starts with two underscores if there are two in front of it. -/
theorem startsWith_iff_leading {name : String} :
    name.startsWith "__" ↔ 2 ≤ (leading name).toList.length := by
  rw [String.startsWith_string_iff, leading, String.toList_ofList]
  show ['_', '_'] <+: name.toList ↔ _
  rcases name.toList with _ | ⟨c, _ | ⟨d, cs⟩⟩
  · simp
  · by_cases hc : c = '_' <;> simp [isUnderscore, hc]
  · by_cases hc : c = '_' <;> by_cases hd : d = '_' <;> simp [isUnderscore, hc, hd, eq_comm]

theorem endsWith_iff {name : String} : name.endsWith "__" ↔ ['_', '_'] <:+ name.toList := by
  rw [String.endsWith, String.Slice.endsWith_string_iff]
  simp

theorem isMangled_iff {name : String} :
    isMangled name ↔ name.startsWith "__" ∧ ¬ name.endsWith "__" := by
  simp [isMangled]

/-- Two underscores with at most two characters behind them, of which the last two of all are
underscores again, are nothing but underscores. -/
theorem bare_of_short {rest : List Char} (hend : ['_', '_'] <:+ '_' :: '_' :: rest)
    (hshort : rest.length ≤ 2) : '_' :: '_' :: rest ∈ ["__", "___", "____"].map String.toList := by
  rcases rest with _ | ⟨c, _ | ⟨d, _ | ⟨e, cs⟩⟩⟩
  · simp
  · obtain rfl : '_' = c := by simpa [List.suffix_cons_iff] using hend
    decide
  · obtain ⟨rfl, rfl⟩ : '_' = c ∧ '_' = d := by simpa [List.suffix_cons_iff] using hend
    decide
  · simp at hshort

/-- Two underscores at both ends: something stands between them, or there are no more than four of
them and nothing else. -/
theorem startsWith_and_endsWith_iff {name : String} :
    name.startsWith "__" ∧ name.endsWith "__" ↔
      isDunder name ∨ name ∈ ["__", "___", "____"] := by
  constructor
  · rintro ⟨hstart, hend⟩
    by_cases hlong : 4 < name.length
    · left
      simp [isDunder, hlong, hstart, hend]
    · right
      rw [String.startsWith_string_iff] at hstart
      obtain ⟨rest, hrest⟩ : ['_', '_'] <+: name.toList := hstart
      have hlength : rest.length ≤ 2 := by
        rw [← String.length_toList, ← hrest, List.length_append, List.length_cons] at hlong
        simp only [List.length_singleton] at hlong
        omega
      rw [endsWith_iff, ← hrest] at hend
      obtain ⟨other, hother, heq⟩ := List.mem_map.1 (bare_of_short hend hlength)
      exact String.toList_injective (heq.trans hrest) ▸ hother
  · rintro (hdunder | hmem)
    · simp only [isDunder, Bool.and_eq_true] at hdunder
      exact ⟨hdunder.1.2, hdunder.2⟩
    · simp only [List.mem_cons, List.not_mem_nil, or_false] at hmem
      obtain rfl | rfl | rfl := hmem <;> decide +kernel

/-! ## Texts without underscores at the ends -/

/-- Characters that neither begin nor end with an underscore. -/
structure Flanked (cs : List Char) : Prop where
  head : cs.head? ≠ some '_'
  last : cs.getLast? ≠ some '_'

theorem Flanked.of_bare {cs : List Char} (h : '_' ∉ cs) : Flanked cs where
  head hhead := h (List.mem_of_mem_head? hhead)
  last hlast := h (List.mem_of_mem_getLast? hlast)

/-- Behind underscores, something flanked is mangled if there are two of them. -/
theorem isMangled_append {lead : List Char} (hlead : ∀ c ∈ lead, c = '_') {rest : List Char}
    (hrest : Flanked rest) (hne : rest ≠ []) {name : String} (hname : name.toList = lead ++ rest) :
    isMangled name ↔ 2 ≤ lead.length := by
  have hends : ¬ name.endsWith "__" := by
    rw [endsWith_iff, hname]
    rintro ⟨front, hfront⟩
    have hlast := congrArg List.getLast? hfront
    rw [List.getLast?_append_of_ne_nil _ hne, List.getLast?_append_of_ne_nil _ (by simp)] at hlast
    exact hrest.last hlast.symm
  rw [isMangled_iff, startsWith_iff_leading, leading_append hlead hrest.head hname,
    String.toList_ofList]
  exact and_iff_left hends

end Pseudonym.Name
