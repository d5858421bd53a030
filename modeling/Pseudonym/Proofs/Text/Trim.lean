import Mathlib.Data.List.DropRight
import Pseudonym.Text.Word

/-!
# Trimmed texts

Trimming removes what it should at both ends and leaves a text alone that has nothing there
(`trimWhile_eq_self`), so that trimming once is enough (`trimWhile_trimWhile`).
-/

namespace Pseudonym.Text

variable {p : Char → Bool} {s : String}

theorem toList_trimWhile (p : Char → Bool) (s : String) :
    (trimWhile p s).toList = (s.toList.dropWhile p).rdropWhile p := by
  simp only [trimWhile, trimRightWhile, trimLeftWhile, String.toList_ofList, List.rdropWhile]

/-- A text whose ends are not of a class stays as it is. -/
theorem trimWhile_eq_self (hhead : ∀ c ∈ s.toList.head?, ¬ p c)
    (hlast : ∀ c ∈ s.toList.getLast?, ¬ p c) : trimWhile p s = s := by
  have hdrop : s.toList.dropWhile p = s.toList := by
    cases hs : s.toList with
    | nil => rfl
    | cons c cs => exact List.dropWhile_cons_of_neg (hhead c (by rw [hs]; rfl))
  refine String.toList_injective ?_
  rw [toList_trimWhile, hdrop, List.rdropWhile_eq_self_iff]
  exact fun hne => hlast _ (List.getLast?_eq_some_getLast hne)

theorem not_of_mem_head?_dropWhile (cs : List Char) :
    ∀ c ∈ (cs.dropWhile p).head?, ¬ p c := by
  intro c hc
  have hhead := List.head?_dropWhile_not p cs
  rw [Option.mem_def.1 hc] at hhead
  simpa using hhead

theorem not_of_mem_head?_trimWhile : ∀ c ∈ (trimWhile p s).toList.head?, ¬ p c := by
  intro c hc
  rw [toList_trimWhile] at hc
  obtain ⟨rest, hrest⟩ := List.rdropWhile_prefix p (s.toList.dropWhile p)
  refine not_of_mem_head?_dropWhile s.toList c ?_
  rw [← hrest, List.head?_append, Option.mem_def.1 hc]
  rfl

theorem not_of_mem_getLast?_trimWhile : ∀ c ∈ (trimWhile p s).toList.getLast?, ¬ p c := by
  intro c hc
  rw [toList_trimWhile, List.rdropWhile, List.getLast?_reverse] at hc
  exact not_of_mem_head?_dropWhile _ c hc

/-- Nothing is left to trim. -/
@[simp] theorem trimWhile_trimWhile : trimWhile p (trimWhile p s) = trimWhile p s :=
  trimWhile_eq_self not_of_mem_head?_trimWhile not_of_mem_getLast?_trimWhile

end Pseudonym.Text
