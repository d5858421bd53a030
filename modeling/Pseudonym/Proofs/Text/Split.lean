import Mathlib.Data.String.Basic

/-!
# Texts cut at a character

Cutting a text at a character is cutting the list of its characters (`splitOn_singleton`), so that
what is known of lists holds of texts. A cut is undone by joining the parts (`intercalate_splitOn`),
and the parts of a text with the character in it are those before it and those behind it
(`splitOn_append`). So some, but not all, of the first parts make what stands before one of the
places with the character (`exists_firstParts_eq`).
-/

namespace Pseudonym.Text

/-- A cut in the middle of a part: `done` was cut off, and `part` was read since. -/
theorem splitOnAux_singleton (sep : Char) (done part rest : List Char) (acc : List String) :
    String.splitOnAux (String.ofList (done ++ part ++ rest)) (String.singleton sep)
        ⟨String.utf8Len done⟩ ⟨String.utf8Len done + String.utf8Len part⟩ 0 acc =
      acc.reverse ++ (List.splitOnPPrepend (· == sep) rest part.reverse).map String.ofList := by
  have hsep : String.singleton sep = String.ofList ([] ++ [sep]) := String.singleton_eq_ofList
  have hget : String.Pos.Raw.get (String.singleton sep) 0 = sep :=
    hsep ▸ String.get_of_valid [] [sep]
  have hnext : String.Pos.Raw.next (String.singleton sep) 0 = ⟨sep.utf8Size⟩ := by
    rw [hsep]
    simpa using String.next_of_valid [] sep []
  have hend : String.Pos.Raw.atEnd (String.singleton sep) ⟨sep.utf8Size⟩ = true := by
    rw [hsep, String.atEnd_iff, String.rawEndPos_ofList]
    simp
  induction rest generalizing done part acc with
  | nil =>
      have hdone : String.Pos.Raw.atEnd (String.ofList (done ++ part ++ []))
          ⟨String.utf8Len done + String.utf8Len part⟩ = true := by
        rw [String.atEnd_iff, String.rawEndPos_ofList]
        simp
      have hpart := String.extract_of_valid done part []
      rw [String.splitOnAux.eq_def, if_pos hdone, hpart]
      simp
  | cons c rest ih =>
      have hopen : ¬ String.Pos.Raw.atEnd (String.ofList (done ++ part ++ c :: rest))
          ⟨String.utf8Len done + String.utf8Len part⟩ = true := by
        rw [String.atEnd_iff, String.rawEndPos_ofList]
        have hpos := c.utf8Size_pos
        simp only [String.Pos.Raw.le_iff, String.utf8Len_append, String.utf8Len_cons]
        omega
      have hread : String.Pos.Raw.get (String.ofList (done ++ part ++ c :: rest))
          ⟨String.utf8Len done + String.utf8Len part⟩ = c := by
        rw [← String.utf8Len_append]
        exact String.get_of_valid (done ++ part) (c :: rest)
      have hstep : String.Pos.Raw.next (String.ofList (done ++ part ++ c :: rest))
          ⟨String.utf8Len done + String.utf8Len part⟩ =
            ⟨String.utf8Len done + String.utf8Len part + c.utf8Size⟩ := by
        rw [← String.utf8Len_append]
        exact String.next_of_valid (done ++ part) c rest
      rw [String.splitOnAux.eq_def, if_neg hopen, hread, hget, List.splitOnPPrepend_cons_eq_if]
      by_cases hc : c = sep
      · subst hc
        have hpart : String.Pos.Raw.extract (String.ofList (done ++ part ++ c :: rest))
            ⟨String.utf8Len done⟩
            ((⟨String.utf8Len done + String.utf8Len part + c.utf8Size⟩ : String.Pos.Raw).unoffsetBy
              ⟨c.utf8Size⟩) = String.ofList part := by
          rw [← String.extract_of_valid done part (c :: rest)]
          simp [String.Pos.Raw.unoffsetBy]
        have hrest := ih (done ++ part ++ [c]) [] (String.ofList part :: acc)
        simp only [String.utf8Len_append, String.utf8Len_cons, String.utf8Len_nil, Nat.add_zero,
          Nat.zero_add, List.append_assoc, List.cons_append, List.nil_append] at hrest
        simp only [List.append_assoc, Nat.add_assoc] at hrest hpart hstep ⊢
        simp only [beq_self_eq_true, if_true, hstep, hnext, hend, hpart]
        rw [hrest]
        simp
      · have hrest := ih done (part ++ [c]) acc
        have hback : (⟨String.utf8Len done + String.utf8Len part⟩ : String.Pos.Raw).unoffsetBy 0 =
            ⟨String.utf8Len done + String.utf8Len part⟩ := rfl
        simp only [String.utf8Len_append, String.utf8Len_cons, String.utf8Len_nil,
          Nat.zero_add, List.append_assoc, List.cons_append, List.nil_append] at hrest hstep ⊢
        simp only [beq_iff_eq, hc, if_false, hback, hstep, ← Nat.add_assoc] at hrest ⊢
        rw [hrest]
        simp

/-- A text is cut as the list of its characters is. -/
theorem splitOn_singleton (sep : Char) (s : String) :
    s.splitOn (String.singleton sep) = (s.toList.splitOn sep).map String.ofList := by
  have hsep : (String.singleton sep == "") = false := by
    simp [← String.toList_inj]
  rw [String.splitOn, hsep, List.splitOn_eq_splitOnP, List.splitOnP_eq_splitOnPPrepend]
  simpa using splitOnAux_singleton sep [] [] s.toList []

theorem splitOn_ne_nil (sep : Char) (s : String) : s.splitOn (String.singleton sep) ≠ [] := by
  rw [splitOn_singleton, Ne, List.map_eq_nil_iff]
  exact List.splitOn_ne_nil sep s.toList

/-- Joining the parts undoes a cut. -/
theorem intercalate_splitOn (sep : Char) (s : String) :
    (String.singleton sep).intercalate (s.splitOn (String.singleton sep)) = s := by
  refine String.toList_injective ?_
  have hchars : (String.toList ∘ String.ofList) = id := funext fun _ => String.toList_ofList
  rw [String.toList_intercalate, splitOn_singleton, List.map_map, hchars, List.map_id,
    String.toList_singleton, List.intercalate_splitOn]

/-- A character between two texts cuts them apart. -/
theorem splitOn_append (sep : Char) (s t : String) :
    (s ++ String.singleton sep ++ t).splitOn (String.singleton sep) =
      s.splitOn (String.singleton sep) ++ t.splitOn (String.singleton sep) := by
  have hchars : (s ++ String.singleton sep ++ t).toList = s.toList ++ sep :: t.toList := by
    simp
  rw [splitOn_singleton, splitOn_singleton, splitOn_singleton, hchars,
    List.splitOn_append_cons_self, List.map_append]

/-! ## Parts in front -/

section FirstParts

variable {sep : Char} {s : String}

/-- The first parts of a text that was cut, joined again. -/
def firstParts (sep : Char) (s : String) (n : Nat) : String :=
  (String.singleton sep).intercalate ((s.splitOn (String.singleton sep)).take n)

/-- Fewer parts are what stands before a character of more parts. -/
theorem firstParts_eq_append {m n : Nat} (hm : 0 < m) (hmn : m < n)
    (hn : n ≤ (s.splitOn (String.singleton sep)).length) :
    ∃ rest, firstParts sep s n = firstParts sep s m ++ String.singleton sep ++ rest := by
  have hfewer : ((s.splitOn (String.singleton sep)).take n).take m =
      (s.splitOn (String.singleton sep)).take m := by
    rw [List.take_take, Nat.min_eq_left (Nat.le_of_lt hmn)]
  refine ⟨(String.singleton sep).intercalate
    (((s.splitOn (String.singleton sep)).take n).drop m), ?_⟩
  rw [firstParts, firstParts, ← hfewer, ← String.intercalate_append_of_ne_nil,
    List.take_append_drop]
  · exact List.ne_nil_of_length_pos (by simp only [List.length_take]; omega)
  · exact List.ne_nil_of_length_pos (by simp only [List.length_drop, List.length_take]; omega)

/-- The first parts, but not all, are what stands before one of the characters that cut the text. -/
theorem exists_firstParts_eq {p : String} :
    (∃ n, 0 < n ∧ n < (s.splitOn (String.singleton sep)).length ∧ firstParts sep s n = p) ↔
      ∃ rest, s = p ++ String.singleton sep ++ rest := by
  constructor
  · intro h
    obtain ⟨n, hpos, hn, rfl⟩ := h
    have hall : firstParts sep s (s.splitOn (String.singleton sep)).length = s := by
      rw [firstParts, List.take_length, intercalate_splitOn]
    obtain ⟨rest, hrest⟩ := firstParts_eq_append hpos hn (Nat.le_refl _)
    exact ⟨rest, hall.symm.trans hrest⟩
  · intro h
    obtain ⟨rest, rfl⟩ := h
    have hp := List.length_pos_iff.2 (splitOn_ne_nil sep p)
    have hrest := List.length_pos_iff.2 (splitOn_ne_nil sep rest)
    refine ⟨(p.splitOn (String.singleton sep)).length, hp, ?_, ?_⟩
    · rw [splitOn_append, List.length_append]
      omega
    · rw [firstParts, splitOn_append, List.take_left, intercalate_splitOn]

end FirstParts

end Pseudonym.Text
