import Pseudonym.Proofs.Text.Identifier

/-!
# Case and underscores

A change of case leaves no character out and brings no underscore in: the form of a character other
than the underscore is a text of such characters, and it is not empty (`lowerChar_solid`,
`upperChar_solid`, `titleChar_solid`). So a word that is free of underscores stays one in lower
case, in upper case and capitalised. Below 128 this is a finite check; for all other characters it is
a property of the tables.
-/

namespace Pseudonym.Text

/-- Characters of a word: there are some, and none is an underscore. -/
structure Solid (cs : List Char) : Prop where
  ne_nil : cs ≠ []
  bare : '_' ∉ cs

theorem Solid.append {cs ds : List Char} (hcs : Solid cs) (hds : '_' ∉ ds) : Solid (cs ++ ds) where
  ne_nil := List.append_ne_nil_of_left_ne_nil hcs.ne_nil ds
  bare := by
    rw [List.mem_append]
    exact fun h => h.elim hcs.bare hds

theorem Solid.exists_cons {cs : List Char} (h : Solid cs) :
    ∃ c rest, cs = c :: rest ∧ c ≠ '_' ∧ '_' ∉ rest := by
  obtain ⟨c, rest, rfl⟩ := List.exists_cons_of_ne_nil h.ne_nil
  have hbare := h.bare
  rw [List.mem_cons, not_or] at hbare
  exact ⟨c, rest, rfl, Ne.symm hbare.1, hbare.2⟩

theorem solid_singleton {c : Char} (hc : c ≠ '_') : Solid [c] :=
  ⟨List.cons_ne_nil _ _, by simpa using hc.symm⟩

/-! ## Single characters -/

/-- Whether the form of a character in a table is a word. -/
def solidImage (_ : Nat) (image : List Char) : Bool := !image.isEmpty && !image.contains '_'

/-- The case mappings lead to words. -/
theorem tables_solid :
    lowerMap.entries.all solidImage && upperMap.entries.all solidImage &&
      titleMap.entries.all solidImage := by
  decide +kernel

theorem ascii_ne_underscore {c : Char} (hsmall : c.toNat < 128) (hc : c ≠ '_') :
    c.toLower ≠ '_' ∧ c.toUpper ≠ '_' := by
  have hall : ∀ n ∈ List.range 128, Char.ofNat n ≠ '_' →
      (Char.ofNat n).toLower ≠ '_' ∧ (Char.ofNat n).toUpper ≠ '_' := by
    decide +kernel
  have hchar := hall c.toNat (List.mem_range.2 hsmall)
  rw [Char.ofNat_toNat] at hchar
  exact hchar hc

/-- What a table gives for a character is a word, and so is the character itself. -/
theorem getD_solid {t : CodeMap (List Char)} (ht : t.entries.all solidImage) {n : Nat}
    {other : List Char} (hother : Solid other) : Solid ((t.get? n).getD other) := by
  cases hget : t.get? n with
  | none => exact hother
  | some image =>
      have himage := CodeMap.all_get? ht hget
      simp only [solidImage, Bool.and_eq_true, Bool.not_eq_true', List.contains_eq_mem,
        decide_eq_false_iff_not, List.isEmpty_eq_false_iff] at himage
      exact ⟨himage.1, himage.2⟩

section Character

variable {c : Char} (hc : c ≠ '_')
include hc

theorem lowerChar_solid (before after : List Char) : Solid (lowerChar before c after) := by
  have htables := tables_solid
  simp only [Bool.and_eq_true] at htables
  unfold lowerChar
  split
  · next hsmall => exact solid_singleton (ascii_ne_underscore hsmall hc).1
  · split
    · split
      · exact solid_singleton (by decide)
      · exact solid_singleton (by decide)
    · exact getD_solid htables.1.1 (solid_singleton hc)

theorem upperChar_solid : Solid (upperChar c) := by
  have htables := tables_solid
  simp only [Bool.and_eq_true] at htables
  unfold upperChar
  split
  · next hsmall => exact solid_singleton (ascii_ne_underscore hsmall hc).2
  · exact getD_solid htables.1.2 (solid_singleton hc)

theorem titleChar_solid : Solid (titleChar c) := by
  have htables := tables_solid
  simp only [Bool.and_eq_true] at htables
  unfold titleChar
  split
  · next hsmall => exact solid_singleton (ascii_ne_underscore hsmall hc).2
  · exact getD_solid htables.2 (upperChar_solid hc)

end Character

theorem lowerChar_ne_nil (before : List Char) (c : Char) (after : List Char) :
    lowerChar before c after ≠ [] := by
  by_cases hc : c = '_'
  · rw [hc]
    exact List.cons_ne_nil _ _
  · exact (lowerChar_solid hc before after).ne_nil

/-! ## Texts -/

theorem lower_ne_empty {s : String} (h : s.toList ≠ []) : lower s ≠ "" := by
  obtain ⟨c, rest, hs⟩ := List.exists_cons_of_ne_nil h
  intro hlower
  have hchars : lowerAfter [] s.toList = [] := by
    simpa [lower] using congrArg String.toList hlower
  rw [hs, lowerAfter] at hchars
  exact lowerChar_ne_nil _ _ _ (List.append_eq_nil_iff.1 hchars).1

theorem lowerAfter_bare {cs : List Char} (h : '_' ∉ cs) (before : List Char) :
    '_' ∉ lowerAfter before cs := by
  induction cs generalizing before with
  | nil => simp [lowerAfter]
  | cons c cs ih =>
      rw [List.mem_cons, not_or] at h
      rw [lowerAfter, List.mem_append, not_or]
      exact ⟨(lowerChar_solid (Ne.symm h.1) before cs).bare, ih h.2 _⟩

namespace Solid

variable {cs : List Char} {s : String}

theorem lowerAfter (h : Solid cs) (before : List Char) : Solid (lowerAfter before cs) := by
  obtain ⟨c, rest, rfl, hc, hrest⟩ := h.exists_cons
  rw [Text.lowerAfter]
  exact (lowerChar_solid hc before rest).append (lowerAfter_bare hrest _)

theorem lower (h : Solid s.toList) : Solid (lower s).toList := by
  rw [Text.lower, String.toList_ofList]
  exact h.lowerAfter []

theorem upper (h : Solid s.toList) : Solid (upper s).toList := by
  obtain ⟨c, rest, hs, hc, hrest⟩ := h.exists_cons
  rw [Text.upper, String.toList_ofList, hs, List.flatMap_cons]
  refine (upperChar_solid hc).append fun hmem => ?_
  obtain ⟨d, hd, hmem⟩ := List.mem_flatMap.1 hmem
  exact (upperChar_solid fun h => hrest (h ▸ hd)).bare hmem

theorem capitalize (h : Solid s.toList) : Solid (capitalize s).toList := by
  obtain ⟨c, rest, hs, hc, hrest⟩ := h.exists_cons
  simp only [Text.capitalize, hs, String.toList_ofList]
  exact (titleChar_solid hc).append (lowerAfter_bare hrest _)

end Solid

end Pseudonym.Text
