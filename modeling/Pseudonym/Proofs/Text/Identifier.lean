import Mathlib.Data.List.Basic
import Pseudonym.Text.Word

/-!
# Identifiers and case

Lower and upper case lead from characters of identifiers to characters of identifiers
(`lowerChar_continue`, `upperChar_continue`). Below 128 and for the sigma this is seen at once; for
the other characters it is a property of the tables, which is checked entry by entry. A search in a
table finds an entry of it (`CodeTree.all_lastUpTo`), so what holds of all entries holds of what is
found.
-/

namespace Pseudonym.Text

/-! ## Properties of all entries of a table -/

namespace CodeTree

variable {α : Type}

/-- Whether all entries of a tree have a property. -/
def all (p : Nat → α → Bool) : CodeTree α → Bool
  | leaf => true
  | node left key value right => left.all p && p key value && right.all p

theorem all_lastUpTo {p : Nat → α → Bool} {n : Nat} : ∀ {t : CodeTree α}, t.all p →
    ∀ {best : Option (Nat × α)}, (∀ e, best = some e → p e.1 e.2) →
      ∀ e, t.lastUpTo n best = some e → p e.1 e.2
  | leaf, _, _, hbest, e, he => hbest e he
  | node left key value right, hall, best, hbest, e, he => by
      rw [all, Bool.and_eq_true, Bool.and_eq_true] at hall
      obtain ⟨⟨hleft, hroot⟩, hright⟩ := hall
      -- The search goes left with the best entry so far, or right with the root as the best.
      unfold lastUpTo at he
      cases hlt : n.blt key with
      | true =>
          rw [hlt, cond_true] at he
          exact all_lastUpTo hleft hbest e he
      | false =>
          rw [hlt, cond_false] at he
          refine all_lastUpTo hright (fun e' he' => ?_) e he
          obtain rfl := Option.some.inj he'
          exact hroot

end CodeTree

theorem CodeMap.all_get? {α : Type} {t : CodeMap α} {p : Nat → α → Bool} (hall : t.entries.all p)
    {n : Nat} {a : α} (h : t.get? n = some a) : p n a := by
  unfold CodeMap.get? at h
  split at h
  · next key value hfound =>
      split at h
      · next hkey =>
          obtain rfl := Option.some.inj h
          exact hkey ▸ CodeTree.all_lastUpTo hall (by simp) _ hfound
      · cases h
  · cases h

/-! ## Characters of identifiers -/

/-- Whether a character that may start an identifier may continue it, and whether one that may
continue it still may in lower and in upper case. -/
def steady (c : Char) : Bool :=
  (!isIdentifierStart c || isIdentifierContinue c) &&
    (!isIdentifierContinue c || (isIdentifierContinue c.toLower && isIdentifierContinue c.toUpper))

theorem steady_of_ascii {c : Char} (hc : c.toNat < 128) : steady c := by
  have hall : (List.range 128).all fun n => steady (Char.ofNat n) := by decide +kernel
  simpa using List.all_eq_true.1 hall c.toNat (List.mem_range.2 hc)

/-- Whether a mapping leads from characters of identifiers to such characters. -/
def keepsIdentifiers (key : Nat) (image : List Char) : Bool :=
  image.all isIdentifierContinue || !isIdentifierContinue (Char.ofNat key)

/-- The case mappings keep identifiers, and the characters that the tables do not decide may stand
in one. -/
theorem tables_keepIdentifiers :
    lowerMap.entries.all keepsIdentifiers && upperMap.entries.all keepsIdentifiers &&
      ['ς', 'σ'].all isIdentifierContinue &&
      extraStarts.all (fun n => isIdentifierContinue (Char.ofNat n)) := by
  decide +kernel

/-- What may start an identifier may also continue it. -/
theorem isIdentifierContinue_of_start {c : Char} (h : isIdentifierStart c) :
    isIdentifierContinue c := by
  by_cases hc : c.toNat < 128
  · have hascii := steady_of_ascii hc
    simp only [steady, h, Bool.not_true, Bool.false_or, Bool.and_eq_true] at hascii
    exact hascii.1
  · -- The categories of starts are among those that continue, and fewer characters are excluded.
    have hsubset : excludedContinues ⊆ excludedStarts := by decide
    have hkept : ∀ {n}, (!excludedStarts.contains n) → (!excludedContinues.contains n) := by
      intro n hn
      simp only [Bool.not_eq_true', List.contains_eq_mem, decide_eq_false_iff_not] at hn ⊢
      exact fun hmem => hn (hsubset hmem)
    rw [isIdentifierStart, if_neg hc] at h
    split at h
    case h_7 =>
      have hextra := (Bool.and_eq_true _ _ ▸ tables_keepIdentifiers).2
      simpa using List.all_eq_true.1 hextra c.toNat (List.contains_iff_mem.1 h)
    all_goals
      next hcategory =>
        rw [isIdentifierContinue, if_neg hc, hcategory]
        exact hkept h

/-! ## Case -/

theorem lowerMap_keepsIdentifiers : lowerMap.entries.all keepsIdentifiers := by
  have htables := tables_keepIdentifiers
  simp only [Bool.and_eq_true] at htables
  exact htables.1.1.1

theorem upperMap_keepsIdentifiers : upperMap.entries.all keepsIdentifiers := by
  have htables := tables_keepIdentifiers
  simp only [Bool.and_eq_true] at htables
  exact htables.1.1.2

/-- A map with this property keeps identifiers, where it has an entry and where it has none. -/
theorem continue_of_keeps {t : CodeMap (List Char)} (ht : t.entries.all keepsIdentifiers) {c : Char}
    (hc : isIdentifierContinue c) {d : Char} (hd : d ∈ (t.get? c.toNat).getD [c]) :
    isIdentifierContinue d := by
  cases hget : t.get? c.toNat with
  | none =>
      rw [hget, Option.getD_none, List.mem_singleton] at hd
      exact hd ▸ hc
  | some image =>
      rw [hget, Option.getD_some] at hd
      have hkeeps := CodeMap.all_get? ht hget
      rw [keepsIdentifiers, Char.ofNat_toNat, hc, Bool.not_true, Bool.or_false] at hkeeps
      exact List.all_eq_true.1 hkeeps d hd

theorem lowerChar_continue {before after : List Char} {c : Char} (hc : isIdentifierContinue c)
    {d : Char} (hd : d ∈ lowerChar before c after) : isIdentifierContinue d := by
  unfold lowerChar at hd
  split at hd
  · next hsmall =>
      have hascii := steady_of_ascii hsmall
      simp only [steady, hc, Bool.not_true, Bool.false_or, Bool.and_eq_true] at hascii
      rw [List.mem_singleton] at hd
      exact hd ▸ hascii.2.1
  · split at hd
    · have htables := tables_keepIdentifiers
      simp only [Bool.and_eq_true] at htables
      refine List.all_eq_true.1 htables.1.2 d ?_
      split at hd
      · simpa using Or.inl (List.mem_singleton.1 hd)
      · simpa using Or.inr (List.mem_singleton.1 hd)
    · exact continue_of_keeps lowerMap_keepsIdentifiers hc hd

theorem upperChar_continue {c : Char} (hc : isIdentifierContinue c) {d : Char}
    (hd : d ∈ upperChar c) : isIdentifierContinue d := by
  unfold upperChar at hd
  split at hd
  · next hsmall =>
      have hascii := steady_of_ascii hsmall
      simp only [steady, hc, Bool.not_true, Bool.false_or, Bool.and_eq_true] at hascii
      rw [List.mem_singleton] at hd
      exact hd ▸ hascii.2.2
  · exact continue_of_keeps upperMap_keepsIdentifiers hc hd

/-! ## Texts -/

/-- A text that can stand inside an identifier. -/
def Continues (s : String) : Prop := ∀ c ∈ s.toList, isIdentifierContinue c

theorem lowerAfter_continue : ∀ {cs before : List Char}, (∀ c ∈ cs, isIdentifierContinue c) →
    ∀ d ∈ lowerAfter before cs, isIdentifierContinue d
  | [], _, _, _, hd => by cases hd
  | c :: cs, before, hcs, d, hd => by
      rw [lowerAfter, List.mem_append] at hd
      rcases hd with hd | hd
      · exact lowerChar_continue (hcs c List.mem_cons_self) hd
      · exact lowerAfter_continue (fun e he => hcs e (List.mem_cons_of_mem _ he)) d hd

theorem Continues.lower {s : String} (h : Continues s) : Continues (lower s) := by
  intro d hd
  rw [Text.lower, String.toList_ofList] at hd
  exact lowerAfter_continue h d hd

theorem continues_of_isIdentifier {s : String} (h : isIdentifier s) : Continues s := by
  intro c hc
  unfold isIdentifier at h
  split at h
  · cases h
  · next first rest hs =>
      rw [hs, List.mem_cons] at hc
      rw [Bool.and_eq_true] at h
      rcases hc with rfl | hc
      · exact isIdentifierContinue_of_start h.1
      · exact List.all_eq_true.1 h.2 c hc

/-- An identifier is a text of identifier characters with a start that may start one. -/
theorem isIdentifier_iff {s : String} :
    isIdentifier s ↔ Continues s ∧ s.toList.head?.any isIdentifierStart := by
  constructor
  · intro h
    refine ⟨continues_of_isIdentifier h, ?_⟩
    unfold isIdentifier at h
    split at h
    · cases h
    · next first rest hs =>
        rw [hs]
        exact (Bool.and_eq_true _ _ ▸ h).1
  · rintro ⟨hall, hstart⟩
    unfold isIdentifier
    split
    · next hs =>
        rw [hs] at hstart
        cases hstart
    · next first rest hs =>
        rw [hs] at hstart
        rw [Bool.and_eq_true]
        refine ⟨hstart, List.all_eq_true.2 fun c hc => hall c ?_⟩
        rw [hs]
        exact List.mem_cons_of_mem _ hc

namespace Continues

theorem append {s t : String} (hs : Continues s) (ht : Continues t) : Continues (s ++ t) := by
  intro c hc
  rw [String.toList_append, List.mem_append] at hc
  exact hc.elim (hs c) (ht c)

theorem join : ∀ {l : List String}, (∀ s ∈ l, Continues s) → Continues (String.join l)
  | [], _ => by simp [Continues]
  | s :: l, h => by
      rw [String.join_cons]
      exact (h s List.mem_cons_self).append (join fun t ht => h t (List.mem_cons_of_mem _ ht))

theorem intercalate {separator : String} (hsep : Continues separator) : ∀ {l : List String},
    (∀ s ∈ l, Continues s) → Continues (separator.intercalate l)
  | [], _ => by simp [Continues]
  | [s], h => by
      rw [String.intercalate_singleton]
      exact h s List.mem_cons_self
  | s :: t :: l, h => by
      rw [String.intercalate_cons_cons]
      exact ((h s List.mem_cons_self).append hsep).append
        (intercalate hsep fun u hu => h u (List.mem_cons_of_mem _ hu))

end Continues

end Pseudonym.Text
