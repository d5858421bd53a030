import Pseudonym.Name.Style
import Pseudonym.Proofs.Name.Respelling
import Pseudonym.Proofs.Text.Case

/-!
# The ends of a spelling

Words that are free of underscores are spelled, in any style, as a name that neither begins nor ends
with an underscore (`flanked_spell`). The parts of a spelling are words again, and all changes of
case keep them words. Types and camel case join them directly, so no underscore comes in; the other
styles put underscores between two words only (`flanked_intercalate`).
-/

namespace Pseudonym.Name

open Text

/-! ## Words that are joined -/

theorem bare_join {ws : List String} (h : ∀ w ∈ ws, Solid w.toList) :
    '_' ∉ (String.join ws).toList := by
  rw [toList_join]
  intro hmem
  obtain ⟨w, hw, hmem⟩ := List.mem_flatMap.1 hmem
  exact (h w hw).bare hmem

theorem intercalate_ne_nil {w : String} (hw : w.toList ≠ []) (ws : List String) :
    ("_".intercalate (w :: ws)).toList ≠ [] := by
  cases ws with
  | nil => simpa using hw
  | cons v ws => simp [hw]

/-- Underscores between words are not at the ends: the first word is in front of them and the last
one behind them. -/
theorem flanked_intercalate : ∀ {ws : List String}, (∀ w ∈ ws, Solid w.toList) →
    Flanked ("_".intercalate ws).toList
  | [], _ => by
      rw [String.intercalate_nil]
      exact .of_bare (by simp)
  | [w], h => by
      rw [String.intercalate_singleton]
      exact .of_bare (h w List.mem_cons_self).bare
  | w :: v :: ws, h => by
      obtain ⟨hw, hrest⟩ := List.forall_mem_cons.1 h
      have hlast := (flanked_intercalate hrest).last
      have hne := intercalate_ne_nil (hrest v List.mem_cons_self).ne_nil ws
      rw [String.intercalate_cons_cons, String.toList_append, String.toList_append]
      constructor
      · rw [List.append_assoc, List.head?_append_of_ne_nil _ hw.ne_nil]
        exact (Flanked.of_bare hw.bare).head
      · rw [List.getLast?_append_of_ne_nil _ hne]
        exact hlast

/-! ## Spellings -/

theorem mem_trimWhile {p : Char → Bool} {s : String} {c : Char} (hc : c ∈ s.toList) (hp : ¬ p c) :
    c ∈ (trimWhile p s).toList := by
  have hdrop : ∀ {cs : List Char}, c ∈ cs → c ∈ cs.dropWhile p := by
    intro cs hcs
    rw [← List.takeWhile_append_dropWhile (p := p) (l := cs), List.mem_append] at hcs
    exact hcs.resolve_left fun htake => hp (List.all_eq_true.1 List.all_takeWhile c htake)
  simp only [trimWhile, trimRightWhile, trimLeftWhile, String.toList_ofList, List.mem_reverse]
  exact hdrop (List.mem_reverse.2 (hdrop hc))

section Spelling

variable {tokens : List String} (htokens : ∀ token ∈ tokens, '_' ∉ token.toList)
include htokens

/-- The parts of a spelling are words. -/
theorem solid_of_mem_parts : ∀ p ∈ parts tokens, Solid p.toList := by
  intro p hp
  obtain ⟨token, htoken, rfl⟩ := List.mem_map.1 hp
  obtain ⟨hmem, hblank⟩ := List.mem_filter.1 htoken
  constructor
  · -- Some character of the token is not blank, and it stays.
    simp only [isBlankText, Bool.not_eq_true', List.all_eq_false] at hblank
    obtain ⟨c, hc, hblank⟩ := hblank
    exact List.ne_nil_of_mem (mem_trimWhile hc hblank)
  · exact fun h => htokens token hmem (mem_of_mem_trimWhile h)

theorem bare_typeName : '_' ∉ (typeName tokens).toList := by
  refine bare_join fun w hw => ?_
  obtain ⟨p, hp, rfl⟩ := List.mem_map.1 hw
  exact (solid_of_mem_parts htokens p hp).lower.capitalize

theorem bare_camelName : '_' ∉ (camelName tokens).toList := by
  have hname := bare_typeName htokens
  unfold camelName
  split
  · simp
  · next c rest hchars =>
      rw [hchars, List.mem_cons, not_or] at hname
      have hfirst : Solid (lower c.toString).toList :=
        Solid.lower (by simpa using solid_singleton (Ne.symm hname.1))
      rw [String.toList_append, String.toList_ofList]
      exact (hfirst.append hname.2).bare

/-- **A spelling has no underscores at its ends.** -/
theorem flanked_spell (convention : Convention) (kind : SymbolKind) (constant : Bool) :
    Flanked (spell convention kind constant tokens).toList := by
  have hjoined {f : String → String} (hf : ∀ {w}, Solid w.toList → Solid (f w).toList) :
      Flanked ("_".intercalate ((parts tokens).map f)).toList := by
    refine flanked_intercalate fun w hw => ?_
    obtain ⟨p, hp, rfl⟩ := List.mem_map.1 hw
    exact hf (solid_of_mem_parts htokens p hp)
  unfold spell
  split
  · exact .of_bare (bare_typeName htokens)
  · split
    · exact hjoined Solid.upper
    · cases convention with
      | snake => exact hjoined Solid.lower
      | camel => exact .of_bare (bare_camelName htokens)

end Spelling

end Pseudonym.Name
