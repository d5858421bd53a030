import Mathlib.Data.List.Basic
import Pseudonym.Symbol.Marker

/-!
# Answers to marker look-ups

An answer is known by whether it is a hit and whether it blocks, and both are told of a combination
by its parts. So the look-ups for several declarations combine to one look-up in all their markers
(`MarkerSet.combine_map_lookup`); more markers and more entries never make a blocking answer a miss
(`MarkerSet.blocks_lookup_mono`, `MarkerSet.covers_foldl_insert`).
-/

namespace Pseudonym

/-! ## Answers -/

namespace Presence

variable {p q : Presence} {ps qs : List Presence}

@[simp] theorem absent_join : absent.join p = p := by cases p <;> rfl

@[simp] theorem join_absent : p.join absent = p := by cases p <;> rfl

theorem join_assoc (p q r : Presence) : (p.join q).join r = p.join (q.join r) := by
  cases p <;> cases q <;> cases r <;> rfl

theorem join_eq_present : p.join q = .present ↔ p = .present ∨ q = .present := by
  cases p <;> cases q <;> decide

theorem blocks_join : (p.join q).blocks ↔ p.blocks ∨ q.blocks := by
  cases p <;> cases q <;> decide

/-- An answer is known by whether it is a hit and whether it blocks. -/
theorem ext (hhit : p = .present ↔ q = .present) (hblocks : p.blocks ↔ q.blocks) : p = q := by
  cases p <;> cases q <;> revert hhit hblocks <;> decide

@[simp] theorem combine_nil : combine [] = .absent := rfl

theorem combine_cons : combine (p :: ps) = p.join (combine ps) := rfl

theorem combine_eq_present : combine ps = .present ↔ .present ∈ ps := by
  induction ps with
  | nil => simp
  | cons p ps ih => rw [combine_cons, join_eq_present, ih, List.mem_cons, eq_comm]

theorem blocks_combine : (combine ps).blocks ↔ ∃ p ∈ ps, p.blocks := by
  induction ps with
  | nil => simp [blocks]
  | cons p ps ih => rw [combine_cons, blocks_join, ih, List.exists_mem_cons_iff]

/-- Neither order nor repetition of answers matters. -/
theorem combine_congr (h : ∀ p, p ∈ ps ↔ p ∈ qs) : combine ps = combine qs :=
  ext (by rw [combine_eq_present, combine_eq_present, h]) (by simp only [blocks_combine, h])

theorem combine_append : combine (ps ++ qs) = (combine ps).join (combine qs) :=
  ext (by simp [combine_eq_present, join_eq_present])
    (by simp [blocks_combine, blocks_join, or_and_right, exists_or])

end Presence

/-! ## Marker sets -/

namespace MarkerSet

variable {s : MarkerSet} {ms : List (Option String)}

theorem lookup_eq_present : s.lookup ms = .present ↔ ∃ m, some m ∈ ms ∧ s.covers m := by
  have hany : (ms.any fun m => (m.map s.covers).getD false) ↔ ∃ m, some m ∈ ms ∧ s.covers m := by
    rw [List.any_eq_true]
    constructor
    · rintro ⟨_ | m, hm, hcovers⟩
      · cases hcovers
      · exact ⟨m, hm, hcovers⟩
    · rintro ⟨m, hm, hcovers⟩
      exact ⟨some m, hm, hcovers⟩
  rw [← hany, lookup]
  split_ifs with hhit <;> simp [hhit]

theorem blocks_lookup :
    (s.lookup ms).blocks ↔ none ∈ ms ∨ ∃ m, some m ∈ ms ∧ s.covers m := by
  rw [← lookup_eq_present]
  have hnone : ms.any Option.isNone ↔ none ∈ ms := by simp
  rw [← hnone, lookup]
  split_ifs with hhit hopen <;> simp [Presence.blocks, *]

/-- More markers looked up in a larger set. -/
theorem blocks_lookup_mono {s' : MarkerSet} {ms' : List (Option String)} (hms : ms ⊆ ms')
    (hcovers : ∀ m, s.covers m → s'.covers m) (h : (s.lookup ms).blocks) :
    (s'.lookup ms').blocks := by
  rw [blocks_lookup] at h ⊢
  rcases h with h | ⟨m, hm, h⟩
  · exact Or.inl (hms h)
  · exact Or.inr ⟨m, hms hm, hcovers m h⟩

/-- The answers for several declarations combine to the answer for all their markers. -/
theorem combine_map_lookup {β : Type} (xs : List β) (markers : β → List (Option String)) :
    Presence.combine (xs.map fun x => s.lookup (markers x)) = s.lookup (xs.flatMap markers) := by
  apply Presence.ext
  · rw [Presence.combine_eq_present, lookup_eq_present, List.mem_map]
    simp only [lookup_eq_present, List.mem_flatMap]
    constructor
    · rintro ⟨x, hx, m, hm, hcovers⟩
      exact ⟨m, ⟨x, hx, hm⟩, hcovers⟩
    · rintro ⟨m, ⟨x, hx, hm⟩, hcovers⟩
      exact ⟨x, hx, m, hm, hcovers⟩
  · rw [Presence.blocks_combine, blocks_lookup]
    simp only [List.mem_flatMap]
    constructor
    · rintro ⟨p, hp, hblocks⟩
      obtain ⟨x, hx, rfl⟩ := List.mem_map.1 hp
      rcases blocks_lookup.1 hblocks with hm | ⟨m, hm, hcovers⟩
      · exact Or.inl ⟨x, hx, hm⟩
      · exact Or.inr ⟨m, ⟨x, hx, hm⟩, hcovers⟩
    · rintro (⟨x, hx, hm⟩ | ⟨m, ⟨x, hx, hm⟩, hcovers⟩)
      · exact ⟨_, List.mem_map_of_mem hx, blocks_lookup.2 (Or.inl hm)⟩
      · exact ⟨_, List.mem_map_of_mem hx, blocks_lookup.2 (Or.inr ⟨m, hm, hcovers⟩)⟩

theorem subset_insertOnce {item : String} {items : List String} :
    items ⊆ insertOnce item items := by
  unfold insertOnce
  split
  · exact fun _ h => h
  · exact List.subset_append_left _ _

theorem subset_insert (entry : String) :
    s.names ⊆ (s.insert entry).names ∧ s.packages ⊆ (s.insert entry).packages := by
  unfold insert
  dsimp only
  generalize Text.trim entry = entry
  by_cases hblank : entry = ""
  · rw [if_pos hblank]
    exact ⟨fun _ h => h, fun _ h => h⟩
  · rw [if_neg hblank]
    cases package? entry with
    | some p => exact ⟨fun _ h => h, subset_insertOnce⟩
    | none => exact ⟨subset_insertOnce, fun _ h => h⟩

/-- A set covers with more entries what it covered before. -/
theorem covers_insert {marker : String} (entry : String) (h : s.covers marker) :
    (s.insert entry).covers marker := by
  have hsub := subset_insert (s := s) entry
  generalize s.insert entry = t at hsub ⊢
  obtain ⟨hnames, hpackages⟩ := hsub
  simp only [covers, Bool.or_eq_true, List.any_eq_true, List.contains_iff_mem] at h ⊢
  rcases h with h | ⟨p, hp, h⟩
  · exact Or.inl (hnames h)
  · exact Or.inr ⟨p, hp, hpackages h⟩

theorem covers_foldl_insert {marker : String} (entries : List String) (h : s.covers marker) :
    (entries.foldl insert s).covers marker := by
  induction entries generalizing s with
  | nil => exact h
  | cons entry entries ih =>
      rw [List.foldl_cons]
      exact ih (covers_insert entry h)

end MarkerSet

end Pseudonym
