import Mathlib.Data.List.Basic
import Mathlib.Logic.Relation
import Pseudonym.Graph.Reach

/-!
# What a breadth-first search reaches

`reach next unseen queue` lists, each once, exactly the nodes on a path of unseen nodes that starts
in the queue (`mem_reach`, `nodup_reach`). When the unseen nodes are closed under `next`, the search
is the reflexive-transitive closure of the edges (`mem_reach_of_closed`).

Both inclusions go by the recursion of the search. The step that takes a node `a` out of the unseen
ones must not lose the nodes behind it: a path that meets `a` goes on from `next a` after its last
visit (`chain_avoid`). A search may also be made in parts, one queue after the other
(`mem_reach_append`).
-/

namespace Pseudonym

open Relation

variable {α : Type}

/-- One step of the search: along an edge, to an unseen node. -/
def SearchStep (next : α → List α) (unseen : List α) (a b : α) : Prop :=
  b ∈ next a ∧ b ∈ unseen

/-- Fewer unseen nodes, fewer steps. -/
theorem SearchStep.mono {next : α → List α} {few many : List α} (h : few ⊆ many) {a b : α}
    (hab : SearchStep next few a b) : SearchStep next many a b :=
  ⟨hab.1, h hab.2⟩

variable [DecidableEq α]

/-- A path to `x ≠ a` either starts away from `a` and avoids it, or avoids it after a visit. -/
theorem chain_avoid {next : α → List α} {unseen : List α} {a x q : α} (hxa : x ≠ a)
    (h : ReflTransGen (SearchStep next unseen) q x) :
    (q ≠ a ∧ ReflTransGen (SearchStep next (unseen.erase a)) q x) ∨
      ∃ b ∈ next a, b ∈ unseen.erase a ∧
        ReflTransGen (SearchStep next (unseen.erase a)) b x := by
  induction h using ReflTransGen.head_induction_on with
  | refl => exact Or.inl ⟨hxa, .refl⟩
  | @head q r hqr _ ih =>
      rcases ih with ⟨hra, hr⟩ | hb
      · have hr' : r ∈ unseen.erase a := (List.mem_erase_of_ne hra).2 hqr.2
        by_cases hqa : q = a
        · exact Or.inr ⟨r, hqa ▸ hqr.1, hr', hr⟩
        · exact Or.inl ⟨hqa, .head ⟨hqr.1, hr'⟩ hr⟩
      · exact Or.inr hb

/-- The search finds exactly the nodes on a path of unseen nodes from the queue. -/
theorem mem_reach {next : α → List α} {unseen queue : List α} {x : α} :
    x ∈ reach next unseen queue ↔
      ∃ q ∈ queue, q ∈ unseen ∧ ReflTransGen (SearchStep next unseen) q x := by
  induction unseen, queue using reach_induct next with
  | nil unseen => simp [reach_nil]
  | taken unseen a rest ha ih =>
      have hsub : unseen.erase a ⊆ unseen := List.erase_subset
      rw [reach_cons, if_pos ha, List.mem_cons, ih]
      constructor
      · rintro (rfl | ⟨q, hq, hqu, hqx⟩)
        · exact ⟨x, List.mem_cons_self, ha, .refl⟩
        · have hqx' := ReflTransGen.mono (fun _ _ => SearchStep.mono hsub) _ _ hqx
          rcases List.mem_append.1 hq with hq | hq
          · exact ⟨q, List.mem_cons_of_mem _ hq, hsub hqu, hqx'⟩
          · exact ⟨a, List.mem_cons_self, ha, .head ⟨hq, hsub hqu⟩ hqx'⟩
      · rintro ⟨q, hq, hqu, hqx⟩
        by_cases hxa : x = a
        · exact Or.inl hxa
        refine Or.inr ?_
        rcases chain_avoid hxa hqx with ⟨hqa, h⟩ | ⟨b, hb, hbu, h⟩
        · have hq' : q ∈ rest := (List.mem_cons.1 hq).resolve_left hqa
          exact ⟨q, List.mem_append_left _ hq', (List.mem_erase_of_ne hqa).2 hqu, h⟩
        · exact ⟨b, List.mem_append_right _ hb, hbu, h⟩
  | dropped unseen a rest ha ih =>
      rw [reach_cons, if_neg ha, ih]
      constructor
      · rintro ⟨q, hq, h⟩
        exact ⟨q, List.mem_cons_of_mem _ hq, h⟩
      · rintro ⟨q, hq, hqu, h⟩
        rcases List.mem_cons.1 hq with rfl | hq
        · exact absurd hqu ha
        · exact ⟨q, hq, hqu, h⟩

/-- Only unseen nodes are found. -/
theorem reach_subset {next : α → List α} {unseen queue : List α} :
    reach next unseen queue ⊆ unseen := by
  intro x hx
  obtain ⟨q, -, hq, hqx⟩ := mem_reach.1 hx
  rcases ReflTransGen.cases_tail hqx with rfl | ⟨_, _, h⟩
  · exact hq
  · exact h.2

/-- No node is found twice. -/
theorem nodup_reach {next : α → List α} {unseen queue : List α} (h : unseen.Nodup) :
    (reach next unseen queue).Nodup := by
  induction unseen, queue using reach_induct next with
  | nil unseen => simp [reach_nil]
  | taken unseen a rest ha ih =>
      rw [reach_cons, if_pos ha]
      refine List.nodup_cons.2 ⟨fun hmem => ?_, ih (h.erase a)⟩
      exact h.not_mem_erase (reach_subset hmem)
  | dropped unseen a rest ha ih =>
      rw [reach_cons, if_neg ha]
      exact ih h

/-- A search that does not meet a node goes the same way without it. -/
theorem reach_erase {next : α → List α} {unseen queue : List α} {a : α}
    (h : a ∉ reach next unseen queue) :
    reach next (unseen.erase a) queue = reach next unseen queue := by
  induction unseen, queue using reach_induct next with
  | nil unseen => simp [reach_nil]
  | taken unseen b rest hb ih =>
      rw [reach_cons, if_pos hb, List.mem_cons, not_or] at h
      have hb' : b ∈ unseen.erase a := (List.mem_erase_of_ne (Ne.symm h.1)).2 hb
      rw [reach_cons, if_pos hb', reach_cons, if_pos hb, List.erase_comm, ih h.2]
  | dropped unseen b rest hb ih =>
      rw [reach_cons, if_neg hb] at h
      have hb' : b ∉ unseen.erase a := fun hmem => hb (List.erase_subset hmem)
      rw [reach_cons, if_neg hb', reach_cons, if_neg hb, ih h]

/-- A search from one queue and then from another one finds what a search from both finds: behind a
node of the first search there is nothing that it left unseen. -/
theorem mem_reach_append {next : α → List α} {unseen left qs rs : List α} {x : α}
    (hleft : ∀ y, y ∈ left ↔ y ∈ unseen ∧ y ∉ reach next unseen qs) :
    x ∈ reach next unseen (qs ++ rs) ↔ x ∈ reach next unseen qs ∨ x ∈ reach next left rs := by
  have hsub : left ⊆ unseen := fun y hy => ((hleft y).1 hy).1
  constructor
  · intro hx
    refine or_iff_not_imp_left.2 fun hout => ?_
    obtain ⟨q, hq, hqu, hqx⟩ := mem_reach.1 hx
    -- From a node of the first search, the path to `x` would have been followed.
    have hkeep : ∀ y ∈ unseen, ReflTransGen (SearchStep next unseen) y x → y ∈ left := by
      refine fun y hy hyx => (hleft y).2 ⟨hy, fun hmem => hout ?_⟩
      obtain ⟨r, hr, hru, hry⟩ := mem_reach.1 hmem
      exact mem_reach.2 ⟨r, hr, hru, hry.trans hyx⟩
    have hq' : q ∈ rs := (List.mem_append.1 hq).resolve_left fun hq =>
      hout (mem_reach.2 ⟨q, hq, hqu, hqx⟩)
    refine mem_reach.2 ⟨q, hq', hkeep q hqu hqx, ?_⟩
    clear hq hq' hqu
    induction hqx using ReflTransGen.head_induction_on with
    | refl => exact .refl
    | head hstep hrest ih => exact .head ⟨hstep.1, hkeep _ hstep.2 hrest⟩ ih
  · rintro (hx | hx)
    · obtain ⟨q, hq, hqx⟩ := mem_reach.1 hx
      exact mem_reach.2 ⟨q, List.mem_append_left _ hq, hqx⟩
    · obtain ⟨q, hq, hqu, hqx⟩ := mem_reach.1 hx
      exact mem_reach.2 ⟨q, List.mem_append_right _ hq, hsub hqu,
        ReflTransGen.mono (fun _ _ => SearchStep.mono hsub) _ _ hqx⟩

/-! ## Closed sets of nodes -/

/-- The edges of a search, without regard to what was seen. -/
def Edge (next : α → List α) (a b : α) : Prop := b ∈ next a

/-- Within a closed set of nodes the search follows every path. -/
theorem mem_reach_of_closed {next : α → List α} {unseen queue : List α} {x : α}
    (closed : ∀ a ∈ unseen, next a ⊆ unseen) :
    x ∈ reach next unseen queue ↔
      ∃ q ∈ queue, q ∈ unseen ∧ ReflTransGen (Edge next) q x := by
  rw [mem_reach]
  constructor
  · rintro ⟨q, hq, hqu, h⟩
    exact ⟨q, hq, hqu, ReflTransGen.mono (fun _ _ hab => hab.1) _ _ h⟩
  · rintro ⟨q, hq, hqu, h⟩
    refine ⟨q, hq, hqu, ?_⟩
    clear hq
    induction h using ReflTransGen.head_induction_on with
    | refl => exact .refl
    | head hab _ ih =>
        have hb := closed _ hqu hab
        exact .head ⟨hab, hb⟩ (ih hb)

end Pseudonym
