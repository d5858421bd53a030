/-!
# Reachable nodes

Breadth-first search over a finite set of nodes. The nodes not met yet are an argument, and every
round takes one of them, so their count bounds the rounds. The laws of the search are its two
equations (`reach_nil`, `reach_cons`) and the induction along them (`reach_induct`).
-/

namespace Pseudonym

variable {α : Type} [DecidableEq α]

/-- At most `rounds` rounds of a search: each drops the head of the queue up to the first unseen
node and takes that one. -/
def reachWithin (next : α → List α) : (rounds : Nat) → (unseen queue : List α) → List α
  | 0, _, _ => []
  | rounds + 1, unseen, queue =>
    match queue.dropWhile (· ∉ unseen) with
    | [] => []
    | a :: rest => a :: reachWithin next rounds (unseen.erase a) (rest ++ next a)

/-- The nodes reached from a queue, in breadth-first order and each once. Only nodes in `unseen` are
met. -/
def reach (next : α → List α) (unseen queue : List α) : List α :=
  reachWithin next unseen.length unseen queue

theorem reach_nil (next : α → List α) (unseen : List α) : reach next unseen [] = [] := by
  unfold reach
  cases unseen.length <;> rfl

theorem reach_cons (next : α → List α) (unseen : List α) (a : α) (rest : List α) :
    reach next unseen (a :: rest) =
      if a ∈ unseen then a :: reach next (unseen.erase a) (rest ++ next a)
      else reach next unseen rest := by
  unfold reach
  by_cases h : a ∈ unseen
  · rw [if_pos h, List.length_erase_of_mem h]
    obtain ⟨n, hn⟩ : ∃ n, unseen.length = n + 1 :=
      ⟨unseen.length - 1, by have := List.length_pos_of_mem h; omega⟩
    rw [hn, reachWithin, List.dropWhile_cons_of_neg (by simpa using h)]
    rfl
  · rw [if_neg h]
    cases unseen.length with
    | zero => rfl
    | succ n => rw [reachWithin, reachWithin, List.dropWhile_cons_of_pos (by simpa using h)]

/-- Induction along a search: a node of the queue is either taken or dropped. -/
theorem reach_induct (next : α → List α) {motive : List α → List α → Prop}
    (nil : ∀ unseen, motive unseen [])
    (taken : ∀ unseen a rest, a ∈ unseen → motive (unseen.erase a) (rest ++ next a) →
      motive unseen (a :: rest))
    (dropped : ∀ unseen a rest, a ∉ unseen → motive unseen rest → motive unseen (a :: rest))
    (unseen : List α) : ∀ queue, motive unseen queue
  | [] => nil unseen
  | a :: rest => by
      by_cases h : a ∈ unseen
      · have := List.length_erase_of_mem h
        have := List.length_pos_of_mem h
        exact taken unseen a rest h (reach_induct next nil taken dropped (unseen.erase a) _)
      · exact dropped unseen a rest h (reach_induct next nil taken dropped unseen rest)
termination_by queue => (unseen.length, queue.length)

end Pseudonym
