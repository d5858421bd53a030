import Pseudonym.Files.Path
import Pseudonym.Number.Fixed

/-!
# Progress of a run

A run goes through phases and reports how far it is. The fraction that is done never falls.
-/

namespace Pseudonym.Project

open Files

/-- The phase of a run. -/
inductive Phase where
  | pending
  | validating
  | analyzing
  | renaming
  | writing
  | completed
  | failed
  | cancelled
deriving DecidableEq, Repr, Inhabited

/-- The word for a phase. -/
def Phase.word : Phase → String
  | .pending => "pending"
  | .validating => "validating"
  | .analyzing => "analyzing"
  | .renaming => "renaming"
  | .writing => "writing"
  | .completed => "completed"
  | .failed => "failed"
  | .cancelled => "cancelled"

/-- All phases. -/
def Phase.all : List Phase :=
  [.pending, .validating, .analyzing, .renaming, .writing, .completed, .failed, .cancelled]

/-- The phase that a word names. -/
def Phase.ofWord? (s : String) : Option Phase := all.find? (·.word = s)

/-- How serious a report is. -/
inductive Severity where
  | info
  | success
  | warning
  | error
deriving DecidableEq, Repr, Inhabited

/-- The word for a severity. -/
def Severity.word : Severity → String
  | .info => "info"
  | .success => "success"
  | .warning => "warning"
  | .error => "error"

/-- A report of progress. -/
structure Report where
  phase : Phase
  fraction : Float
  message : String
  file : Option Path := none
  severity : Severity := .info
deriving Repr, Inhabited

/-- The fraction of a report in percent. -/
def Report.percentage (r : Report) : Float := r.fraction * 100.0

/-- Whole seconds as minutes and seconds. -/
def clock (seconds : Nat) : String :=
  Number.padded 2 (seconds / 60) ++ ":" ++ Number.padded 2 (seconds % 60)

/-- The fraction after a step: it does not fall, and it does not pass one. -/
def advance (done next : Float) : Float :=
  let reached := if done < next then next else done
  if reached < 1.0 then reached else 1.0

/-- The fraction at which training is done. -/
def trainingEnd : Float := 0.15

/-- The fraction at which renaming is done. -/
def renamingEnd : Float := 0.90

/-- The fraction after reading some of the files. -/
def readingFraction (done total : Nat) : Float := 0.05 * done.toFloat / total.toFloat

/-- The fraction after renaming some of the symbols. -/
def renamingFraction (done total : Nat) : Float :=
  trainingEnd + (renamingEnd - trainingEnd) * done.toFloat / total.toFloat

/-- The fraction after writing some of the files. -/
def writingFraction (done total : Nat) : Float :=
  renamingEnd + (1.0 - renamingEnd) * done.toFloat / total.toFloat

end Pseudonym.Project
