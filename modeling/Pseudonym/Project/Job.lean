import Pseudonym.Extraction.Library
import Pseudonym.Files.Platform
import Pseudonym.Project.Progress
import Pseudonym.Project.Reading
import Pseudonym.Project.Validation
import Pseudonym.Renaming.Rendering
import Pseudonym.Renaming.Workflow

/-!
# Jobs

A job is a run under way: the disk as it is now, what was reported, and what there is to say about
the run so far. What happens outside of it, a request to stop or the failure of a step, is given in
advance.
-/

namespace Pseudonym.Project

open Files

/-! ## Circumstances -/

/-- A step of a run that may fail for reasons of its own. -/
inductive Step where
  | read (path : Path)
  | render (path : Path)
  | rename (symbol : Symbol)
  | inline (symbol : Symbol)

/-- Where a run looks whether it is to stop: before it takes up a file that was read, before it adds a
module, and before it renames a symbol. -/
inductive Checkpoint where
  | read (path : Path)
  | add (path : Path)
  | rename (symbol : SymbolId)
deriving DecidableEq, Repr

/-- What happens to a run from outside. Reports go to a callback that only looks at them. -/
structure Circumstances where
  /-- Whether the user has asked to stop, by the reports seen so far. -/
  stopped : List Report → Bool := fun _ => false
  /-- Whether the user has asked to stop by the time the run comes to a checkpoint, whatever was
  reported: not every module and not every symbol makes a report. -/
  stoppedAt : Checkpoint → Bool := fun _ => false
  /-- The text with which a step fails. -/
  fault? : Step → Option String := fun _ => none
  /-- The folder from which relative paths start. -/
  here : Path := ⟨"/", []⟩
  /-- The folder that a tilde stands for. -/
  home : Path := ⟨"/", ["root"]⟩
  /-- What is seen of objects outside the program. -/
  introspection : Library.Introspection := Library.listed
  /-- The seed of a run whose settings give none. -/
  entropy : Int := 0

/-- Whether a run stops at a checkpoint, after some reports. -/
def Circumstances.stops (c : Circumstances) (reports : List Report) (place : Checkpoint) : Bool :=
  c.stopped reports || c.stoppedAt place

/-! ## Results -/

/-- What became of a file. -/
structure FileResult where
  path : Path
  /-- Where it was written, if it was. -/
  output : Option Path := none
  errors : List String := []
deriving DecidableEq, Repr, Inhabited

/-- Whether a file went through. -/
def FileResult.success (r : FileResult) : Bool := r.errors.isEmpty

/-- Counts at the end of a run. -/
structure Totals where
  root : Path
  scope : OperationScope
  inScope : Nat
  written : Nat
  failed : Nat
deriving DecidableEq, Repr, Inhabited

/-- What there is to say about a run besides its results; parts that were not reached are absent. -/
structure Summary where
  filesFound : Option Nat := none
  inlinedConstants : Option Nat := none
  deletedComments : Option Nat := none
  statistics : Option Statistics := none
  filter : Option Filter := none
  filesCopied : Option Nat := none
  totals : Option Totals := none
  cancelled : Option Bool := none
deriving Repr, Inhabited

/-- A run under way. -/
structure Job where
  disk : Disk
  phase : Phase := .pending
  fraction : Float := 0.0
  reports : List Report := []
  errors : List String := []
  warnings : List String := []
  files : List FileResult := []
  outcomes : List Outcome := []
  program : Program := {}
  summary : Summary := {}
deriving Inhabited

namespace Job

/-- Whether nothing went wrong with the run as a whole. -/
def success (j : Job) : Bool := j.errors.isEmpty

/-- Enters a phase. -/
def enter (j : Job) (phase : Phase) : Job := { j with phase }

/-- Makes a report. -/
def report (j : Job) (fraction : Float) (message : String) (file : Option Path := none)
    (severity : Severity := .info) : Job :=
  let fraction := advance j.fraction fraction
  { j with fraction, reports := j.reports ++ [⟨j.phase, fraction, message, file, severity⟩] }

/-- Adds an error of the run. -/
def fail (j : Job) (text : String) : Job := { j with errors := j.errors ++ [text] }

/-- Adds a warning. -/
def warn (j : Job) (text : String) : Job := { j with warnings := j.warnings ++ [text] }

/-- Adds the result of a file. -/
def addFile (j : Job) (r : FileResult) : Job := { j with files := j.files ++ [r] }

/-- Changes the summary. -/
def note (j : Job) (f : Summary → Summary) : Job := { j with summary := f j.summary }

/-- The new name of each renamed symbol by its qualified name: the first place, the last value. -/
def renamed (j : Job) : List (String × String) :=
  (j.outcomes.filterMap fun o =>
    match o.state, o.newName, j.program.graph.symbol? o.symbol with
    | .committed, some name, some s => some (s.qualname, name)
    | _, _, _ => none).foldl (fun done (k, v) => assign k v done) []
where
  /-- Gives a key a value; a key that is there keeps its place. -/
  assign (key value : String) : List (String × String) → List (String × String)
    | [] => [(key, value)]
    | (k, v) :: rest => if k = key then (k, value) :: rest else (k, v) :: assign key value rest

end Job

end Pseudonym.Project
