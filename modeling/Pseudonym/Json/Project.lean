import Pseudonym.Json.Renaming
import Pseudonym.Project.Job

/-!
# Runs as data values

Findings, results of files and the summary of a run, as they are handed to other programs.
-/

namespace Pseudonym.Project

/-- What a validation found. -/
def Findings.toJson (f : Findings) : Json := .object
  [("success", .bool f.errors.isEmpty), ("errors", .ofTexts f.errors),
   ("warnings", .ofTexts f.warnings)]

/-- The result of a file. -/
def FileResult.toJson (f : FileResult) : Json :=
  .array [.ofPath f.path, .ofOption .ofPath f.output, .bool f.success, .ofTexts f.errors]

/-- A field that is there if its value is. -/
def fieldOf (key : String) (value : Option Json) : List (String × Json) :=
  match value with
  | some v => [(key, v)]
  | none => []

/-- The counts at the end of a run. -/
def Totals.fields (t : Totals) : List (String × Json) :=
  [("project_root", .ofPath t.root), ("operation_scope", .string t.scope.word),
   ("files_in_scope", .nat t.inScope), ("files_written", .nat t.written),
   ("files_failed", .nat t.failed)]

/-- The summary of a run; parts that were not reached are left out. -/
def Summary.toJson (s : Summary) : Json := .object
  (fieldOf "files_found" (s.filesFound.map .nat) ++
   fieldOf "inlined_constants" (s.inlinedConstants.map .nat) ++
   fieldOf "deleted_comments" (s.deletedComments.map .nat) ++
   fieldOf "statistics" (s.statistics.map Statistics.toJson) ++
   fieldOf "eligibility" (s.filter.map Filter.toJson) ++
   fieldOf "files_copied" (s.filesCopied.map .nat) ++
   ((s.totals.map Totals.fields).getD []) ++
   fieldOf "was_cancelled" (s.cancelled.map .bool))

end Pseudonym.Project
