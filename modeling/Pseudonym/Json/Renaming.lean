import Pseudonym.Json.Symbol
import Pseudonym.Number.Fixed
import Pseudonym.Renaming.Rendering
import Pseudonym.Renaming.Workflow

/-!
# Renamings as data values

Plans, conflicts, outcomes and counts, as they are handed to other programs.
-/

namespace Pseudonym

/-- A rename: the symbol and its new name. -/
def Rename.toJson (r : Rename) : Json := .array [.string r.symbol, .string r.name]

/-- A plan by its entries. -/
def Plan.toJson (p : Plan) : Json := .array (p.entries.map Rename.toJson)

/-- A conflict. -/
def Conflict.toJson (c : Conflict) : Json := .object
  [("kind", .string c.kind.word), ("symbol", .string c.symbol), ("new_name", .string c.name),
   ("conflicting", .ofText c.other), ("detail", .string c.detail)]

/-- An outcome with everything that was tried. -/
def Outcome.toJson (o : Outcome) : Json := .object
  [("symbol", .string o.symbol), ("state", .string o.state.word), ("old_name", .string o.oldName),
   ("new_name", .ofText o.newName), ("attempts", .nat o.attempts),
   ("eligibility", .string o.eligibility.code), ("plan", .ofOption Plan.toJson o.plan),
   ("rejected", .array (o.rejected.map fun (c, r) => .array [.string c, .string r.text])),
   ("conflicts", .array (o.conflicts.map Conflict.toJson))]

/-- The rules of a filter. -/
def Filter.toJson (f : Filter) : Json := .object
  [("tiers", .object (Visibility.all.map fun v => (v.word, .bool (f.tier v)))),
   ("rename_default_interface_method", .bool f.renameDefaultMethods),
   ("ignore_markers", .ofTexts f.ignoreMarkers.toList),
   ("serialization_markers", .ofTexts f.serializationMarkers.toList)]

/-- All counts. -/
def Statistics.toJson (s : Statistics) : Json := .object
  [("processed", .nat s.processed), ("committed", .nat s.committed), ("filtered", .nat s.filtered),
   ("exhausted", .nat s.exhausted), ("attempts", .nat s.attempts), ("cascaded", .nat s.cascaded),
   ("rejected_candidates", .nat s.rejectedCandidates), ("conflicts", .nat s.conflicts),
   ("filtered_by_reason",
     .object (s.filteredByReason.map fun (r, n) => (Text.lower r.code, .nat n)))]

/-- A row of a table with its probabilities to six places. -/
def Model.rowToJson (row : List (String × Float)) : Json :=
  .array (row.map fun (b, p) => .array [.string b, .string (Number.fixed 6 p)])

/-- All rows of a table. -/
def Model.Table.toJson (t : Model.Table) : Json :=
  .array (t.probabilities.map fun (a, row) => .array [.string a, Model.rowToJson row])

/-- The counts of a rendered file. -/
def Rendered.toJson (r : Rendered) : Json := .object
  [("renamed_occurrences", .nat r.renamed), ("inlined_occurrences", .nat r.inlined),
   ("deleted_comments", .nat r.deletedComments)]

/-- The edits of a file; deleted lines are sorted, each once. -/
def FileEdits.toJson (f : FileEdits) : Json := .object
  [("edits", .array (f.edits.map Source.Edit.toJson)),
   ("deleted", .array (((f.deletedLines.mergeSort (· ≤ ·)).eraseDups).map .int)),
   ("renamed", .nat f.renamed), ("inlined", .nat f.inlined)]

end Pseudonym
