import Pseudonym.Files.Disk
import Pseudonym.Settings.Check

/-!
# Validation of a run

Before a run starts, its settings and paths are examined and every problem is reported at once.
The settings are still raw at that point; a value whose shape stops the examination is a fault of its
own.
-/

namespace Pseudonym

/-- Whether a value counts as set: it is not absent, false, zero or empty. -/
def Json.isSet : Json → Bool
  | .null => false
  | .bool b => b
  | .number (.integer n) => n ≠ 0
  | .number (.decimal text) => Json.decimalValue text != 0.0
  | .string s => s ≠ ""
  | .array items => !items.isEmpty
  | .object fields => !fields.isEmpty

namespace Project

open Files

/-- What stops the examination. -/
inductive ValidationFault where
  /-- A choice that cannot be compared. -/
  | settings (fault : SettingsFault)
  /-- An operation scope that is none. -/
  | badScope (value : Json)
  /-- Library paths that are no list. -/
  | notList (value : Json)
  /-- A library path that is no text. -/
  | notPath (value : Json)

/-- The text of a fault. -/
def ValidationFault.message : ValidationFault → String
  | .settings f => f.message
  | .badScope v => v.display ++ " is not a valid OperationScope"
  | .notList v => "'" ++ v.typeWord ++ "' object is not iterable"
  | .notPath v => "expected str, bytes or os.PathLike object, not " ++ v.typeWord

/-- What an examination found. -/
structure Findings where
  errors : List String := []
  warnings : List String := []
deriving DecidableEq, Repr, Inhabited

/-- Joins findings. -/
def Findings.append (a b : Findings) : Findings :=
  ⟨a.errors ++ b.errors, a.warnings ++ b.warnings⟩

instance : Append Findings := ⟨Findings.append⟩

/-- What a run is given: the root of the project, the target of the operation scope, and the folder
that gets a copy. Without one, files are changed in place. -/
structure Request where
  root : Path
  target : Path
  output : Option Path
deriving DecidableEq, Repr, Inhabited

/-- A single error. -/
def Findings.error (text : String) : Findings := ⟨[text], []⟩

/-- A single warning. -/
def Findings.warning (text : String) : Findings := ⟨[], [text]⟩

/-- Examines the settings as such. -/
def examineSettings (s : Settings) : Except ValidationFault Findings :=
  match s.check with
  | .ok _ => .ok {}
  | .error f =>
    if f.isShape then .error (.settings f)
    else .ok (.error ("Configuration validation failed: " ++ f.message))

/-- Examines the root. -/
def examineRoot (d : Disk) (root : Path) : Findings :=
  if !d.isFolder root then .error ("Project root is not a directory: " ++ root.text)
  else if !d.grants root .read then .error ("Project root is not readable: " ++ root.text)
  else {}

/-- The operation scope of raw settings. -/
def rawScope (s : Settings) : Except ValidationFault OperationScope :=
  match (s.value .scope).string?.bind OperationScope.ofWord? with
  | some scope => .ok scope
  | none => .error (.badScope (s.value .scope))

/-- Examines the target. -/
def examineTarget (s : Settings) (d : Disk) (root target : Path) :
    Except ValidationFault Findings :=
  if !d.contains target then .ok (.error ("Target not found: " ++ target.text))
  else if d.isFolder root && !target.isInside root then
    .ok (.error ("Target " ++ target.text ++ " is outside the project root " ++ root.text))
  else do
    let scope ← rawScope s
    return if scope = .file && !d.isFile target then
        .error ("Operation scope 'file' needs a file target, got " ++ target.text)
      else {}

/-- Examines the output folder. -/
def examineOutput (d : Disk) (root output : Path) : Findings :=
  let problem : Findings :=
    if d.contains output && !d.isFolder output then
      .error ("Output path exists but is not a directory: " ++ output.text)
    else if d.contains output && !d.grants output .write then
      .error ("Output directory is not writable: " ++ output.text)
    else if !d.contains output && !d.contains output.parent then
      .error ("Cannot create output directory (parent does not exist): " ++ output.text)
    else {}
  let inside : Findings :=
    if d.isFolder root && d.contains output && output.isInside root then
      .warning ("Output directory " ++ output.text ++ " is inside the project root")
    else {}
  problem ++ inside

/-- The members of a value that can be gone through: the items of a list, the characters of a text,
the keys of an object. -/
def members : Json → Except ValidationFault (List Json)
  | .array items => .ok items
  | .string s => .ok (s.toList.map fun c => .string c.toString)
  | .object fields => .ok (fields.map fun f => .string f.1)
  | v => .error (.notList v)

/-- Examines the library paths, which count only if libraries are included. -/
def examineLibraries (s : Settings) (d : Disk) (here : Path) : Except ValidationFault Findings := do
  let included := (s.value .includeLibraries).isSet
  (← members (s.value .libraryPaths)).foldlM (fun (found : Findings) v =>
    if !included then .ok found
    else match v with
      | .string library =>
        .ok (if d.isFolder (here.append (Path.ofText library)) then found
          else found ++ .warning ("Library path is not a directory: " ++ library))
      | v => .error (.notPath v)) {}

/-- Examines settings and paths of a run. -/
def validate (s : Settings) (d : Disk) (here : Path) (r : Request) :
    Except ValidationFault Findings := do
  let settings ← examineSettings s
  let root := examineRoot d r.root
  let target ← examineTarget s d r.root r.target
  let output := match r.output with
    | some output => examineOutput d r.root output
    | none => {}
  let libraries ← examineLibraries s d here
  return settings ++ root ++ target ++ output ++ libraries

end Project

end Pseudonym
