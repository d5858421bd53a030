import Pseudonym.Extraction.Completion
import Pseudonym.Project.Job
import Pseudonym.Project.Layout

/-!
# Analysis of a project

All source files are read, the program is extracted from those that could be read, and a chain is
trained on its names. A file that cannot be read is reported and left out. The user may stop the
analysis between files; nothing has been changed by then.
-/

namespace Pseudonym.Project

open Files

/-- Why an analysis ends early. -/
inductive Interruption where
  | stopped
  | broken (message : String)

/-- The files that were read, by path. -/
abbrev Readings := List (Path × Reading × Python.Tree)

/-- The reading of a path. -/
def Readings.get? (rs : Readings) (p : Path) : Option (Reading × Python.Tree) :=
  (rs.find? (·.1 = p)).map (·.2)

/-! ## Reading -/

/-- Reads one file. A fault is no failure of the file to be read, and it is not reported as
progress. -/
def readOne (c : Circumstances) (done total : Nat) (p : Path) (j : Job) :
    Option (Reading × Python.Tree) × Job :=
  match c.fault? (.read p) with
  | some text =>
    (none, j.addFile { path := p, errors := ["Failed to parse " ++ p.text ++ ": " ++ text] })
  | none =>
    let reading := readSource j.disk p
    let (result, j) := match reading.tree with
      | .ok tree => (some (reading, tree), j)
      | .error e => (none, j.addFile { path := p, errors := [e.message p] })
    (result, j.report (readingFraction done total) ("Parsed " ++ p.name) (some p) .info)

/-- Reads files in turn, unless the user asks to stop. -/
def readFiles (c : Circumstances) (total : Nat) :
    Nat → List Path → Job → Except Interruption Readings × Job
  | _, [], j => (.ok [], j)
  | done, p :: rest, j =>
    if c.stops j.reports (.read p) then (.error .stopped, j)
    else
      let (result, j) := readOne c (done + 1) total p j
      let (others, j) := readFiles c total (done + 1) rest j
      (others.map fun others =>
        match result with
        | some r => (p, r) :: others
        | none => others, j)

/-- Reads all source files of a project. -/
def readProject (c : Circumstances) (root : Path) (j : Job) : Except Interruption Readings × Job :=
  let files := j.disk.sourceFiles root
  let j := j.note fun s => { s with filesFound := some files.length }
  if files.isEmpty then (.ok [], j.warn ("No Python files found under " ++ root.text))
  else readFiles c files.length 0 files j

/-! ## Extraction -/

/-- Adds the modules of a project. A module whose name is taken is left out with a warning. -/
def addModules (c : Circumstances) (root : Path) :
    Readings → Extraction → Job → Except Interruption Extraction × Job
  | [], x, j => (.ok x, j)
  | (p, reading, tree) :: rest, x, j =>
    if c.stops j.reports (.add p) then (.error .stopped, j)
    else
      let name := (projectModuleName? j.disk p root).getD ""
      match x.addRead ⟨name, p, reading.source, tree, true⟩ with
      | .ok x => addModules c root rest x j
      | .error e => addModules c root rest x (j.warn ("Skipping " ++ p.text ++ ": " ++ e.message))

/-- Adds the modules of a library, which are read but never changed. -/
def addLibrary (c : Circumstances) (root : Path) :
    List Path → Extraction → Job → Except Interruption Extraction × Job
  | [], x, j => (.ok x, j)
  | p :: rest, x, j =>
    match (moduleName? p root).getD "" with
    | "" => addLibrary c root rest x j
    | name =>
      match c.fault? (.read p) with
      | some text => (.error (.broken text), j)
      | none =>
        let reading := readSource j.disk p
        match reading.tree with
        | .error e => addLibrary c root rest x (j.warn (e.message p))
        | .ok tree =>
          let x := (x.addRead ⟨name, p, reading.source, tree, false⟩).toOption.getD x
          addLibrary c root rest x j

/-- Adds the modules of all libraries. -/
def addLibraries (c : Circumstances) :
    List String → Extraction → Job → Except Interruption Extraction × Job
  | [], x, j => (.ok x, j)
  | library :: rest, x, j =>
    let root := Path.resolve c.here (Path.expandUser c.home (Path.ofText library))
    if !j.disk.isFolder root then addLibraries c rest x j
    else
      match addLibrary c root (j.disk.sourceFiles root) x j with
      | (.ok x, j) => addLibraries c rest x j
      | (.error e, j) => (.error e, j)

/-- Extracts the program. -/
def extract (c : Circumstances) (o : Options) (root : Path) (readings : Readings) (j : Job) :
    Except Interruption Extraction × Job :=
  match addModules c root readings { introspection := c.introspection } j with
  | (.error e, j) => (.error e, j)
  | (.ok x, j) =>
    match if o.includeLibraries then addLibraries c o.libraryPaths x j else (.ok x, j) with
    | (.error e, j) => (.error e, j)
    | (.ok x, j) =>
      let x := x.resolve
      let j := j.report 0.08 "Resolving symbols..." none .info
      let count := toString x.graph.symbols.length
      (.ok x, j.report 0.10 ("Found " ++ count ++ " symbols") none .info)

/-! ## Training -/

/-- The symbols whose names a chain is trained on: declarations of the program itself. -/
def trainingSymbols (x : Extraction) : List Symbol :=
  x.graph.symbols.filter fun s => s.isCanonical && !x.isExternal s && !s.isSynthesized

/-- A chain trained on the declared names of symbols. -/
def trainOn (maxTokens : Nat) (symbols : List Symbol) : Model.Chain :=
  (symbols.foldl (fun (chain : Model.Chain) s =>
    match chain.train s.kind s.declaredName with
    | .ok (_, chain) => chain
    | .error _ => chain) { maxTokens }).freeze

end Pseudonym.Project
