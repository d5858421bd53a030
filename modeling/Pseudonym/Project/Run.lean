import Pseudonym.Project.Analysis

/-!
# Runs

A run validates its request, analyses the project, renames what may be renamed and writes the files
back, in place or as a copy of the whole project. A file that fails is reported and does not stop the
run. The user may stop it while names are being chosen; what was chosen by then is still written.
-/

namespace Pseudonym.Project

open Files

/-! ## Renaming -/

/-- What a run renames, and where. -/
structure Task where
  request : Request
  options : Options
  readings : Readings
  extraction : Extraction
  /-- The files in the operation scope. -/
  scope : List Path

/-- The symbols that a run considers: those of the program that are declared in the scope. -/
def Task.candidates (t : Task) : List Symbol :=
  t.extraction.graph.symbols.filter fun s =>
    (s.file.map t.scope.contains).getD false && !t.extraction.isExternal s

/-- Inlines a constant unless it carries a marker; a refusal is a warning. -/
def inlineOne (c : Circumstances) (filter : Filter) (s : Symbol) (inlined : Nat) (j : Job) :
    Nat × Job :=
  if s.literal.isNone || (filter.markerPresence j.program.graph s).blocks then (inlined, j)
  else match c.fault? (.inline s), j.program.changes.inline s with
    | some text, _ => (inlined, j.warn text)
    | none, .error e => (inlined, j.warn e.message)
    | none, .ok changes => (inlined + 1, { j with program := { j.program with changes } })

/-- Inlines the constants among the candidates. -/
def inlineAll (c : Circumstances) (filter : Filter) (symbols : List Symbol) (j : Job) : Job :=
  let (count, j) := symbols.foldl (fun (n, j) s => inlineOne c filter s n j) (0, j)
  j.note fun s => { s with inlinedConstants := some count }

/-- Deletes the comments of the files in scope, those that say something to other programs apart. -/
def deleteComments (t : Task) (j : Job) : Job :=
  let comments := (Path.sort t.scope).flatMap fun p =>
    match t.readings.get? p with
    | some (reading, _) => reading.comments.filter (!·.isDocumentation)
    | none => []
  let changes := comments.foldl (fun (changes : Changes) comment =>
    (changes.deleteComment comment).toOption.getD changes) j.program.changes
  { j with program := { j.program with changes } }.note fun s =>
    { s with deletedComments := some comments.length }

/-- Renames one symbol in its state at this time. -/
def renameOne (c : Circumstances) (index total : Nat) (s : Symbol) (w : Workflow Sampler) (j : Job) :
    Workflow Sampler × Job :=
  if j.program.changes.isInlined s.id then (w, j)
  else match c.fault? (.rename s) with
    | some text => (w, j.warn ("Failed to process " ++ s.qualname ++ ": " ++ text))
    | none =>
      let (outcome, w, program) := w.process j.program s
      let j := { j with program, outcomes := j.outcomes ++ [outcome] }
      match outcome.newName with
      | some name =>
        (w, j.report (renamingFraction index total)
          ("Renamed " ++ outcome.oldName ++ " -> " ++ name) s.file .info)
      | none => (w, j)

/-- Renames symbols in turn, unless the user asks to stop; tells whether that happened. -/
def renameAll (c : Circumstances) (total : Nat) :
    Nat → List SymbolId → Workflow Sampler → Job → Bool × Workflow Sampler × Job
  | _, [], w, j => (false, w, j)
  | done, id :: rest, w, j =>
    if c.stops j.reports (.rename id) then (true, w, j)
    else match j.program.graph.symbol? id with
      | none => renameAll c total (done + 1) rest w j
      | some s =>
        let (w, j) := renameOne c (done + 1) total s w j
        renameAll c total (done + 1) rest w j

/-- Chooses the new names of a program. -/
def chooseNames (c : Circumstances) (t : Task) (chain : Model.Chain) (j : Job) : Bool × Job :=
  let o := t.options
  let sampler : Sampler :=
    ⟨chain, Random.Twister.ofSeed (o.seed.getD c.entropy), o.convention⟩
  let workflow : Workflow Sampler :=
    { policy := { filter := o.filter, accessors := o.accessorPolicy, maxAttempts := o.maxAttempts }
      source := sampler }
  let candidates := t.candidates
  let j := if o.inlineConstants then inlineAll c o.filter candidates j else j
  let j := if o.stripComments then deleteComments t j else j
  let (stopped, workflow, j) := renameAll c candidates.length 0 (candidates.map (·.id)) workflow j
  let count := toString workflow.statistics.committed
  let j := j.report renamingEnd ("Renamed " ++ count ++ " symbol(s)") none .info
  (stopped, j.note fun s =>
    { s with statistics := some workflow.statistics, filter := some o.filter })

/-! ## Writing -/

/-- Where a rendered file goes: to its place in the copy, or to its own place if it changed. -/
def outputPath? (r : Request) (p : Path) (source code : String) : Option Path :=
  match r.output with
  | some output => some (output.append ((p.relativeTo? r.root).getD p))
  | none => if code ≠ source then some p else none

/-- Writes a file together with the folders above it. -/
def writeFile (d : Disk) (p : Path) (code : String) : Except FileError Disk := do
  let d ← d.ensureFolder p.parent
  d.write p code.toUTF8

/-- The text for a null character in rendered code. -/
def nullCharacterMessage : String := "source code string cannot contain null bytes"

/-- Renders and writes one file. -/
def writeOne (c : Circumstances) (t : Task) (plan : EditPlan) (p : Path) (source : String)
    (j : Job) : Job :=
  let failed (text : String) (j : Job) : Job :=
    j.addFile { path := p, errors := ["Failed to render or write " ++ p.text ++ ": " ++ text] }
  match c.fault? (.render p) with
  | some text => failed text j
  | none =>
    let comments := if t.scope.contains p then j.program.changes.deletedIn (some p) else []
    match render source ((plan.get? p).getD {}) comments with
    | none => failed nullCharacterMessage j
    | some r =>
      if !r.valid then j.addFile { path := p, errors := [invalidRendering (some p)] }
      else match outputPath? t.request p source r.code with
        | none => j.addFile { path := p }
        | some output =>
          match writeFile j.disk output r.code with
          | .error e => failed e.message j
          | .ok disk => { j with disk }.addFile { path := p, output := some output }

/-- Writes files in turn. -/
def writeAll (c : Circumstances) (t : Task) (plan : EditPlan) (total : Nat) :
    Nat → List Path → Job → Job
  | _, [], j => j
  | done, p :: rest, j =>
    let source := ((t.readings.get? p).map (·.1.source)).getD ""
    let j := writeOne c t plan p source j
    let j := j.report (writingFraction (done + 1) total) ("Wrote " ++ p.name) (some p) .info
    writeAll c t plan total (done + 1) rest j

/-- Copies a file of the project to its place in the copy; a failure is a warning. -/
def copyOne (root output : Path) (p : Path) (copied : Nat) (j : Job) : Nat × Job :=
  let target := output.append ((p.relativeTo? root).getD p)
  match (do let d ← j.disk.ensureFolder target.parent; d.copy p target) with
  | .ok disk => (copied + 1, { j with disk })
  | .error e => (copied, j.warn ("Failed to copy " ++ p.text ++ ": " ++ e.message))

/-- Copies every file of the project that was not written, except from inside the copy. -/
def copyUnwritten (root output : Path) (j : Job) : Job :=
  let written := (j.files.filter (·.output.isSome)).map (·.path)
  let files := (j.disk.projectFiles root).filter fun p =>
    !written.contains p && !p.isInside output
  let (copied, j) := files.foldl (fun (n, j) p => copyOne root output p n j) (0, j)
  j.note fun s => { s with filesCopied := some copied }

/-- The files that are rendered: all that were read for a copy, and in place those in the scope and
those that a change reaches. -/
def renderedFiles (t : Task) (j : Job) : List Path :=
  let read := t.readings.map (·.1)
  match t.request.output with
  | some _ => Path.sort read
  | none =>
    let touched := j.program.changes.touchedFiles j.program.graph
    Path.sort (read.filter fun p => t.scope.contains p || touched.contains p)

/-- Writes the files of a run. -/
def writeProject (c : Circumstances) (t : Task) (j : Job) : Job :=
  let plan := planEdits j.program.graph j.program.changes
  let files := renderedFiles t j
  let j := writeAll c t plan files.length 0 files j
  match t.request.output with
  | some output => copyUnwritten t.request.root output j
  | none => j

/-! ## The whole run -/

/-- Ends a run that the user stopped before anything was changed. -/
def endStopped (j : Job) : Job :=
  let j := (j.note fun s => { s with cancelled := some true }).enter .cancelled
  j.report j.fraction "Job cancelled" none .warning

/-- Ends a run that broke. -/
def endBroken (text : String) (j : Job) : Job :=
  let j := (j.fail ("Shuffle failed: " ++ text)).enter .failed
  j.report j.fraction "Job failed" none .error

/-- Ends a run that was interrupted during the analysis. -/
def endInterrupted (i : Interruption) (j : Job) : Job :=
  match i with
  | .stopped => endStopped j
  | .broken text => endBroken text j

/-- Ends a run that has written its files. -/
def endWritten (t : Task) (stopped : Bool) (j : Job) : Job :=
  let totals : Totals :=
    { root := t.request.root, scope := t.options.scope, inScope := t.scope.length
      written := (j.files.filter (·.output.isSome)).length
      failed := (j.files.filter (!·.success)).length }
  let j := j.note fun s => { s with totals := some totals, cancelled := some stopped }
  if stopped then
    (j.enter .cancelled).report 1.0 "Job cancelled; committed renames were written" none .warning
  else (j.enter .completed).report 1.0 "Job completed" none .success

/-- Runs what follows validation. -/
def runChecked (c : Circumstances) (o : Options) (r : Request) (j : Job) : Job :=
  match readProject c r.root (j.enter .analyzing) with
  | (.error i, j) => endInterrupted i j
  | (.ok readings, j) =>
    match extract c o r.root readings j with
    | (.error i, j) => endInterrupted i j
    | (.ok extraction, j) =>
      let chain := trainOn o.maxTokens (trainingSymbols extraction)
      let j := j.report trainingEnd
        ("Trained name model on " ++ toString chain.trained ++ " names") none .info
      let files := Path.sort (readings.map (·.1))
      let t : Task :=
        { request := r, options := o, readings, extraction
          scope := filesInScope j.disk files o.scope r.target }
      let program : Program := ⟨extraction.graph.forgetRoots, { overloading := o.overloading }⟩
      let (stopped, j) := chooseNames c t chain ({ j with program }.enter .renaming)
      endWritten t stopped (writeProject c t (j.enter .writing))

/-- Runs a request on a disk. -/
def run (c : Circumstances) (s : Settings) (r : Request) (d : Disk) : Job :=
  let j := ({ disk := d : Job }.enter .validating).report 0.0 "Validating inputs..." none .info
  match validate s d c.here r with
  | .error fault => endBroken fault.message j
  | .ok findings =>
    let j := { j with warnings := findings.warnings }
    match s.check with
    | .ok options =>
      if findings.errors.isEmpty then runChecked c options r j
      else ({ j with errors := findings.errors }.enter .failed).report 0.0 "Validation failed" none
        .error
    | .error _ =>
      ({ j with errors := findings.errors }.enter .failed).report 0.0 "Validation failed" none .error

end Pseudonym.Project
