import Mathlib.Data.List.Basic
import Pseudonym.Project.Run

/-!
# The stages of a run

A run reads and analyses a project, chooses names and then writes. Before it writes, it only talks:
the disk stays as it is. Main statement: `run_cases`, a run ends with the disk as it was, or it comes
to its writing with a task and a job that are described field by field (`Prepared`).
-/

namespace Pseudonym.Project

open Files

/-! ## What was read -/

/-- The reading of a source file: it has to be read without a fault, and to be a program. -/
def parsed? (c : Circumstances) (d : Disk) (p : Path) : Option (Reading × Python.Tree) :=
  match c.fault? (.read p), (readSource d p).tree with
  | none, .ok tree => some (readSource d p, tree)
  | _, _ => none

/-- The files that are read, with their readings. -/
def readingsOf (c : Circumstances) (d : Disk) (ps : List Path) : Readings :=
  ps.filterMap fun p => (parsed? c d p).map (p, ·)

theorem mem_readingsOf {c : Circumstances} {d : Disk} {ps : List Path} {p : Path}
    {r : Reading × Python.Tree} :
    (p, r) ∈ readingsOf c d ps ↔ p ∈ ps ∧ parsed? c d p = some r := by
  simp only [readingsOf, List.mem_filterMap, Option.map_eq_some_iff, Prod.mk.injEq]
  constructor
  · rintro ⟨q, hq, _, hr, rfl, rfl⟩
    exact ⟨hq, hr⟩
  · rintro ⟨hp, hr⟩
    exact ⟨p, hp, r, hr, rfl, rfl⟩

theorem map_fst_readingsOf (c : Circumstances) (d : Disk) (ps : List Path) :
    (readingsOf c d ps).map (·.1) = ps.filter fun p => (parsed? c d p).isSome := by
  induction ps with
  | nil => rfl
  | cons p rest ih =>
    cases h : parsed? c d p with
    | none => simpa [readingsOf, h] using ih
    | some r => simpa [readingsOf, h] using ih

/-- A reading is found at its path. -/
theorem get?_readingsOf {c : Circumstances} {d : Disk} {ps : List Path} {p : Path}
    {r : Reading × Python.Tree} (hp : p ∈ ps) (hr : parsed? c d p = some r) :
    (readingsOf c d ps).get? p = some r := by
  induction ps with
  | nil => cases hp
  | cons q rest ih =>
    by_cases hq : q = p
    · subst hq
      simp [Readings.get?, readingsOf, hr]
    · have hrest := ih ((List.mem_cons.1 hp).resolve_left (Ne.symm hq))
      cases h : parsed? c d q with
      | none => simpa [Readings.get?, readingsOf, h] using hrest
      | some r' => simpa [Readings.get?, readingsOf, h, hq] using hrest

theorem parsed?_reading {c : Circumstances} {d : Disk} {p : Path} {r : Reading × Python.Tree}
    (h : parsed? c d p = some r) : r.1 = readSource d p := by
  unfold parsed? at h
  split at h
  · cases h
    rfl
  · cases h

/-! ## What stays the same -/

namespace Job

/-- What a stage that only talks leaves as it is. -/
def core (j : Job) : Disk × List FileResult × Program × Option Totals :=
  (j.disk, j.files, j.program, j.summary.totals)

@[simp] theorem core_report (j : Job) (fraction : Float) (message : String) (file : Option Path)
    (severity : Severity) : (j.report fraction message file severity).core = j.core := rfl

@[simp] theorem core_enter (j : Job) (phase : Phase) : (j.enter phase).core = j.core := rfl

@[simp] theorem core_warn (j : Job) (text : String) : (j.warn text).core = j.core := rfl

@[simp] theorem core_fail (j : Job) (text : String) : (j.fail text).core = j.core := rfl

theorem disk_eq_of_core {j j' : Job} (h : j'.core = j.core) : j'.disk = j.disk := congrArg (·.1) h

theorem files_eq_of_core {j j' : Job} (h : j'.core = j.core) : j'.files = j.files :=
  congrArg (·.2.1) h

/-- No file was written. -/
def Unwritten (j : Job) : Prop := ∀ f ∈ j.files, f.output = none

theorem unwritten_of_core {j j' : Job} (h : j'.core = j.core) (hj : j.Unwritten) :
    j'.Unwritten := by
  intro f hf
  rw [files_eq_of_core h] at hf
  exact hj f hf

theorem totals_eq_of_core {j j' : Job} (h : j'.core = j.core) :
    j'.summary.totals = j.summary.totals :=
  congrArg (·.2.2.2) h

end Job

/-! ## Reading -/

/-- What reading some files does: a result without output for each that is not read, and nothing
else. -/
structure ReadThrough (c : Circumstances) (j : Job) (ps : List Path) (j' : Job) : Prop where
  disk : j'.disk = j.disk
  program : j'.program = j.program
  totals : j'.summary.totals = j.summary.totals
  files : ∃ failed : List FileResult, j'.files = j.files ++ failed ∧
    failed.map (·.path) = ps.filter (fun p => (parsed? c j.disk p).isNone) ∧
    ∀ f ∈ failed, f.output = none ∧ f.success = false

theorem readOne_fst (c : Circumstances) (done total : Nat) (p : Path) (j : Job) :
    (readOne c done total p j).1 = parsed? c j.disk p := by
  unfold readOne parsed?
  cases hfault : c.fault? (.read p) with
  | some text => rfl
  | none => cases htree : (readSource j.disk p).tree <;> simp [htree]

theorem readOne_through (c : Circumstances) (done total : Nat) (p : Path) (j : Job) :
    ReadThrough c j [p] (readOne c done total p j).2 := by
  unfold readOne
  cases hfault : c.fault? (.read p) with
  | some text =>
    exact ⟨rfl, rfl, rfl, [_], rfl, by simp [parsed?, hfault], by simp [FileResult.success]⟩
  | none =>
    cases htree : (readSource j.disk p).tree with
    | ok tree =>
      simp only [htree]
      exact ⟨rfl, rfl, rfl, [], (List.append_nil _).symm, by simp [parsed?, hfault, htree], by simp⟩
    | error e =>
      simp only [htree]
      exact ⟨rfl, rfl, rfl, [_], rfl, by simp [parsed?, hfault, htree], by simp [FileResult.success]⟩

theorem ReadThrough.cons {c : Circumstances} {j j₁ j₂ : Job} {p : Path} {ps : List Path}
    (h : ReadThrough c j [p] j₁) (h' : ReadThrough c j₁ ps j₂) : ReadThrough c j (p :: ps) j₂ where
  disk := h'.disk.trans h.disk
  program := h'.program.trans h.program
  totals := h'.totals.trans h.totals
  files := by
    obtain ⟨failed, hfiles, hpaths, hnone⟩ := h.files
    obtain ⟨failed', hfiles', hpaths', hnone'⟩ := h'.files
    refine ⟨failed ++ failed', by rw [hfiles', hfiles, List.append_assoc], ?_, ?_⟩
    · rw [List.map_append, hpaths, hpaths', h.disk, ← List.filter_append, List.singleton_append]
    · intro f hf
      exact (List.mem_append.1 hf).elim (hnone f) (hnone' f)

theorem ReadThrough.unwritten {c : Circumstances} {j j' : Job} {ps : List Path}
    (h : ReadThrough c j ps j') (hj : j.Unwritten) : j'.Unwritten := by
  obtain ⟨failed, hfiles, -, hnone⟩ := h.files
  intro f hf
  rw [hfiles] at hf
  exact (List.mem_append.1 hf).elim (hj f) fun hf => (hnone f hf).1

/-- A reading that is not stopped goes through all files; one that is stopped changes nothing that
matters. -/
theorem readFiles_spec (c : Circumstances) (total : Nat) : ∀ (done : Nat) (ps : List Path) (j : Job),
    (readFiles c total done ps j).2.disk = j.disk ∧
    (readFiles c total done ps j).2.summary.totals = j.summary.totals ∧
    (j.Unwritten → (readFiles c total done ps j).2.Unwritten) ∧
    ∀ rs, (readFiles c total done ps j).1 = .ok rs →
      rs = readingsOf c j.disk ps ∧ ReadThrough c j ps (readFiles c total done ps j).2
  | _, [], j => by
    refine ⟨rfl, rfl, id, fun rs h => ?_⟩
    cases h
    exact ⟨rfl, rfl, rfl, rfl, [], (List.append_nil _).symm, rfl, by simp⟩
  | done, p :: rest, j => by
    rw [readFiles]
    split
    · exact ⟨rfl, rfl, id, fun rs h => by cases h⟩
    · have hone := readOne_through c (done + 1) total p j
      have hrest := readFiles_spec c total (done + 1) rest (readOne c (done + 1) total p j).2
      obtain ⟨hdisk, htotals, hunwritten, hok⟩ := hrest
      refine ⟨hdisk.trans hone.disk, htotals.trans hone.totals,
        fun hj => hunwritten (hone.unwritten hj), fun rs h => ?_⟩
      dsimp only at h
      cases hothers : (readFiles c total (done + 1) rest (readOne c (done + 1) total p j).2).1 with
      | error e =>
        rw [hothers] at h
        cases h
      | ok others =>
        obtain ⟨rfl, hthrough⟩ := hok others hothers
        rw [hothers, readOne_fst] at h
        refine ⟨?_, hone.cons hthrough⟩
        rw [hone.disk] at h
        cases hp : parsed? c j.disk p <;>
          simpa [Except.map, hp, readingsOf, eq_comm] using h

theorem readProject_spec (c : Circumstances) (root : Path) (j : Job) :
    (readProject c root j).2.disk = j.disk ∧
    (readProject c root j).2.summary.totals = j.summary.totals ∧
    (j.Unwritten → (readProject c root j).2.Unwritten) ∧
    ∀ rs, (readProject c root j).1 = .ok rs →
      rs = readingsOf c j.disk (j.disk.sourceFiles root) ∧
      ReadThrough c j (j.disk.sourceFiles root) (readProject c root j).2 := by
  unfold readProject
  dsimp only
  split
  · rename_i hempty
    have hnil : j.disk.sourceFiles root = [] := List.isEmpty_iff.1 hempty
    refine ⟨rfl, rfl, id, fun rs h => ?_⟩
    cases h
    rw [hnil]
    exact ⟨rfl, rfl, rfl, rfl, [], (List.append_nil _).symm, rfl, by simp⟩
  · obtain ⟨hdisk, htotals, hunwritten, hok⟩ := readFiles_spec c (j.disk.sourceFiles root).length 0
      (j.disk.sourceFiles root)
      (j.note fun s => { s with filesFound := some (j.disk.sourceFiles root).length })
    refine ⟨hdisk, htotals, hunwritten, fun rs h => ?_⟩
    obtain ⟨hrs, hthrough⟩ := hok rs h
    exact ⟨hrs, hthrough.disk, hthrough.program, hthrough.totals, hthrough.files⟩

/-! ## Extraction -/

theorem addModules_core (c : Circumstances) (root : Path) (rs : Readings) (x : Extraction) (j : Job) :
    (addModules c root rs x j).2.core = j.core := by
  induction rs generalizing x j with
  | nil => rfl
  | cons r rest ih =>
    obtain ⟨p, reading, tree⟩ := r
    rw [addModules]
    split
    · rfl
    · dsimp only
      split
      · exact ih _ _
      · exact ih _ _

theorem addLibrary_core (c : Circumstances) (root : Path) (ps : List Path) (x : Extraction)
    (j : Job) : (addLibrary c root ps x j).2.core = j.core := by
  induction ps generalizing x j with
  | nil => rfl
  | cons p rest ih =>
    rw [addLibrary]
    split
    · exact ih _ _
    · split
      · rfl
      · dsimp only
        split
        · exact ih _ _
        · exact ih _ _

theorem addLibraries_core (c : Circumstances) (libraries : List String) (x : Extraction) (j : Job) :
    (addLibraries c libraries x j).2.core = j.core := by
  induction libraries generalizing x j with
  | nil => rfl
  | cons library rest ih =>
    rw [addLibraries]
    split
    · exact ih _ _
    · have hlibrary := addLibrary_core c (Path.resolve c.here (Path.expandUser c.home (.ofText library)))
        (j.disk.sourceFiles (Path.resolve c.here (Path.expandUser c.home (.ofText library)))) x j
      split
      · rename_i heq
        rw [heq] at hlibrary
        exact (ih _ _).trans hlibrary
      · rename_i heq
        rw [heq] at hlibrary
        exact hlibrary

theorem extract_core (c : Circumstances) (o : Options) (root : Path) (rs : Readings) (j : Job) :
    (extract c o root rs j).2.core = j.core := by
  have hmodules := addModules_core c root rs { introspection := c.introspection } j
  unfold extract
  split
  · rename_i heq
    rwa [heq] at hmodules
  · rename_i x j₁ heq
    rw [heq] at hmodules
    have hlibraries : (if o.includeLibraries then addLibraries c o.libraryPaths x j₁
        else (.ok x, j₁)).2.core = j₁.core := by
      split
      · exact addLibraries_core ..
      · rfl
    split
    · rename_i heq'
      rw [heq'] at hlibraries
      exact hlibraries.trans hmodules
    · rename_i heq'
      rw [heq'] at hlibraries
      exact hlibraries.trans hmodules

/-! ## Requests to stop -/

/-- How many reports come of reading some files: a file that a fault keeps from being read makes
none. -/
def announced (c : Circumstances) (ps : List Path) : Nat :=
  ps.countP fun p => (c.fault? (.read p)).isNone

/-- The reports that a run has made when it has read some files: one of its validation and those of
the files. -/
def reportsAfter (c : Circumstances) (ps : List Path) (reports : List Report) : List Report :=
  reports.take (1 + announced c ps)

/-- A stop is asked for at a check of the analysis: when a file is taken up, with the reports of the
files before it, or when a module is added, with those of all files. -/
inductive StopSeen (c : Circumstances) (d : Disk) (root : Path) (reports : List Report) : Prop where
  | reading (before : List Path) (p : Path) (after : List Path)
      (hfiles : d.sourceFiles root = before ++ p :: after)
      (hstop : c.stops (reportsAfter c before reports) (.read p) = true)
  | adding (p : Path) (hp : p ∈ d.sourceFiles root) (hread : (parsed? c d p).isSome = true)
      (hstop : c.stops (reportsAfter c (d.sourceFiles root) reports) (.add p) = true)

theorem readOne_reports (c : Circumstances) (done total : Nat) (p : Path) (j : Job) :
    ∃ made, (readOne c done total p j).2.reports = j.reports ++ made ∧
      made.length = announced c [p] := by
  unfold readOne
  cases hfault : c.fault? (.read p) with
  | some text => exact ⟨[], (List.append_nil _).symm, by simp [announced, hfault]⟩
  | none =>
    cases htree : (readSource j.disk p).tree <;> simp only [htree] <;>
      exact ⟨[_], rfl, by simp [announced, hfault]⟩

/-- A reading that goes through all files has seen no stop at any of them. -/
theorem readFiles_reports (c : Circumstances) (total : Nat) : ∀ (done : Nat) (ps : List Path)
    (j : Job) (rs : Readings), (readFiles c total done ps j).1 = .ok rs →
    ∃ made, (readFiles c total done ps j).2.reports = j.reports ++ made ∧
      made.length = announced c ps ∧
      ∀ before p after, ps = before ++ p :: after →
        c.stops (j.reports ++ made.take (announced c before)) (.read p) = false
  | _, [], j, _, _ => ⟨[], (List.append_nil _).symm, rfl, fun before p after h => by simp at h⟩
  | done, p :: rest, j, rs, h => by
    rw [readFiles] at h ⊢
    split at h
    · cases h
    · next hgoes =>
      rw [if_neg hgoes]
      obtain ⟨made, hmade, hlength⟩ := readOne_reports c (done + 1) total p j
      dsimp only at h ⊢
      cases hothers : (readFiles c total (done + 1) rest (readOne c (done + 1) total p j).2).1 with
      | error e =>
        rw [hothers] at h
        cases h
      | ok others =>
        obtain ⟨more, hmore, hlength', hstops⟩ := readFiles_reports c total (done + 1) rest _ _ hothers
        have hcount : ∀ qs, announced c (p :: qs) = made.length + announced c qs := fun qs => by
          rw [hlength, announced, announced, announced, ← List.countP_append, List.singleton_append]
        refine ⟨made ++ more, by rw [hmore, hmade, List.append_assoc],
          by rw [List.length_append, hlength', hcount], fun before q after hsplit => ?_⟩
        cases before with
        | nil =>
          obtain ⟨rfl, -⟩ := List.cons.inj hsplit
          simpa [announced] using hgoes
        | cons first before =>
          rw [List.cons_append] at hsplit
          obtain ⟨rfl, htail⟩ := List.cons.inj hsplit
          have hgoes' := hstops before q after htail
          rwa [hmade, List.append_assoc, ← List.take_length_add_append, ← hcount] at hgoes'

theorem readProject_reports {c : Circumstances} {root : Path} {j : Job} {rs : Readings}
    (h : (readProject c root j).1 = .ok rs) :
    ∃ made, (readProject c root j).2.reports = j.reports ++ made ∧
      made.length = announced c (j.disk.sourceFiles root) ∧
      ∀ before p after, j.disk.sourceFiles root = before ++ p :: after →
        c.stops (j.reports ++ made.take (announced c before)) (.read p) = false := by
  unfold readProject at h ⊢
  dsimp only at h ⊢
  split at h
  · next hempty =>
    rw [if_pos hempty]
    have hnil : j.disk.sourceFiles root = [] := List.isEmpty_iff.1 hempty
    exact ⟨[], (List.append_nil _).symm, by rw [hnil]; rfl, fun before p after h => by simp [hnil] at h⟩
  · next hempty =>
    rw [if_neg hempty]
    exact readFiles_reports c _ 0 _ _ rs h

/-- Adding modules makes no reports, and sees no stop if it comes to its end. -/
theorem addModules_reports (c : Circumstances) (root : Path) : ∀ (rs : Readings) (x : Extraction)
    (j : Job), (addModules c root rs x j).2.reports = j.reports ∧
      ∀ y, (addModules c root rs x j).1 = .ok y → ∀ e ∈ rs, c.stops j.reports (.add e.1) = false
  | [], _, _ => ⟨rfl, fun _ _ _ he => by cases he⟩
  | (p, reading, tree) :: rest, x, j => by
    rw [addModules]
    split
    · exact ⟨rfl, fun y h => by cases h⟩
    · next hgoes =>
      have hfirst : c.stops j.reports (.add p) = false := by simpa using hgoes
      dsimp only
      split
      · next x' _ =>
        obtain ⟨hsame, hstops⟩ := addModules_reports c root rest x' j
        exact ⟨hsame, fun y h => List.forall_mem_cons.2 ⟨hfirst, hstops y h⟩⟩
      · obtain ⟨hsame, hstops⟩ := addModules_reports c root rest x (j.warn _)
        exact ⟨hsame, fun y h => List.forall_mem_cons.2 ⟨hfirst, hstops y h⟩⟩

theorem addLibrary_reports (c : Circumstances) (root : Path) (ps : List Path) (x : Extraction)
    (j : Job) : (addLibrary c root ps x j).2.reports = j.reports := by
  induction ps generalizing x j with
  | nil => rfl
  | cons p rest ih =>
    rw [addLibrary]
    split
    · exact ih _ _
    · split
      · rfl
      · dsimp only
        split
        · exact ih _ _
        · exact ih _ _

theorem addLibraries_reports (c : Circumstances) (libraries : List String) (x : Extraction) (j : Job) :
    (addLibraries c libraries x j).2.reports = j.reports := by
  induction libraries generalizing x j with
  | nil => rfl
  | cons library rest ih =>
    rw [addLibraries]
    split
    · exact ih _ _
    · have hlibrary := addLibrary_reports c (Path.resolve c.here (Path.expandUser c.home (.ofText library)))
        (j.disk.sourceFiles (Path.resolve c.here (Path.expandUser c.home (.ofText library)))) x j
      split
      · rename_i heq
        rw [heq] at hlibrary
        exact (ih _ _).trans hlibrary
      · rename_i heq
        rw [heq] at hlibrary
        exact hlibrary

theorem extract_reports {c : Circumstances} {o : Options} {root : Path} {rs : Readings} {j : Job}
    {x : Extraction} (h : (extract c o root rs j).1 = .ok x) :
    j.reports <+: (extract c o root rs j).2.reports ∧
      ∀ e ∈ rs, c.stops j.reports (.add e.1) = false := by
  obtain ⟨hmodules, hstops⟩ :=
    addModules_reports c root rs { introspection := c.introspection } j
  unfold extract at h ⊢
  split at h
  · cases h
  · rename_i y j₁ heq
    rw [heq] at hmodules hstops
    dsimp only
    have hlibraries : (if o.includeLibraries then addLibraries c o.libraryPaths y j₁
        else (.ok y, j₁)).2.reports = j.reports := by
      split
      · exact (addLibraries_reports ..).trans hmodules
      · exact hmodules
    split at h
    · cases h
    · rename_i z j₂ heq'
      rw [heq'] at hlibraries
      refine ⟨?_, hstops y rfl⟩
      rw [← show j₂.reports = j.reports from hlibraries]
      exact (List.prefix_append _ _).trans (List.prefix_append _ _)

/-- What is known of the checks when they are passed is read off the reports of a run that goes on. -/
theorem not_stopSeen {c : Circumstances} {d : Disk} {root : Path} {first made reports : List Report}
    (hfirst : first.length = 1) (hmade : made.length = announced c (d.sourceFiles root))
    (hseen : first ++ made <+: reports)
    (hread : ∀ before p after, d.sourceFiles root = before ++ p :: after →
      c.stops (first ++ made.take (announced c before)) (.read p) = false)
    (hadd : ∀ p ∈ d.sourceFiles root, (parsed? c d p).isSome = true →
      c.stops (first ++ made) (.add p) = false) :
    1 + announced c (d.sourceFiles root) ≤ reports.length ∧ ¬ StopSeen c d root reports := by
  obtain ⟨rest, rfl⟩ := hseen
  have htake : ∀ n ≤ made.length,
      (first ++ made ++ rest).take (1 + n) = first ++ made.take n := fun n hn => by
    rw [← hfirst, List.append_assoc, List.take_length_add_append, List.take_append_of_le_length hn]
  refine ⟨by simp only [List.length_append]; omega, fun hstop => ?_⟩
  cases hstop with
  | reading before p after hfiles hstop =>
    have hle : announced c before ≤ made.length := by
      rw [hmade, hfiles, announced, announced, List.countP_append]
      exact Nat.le_add_right _ _
    rw [reportsAfter, htake _ hle, hread before p after hfiles] at hstop
    cases hstop
  | adding p hp hparsed hstop =>
    rw [reportsAfter, htake _ (Nat.le_of_eq hmade.symm), ← hmade, List.take_length, hadd p hp hparsed] at hstop
    cases hstop

/-- What the choice of names leaves as it is. -/
def Job.frame (j : Job) : Disk × List FileResult × Option Totals × Phase :=
  (j.disk, j.files, j.summary.totals, j.phase)

theorem inlineOne_frame (c : Circumstances) (filter : Filter) (s : Symbol) (n : Nat) (j : Job) :
    (inlineOne c filter s n j).2.frame = j.frame := by
  unfold inlineOne
  split
  · rfl
  · split <;> rfl

theorem inlineAll_frame (c : Circumstances) (filter : Filter) (symbols : List Symbol) (j : Job) :
    (inlineAll c filter symbols j).frame = j.frame := by
  have fold : ∀ (rest : List Symbol) (state : Nat × Job),
      (rest.foldl (fun state s => inlineOne c filter s state.1 state.2) state).2.frame =
        state.2.frame := by
    intro rest
    induction rest with
    | nil => intro state; rfl
    | cons s rest ih => intro state; exact (ih _).trans (inlineOne_frame ..)
  exact fold symbols (0, j)

theorem renameOne_frame (c : Circumstances) (index total : Nat) (s : Symbol) (w : Workflow Sampler)
    (j : Job) : (renameOne c index total s w j).2.frame = j.frame := by
  unfold renameOne
  split
  · rfl
  · split
    · rfl
    · dsimp only
      split <;> rfl

theorem renameAll_frame (c : Circumstances) (total : Nat) : ∀ (done : Nat) (ids : List SymbolId)
    (w : Workflow Sampler) (j : Job), (renameAll c total done ids w j).2.2.frame = j.frame
  | _, [], _, _ => rfl
  | done, id :: rest, w, j => by
    rw [renameAll]
    split
    · rfl
    · split
      · exact renameAll_frame c total (done + 1) rest w j
      · exact (renameAll_frame c total (done + 1) rest _ _).trans (renameOne_frame ..)

theorem chooseNames_frame (c : Circumstances) (t : Task) (chain : Model.Chain) (j : Job) :
    (chooseNames c t chain j).2.frame = j.frame := by
  unfold chooseNames
  refine (renameAll_frame ..).trans ?_
  have hinlined : (if t.options.inlineConstants then inlineAll c t.options.filter t.candidates j
      else j).frame = j.frame := by
    split
    · exact inlineAll_frame ..
    · rfl
  split
  · exact hinlined
  · exact hinlined

/-- Reports are never taken back. -/
theorem renameAll_reports (c : Circumstances) (total : Nat) : ∀ (done : Nat) (ids : List SymbolId)
    (w : Workflow Sampler) (j : Job), j.reports <+: (renameAll c total done ids w j).2.2.reports
  | _, [], _, _ => List.prefix_refl _
  | done, id :: rest, w, j => by
    have hone : ∀ (s : Symbol), j.reports <+: (renameOne c (done + 1) total s w j).2.reports := by
      intro s
      unfold renameOne
      split
      · exact List.prefix_refl _
      · split
        · exact List.prefix_refl _
        · dsimp only
          split
          · exact List.prefix_append _ _
          · exact List.prefix_refl _
    rw [renameAll]
    split
    · exact List.prefix_refl _
    · split
      · exact renameAll_reports c total (done + 1) rest w j
      · exact (hone _).trans (renameAll_reports c total (done + 1) rest _ _)

theorem inlineAll_reports (c : Circumstances) (filter : Filter) (symbols : List Symbol) (j : Job) :
    (inlineAll c filter symbols j).reports = j.reports := by
  have hone : ∀ (s : Symbol) (n : Nat) (j : Job),
      (inlineOne c filter s n j).2.reports = j.reports := by
    intro s n j
    unfold inlineOne
    split
    · rfl
    · split <;> rfl
  have fold : ∀ (rest : List Symbol) (state : Nat × Job),
      (rest.foldl (fun state s => inlineOne c filter s state.1 state.2) state).2.reports =
        state.2.reports := by
    intro rest
    induction rest with
    | nil => intro state; rfl
    | cons s rest ih => intro state; exact (ih _).trans (hone ..)
  exact fold symbols (0, j)

theorem chooseNames_reports (c : Circumstances) (t : Task) (chain : Model.Chain) (j : Job) :
    j.reports <+: (chooseNames c t chain j).2.reports := by
  have hinlined : (if t.options.inlineConstants then inlineAll c t.options.filter t.candidates j
      else j).reports = j.reports := by
    split
    · exact inlineAll_reports ..
    · rfl
  have hstripped : ∀ k : Job, (if t.options.stripComments then deleteComments t k else k).reports =
      k.reports := by
    intro k
    split <;> rfl
  rw [← hinlined, ← hstripped]
  unfold chooseNames
  exact (renameAll_reports ..).trans (List.prefix_append _ _)

/-- The choice of names ends with a report. -/
theorem exists_report_chooseNames (c : Circumstances) (t : Task) (chain : Model.Chain) (j : Job) :
    ∃ report ∈ (chooseNames c t chain j).2.reports, report.phase = j.phase :=
  ⟨_, List.mem_append_right _ (List.mem_singleton_self _),
    congrArg (·.2.2.2) (chooseNames_frame c t chain j)⟩

theorem inlineOne_program (c : Circumstances) (filter : Filter) (s : Symbol) (n : Nat) (j : Job) :
    (inlineOne c filter s n j).2.program = j.program ∨
      ∃ changes, j.program.changes.inline s = .ok changes ∧
        (inlineOne c filter s n j).2.program = { j.program with changes } := by
  unfold inlineOne
  split
  · exact .inl rfl
  · split
    · exact .inl rfl
    · exact .inl rfl
    · rename_i hok
      exact .inr ⟨_, hok, rfl⟩

theorem renameOne_program (c : Circumstances) (index total : Nat) (s : Symbol)
    (w : Workflow Sampler) (j : Job) :
    (renameOne c index total s w j).2.program = j.program ∨
      (renameOne c index total s w j).2.program = (w.process j.program s).2.2 := by
  unfold renameOne
  split
  · exact .inl rfl
  · split
    · exact .inl rfl
    · dsimp only
      split <;> exact .inr rfl

/-- A comment that was found knows its file. -/
theorem file_of_mem_comments {r : Reading} {comment : Comment} (h : comment ∈ r.comments) :
    comment.file = some r.path := by
  unfold Reading.comments Python.findComments at h
  cases hlex : Python.lexemes r.source with
  | error e => simp [hlex, bind, Except.bind, Except.toOption] at h
  | ok found =>
    simp only [hlex, bind, Except.bind, pure, Except.pure, Except.toOption, Option.getD_some,
      List.mem_map] at h
    obtain ⟨_, _, rfl⟩ := h
    rfl

section Induction

variable {motive : Program → Prop}

theorem inlineAll_induction {c : Circumstances} {filter : Filter} {symbols : List Symbol} {j : Job}
    (hstart : motive j.program)
    (hinline : ∀ p s changes, motive p → s ∈ symbols → p.changes.inline s = .ok changes →
      motive { p with changes }) : motive (inlineAll c filter symbols j).program := by
  have fold : ∀ (rest : List Symbol) (state : Nat × Job), rest ⊆ symbols → motive state.2.program →
      motive (rest.foldl (fun state s => inlineOne c filter s state.1 state.2) state).2.program := by
    intro rest
    induction rest with
    | nil => intro state _ h; exact h
    | cons s rest ih =>
      intro state hsub h
      refine ih _ (List.subset_of_cons_subset hsub) ?_
      rcases inlineOne_program c filter s state.1 state.2 with hsame | ⟨changes, hok, hnext⟩
      · exact hsame ▸ h
      · exact hnext ▸ hinline _ s changes h (hsub List.mem_cons_self) hok
  exact fold symbols (0, j) (List.Subset.refl _) hstart

/-- The comments that are deleted are of files in the scope. -/
theorem deleteComments_induction {t : Task} {j : Job}
    (hpaths : ∀ p r, t.readings.get? p = some r → r.1.path = p) (hstart : motive j.program)
    (hdelete : ∀ p comment changes, motive p → (∃ q ∈ t.scope, comment.file = some q) →
      p.changes.deleteComment comment = .ok changes → motive { p with changes }) :
    motive (deleteComments t j).program := by
  have fold : ∀ (rest : List Comment) (changes : Changes),
      (∀ comment ∈ rest, ∃ q ∈ t.scope, comment.file = some q) →
      motive { j.program with changes } →
      motive { j.program with changes := rest.foldl (fun (changes : Changes) comment =>
        (changes.deleteComment comment).toOption.getD changes) changes } := by
    intro rest
    induction rest with
    | nil => intro changes _ h; exact h
    | cons comment rest ih =>
      intro changes hrest h
      refine ih _ (fun other ho => hrest other (List.mem_cons_of_mem _ ho)) ?_
      dsimp only
      cases hdeleted : changes.deleteComment comment with
      | error e => exact h
      | ok next =>
        exact hdelete ⟨j.program.graph, changes⟩ comment next h (hrest comment List.mem_cons_self)
          hdeleted
  refine fold _ j.program.changes (fun comment hcomment => ?_) hstart
  obtain ⟨p, hp, hcomment⟩ := List.mem_flatMap.1 hcomment
  refine ⟨p, by simpa [Path.sort] using hp, ?_⟩
  split at hcomment
  · rename_i reading tree hget
    rw [← hpaths p _ hget]
    exact file_of_mem_comments (List.mem_filter.1 hcomment).1
  · cases hcomment

theorem renameAll_induction {c : Circumstances} {total : Nat}
    (hprocess : ∀ (w : Workflow Sampler) p s, motive p → s ∈ p.graph.symbols →
      motive (w.process p s).2.2) : ∀ (done : Nat) (ids : List SymbolId) (w : Workflow Sampler)
    (j : Job), motive j.program → motive (renameAll c total done ids w j).2.2.program
  | _, [], _, _, h => h
  | done, id :: rest, w, j, h => by
    rw [renameAll]
    split
    · exact h
    · split
      · exact renameAll_induction hprocess (done + 1) rest w j h
      · rename_i s hs
        refine renameAll_induction hprocess (done + 1) rest
          (renameOne c (done + 1) total s w j).1 (renameOne c (done + 1) total s w j).2 ?_
        rcases renameOne_program c (done + 1) total s w j with hsame | hnext
        · exact hsame ▸ h
        · exact hnext ▸ hprocess w j.program s h (List.mem_of_find?_eq_some hs)

/-- What holds of a program, and is kept when a constant is replaced, a comment of the scope deleted
or a symbol processed, holds when all names are chosen. -/
theorem chooseNames_induction {c : Circumstances} {t : Task} {chain : Model.Chain} {j : Job}
    (hpaths : ∀ p r, t.readings.get? p = some r → r.1.path = p) (hstart : motive j.program)
    (hinline : ∀ p s changes, motive p → s ∈ t.candidates → p.changes.inline s = .ok changes →
      motive { p with changes })
    (hdelete : ∀ p comment changes, motive p → (∃ q ∈ t.scope, comment.file = some q) →
      p.changes.deleteComment comment = .ok changes → motive { p with changes })
    (hprocess : ∀ (w : Workflow Sampler) p s, motive p → s ∈ p.graph.symbols →
      motive (w.process p s).2.2) : motive (chooseNames c t chain j).2.program := by
  unfold chooseNames
  apply renameAll_induction hprocess
  have hinlined : motive (if t.options.inlineConstants then
      inlineAll c t.options.filter t.candidates j else j).program := by
    split
    · exact inlineAll_induction hstart hinline
    · exact hstart
  split
  · exact deleteComments_induction hpaths hinlined hdelete
  · exact hinlined

end Induction

/-! ## The whole run -/

/-- What a run has come to when it starts to write. -/
structure Prepared (c : Circumstances) (s : Settings) (r : Request) (d : Disk) (t : Task) (j : Job) :
    Prop where
  request : t.request = r
  options : s.check = .ok t.options
  root : d.isFolder r.root = true
  readings : t.readings = readingsOf c d (d.sourceFiles r.root)
  scope : t.scope = filesInScope d (Path.sort (t.readings.map (·.1))) t.options.scope r.target
  extraction : ∃ j₀ : Job, j₀.disk = d ∧
    (extract c t.options r.root t.readings j₀).1 = .ok t.extraction
  disk : j.disk = d
  files : j.files.map (·.path) = (d.sourceFiles r.root).filter (fun p => (parsed? c d p).isNone) ∧
    ∀ f ∈ j.files, f.output = none ∧ f.success = false
  reports : ∃ report ∈ j.reports, report.phase = .renaming
  unstopped : 1 + announced c (d.sourceFiles r.root) ≤ j.reports.length ∧
    ¬ StopSeen c d r.root j.reports
  program : ∃ (chain : Model.Chain) (j₀ : Job), j₀.program =
      ⟨t.extraction.graph.forgetRoots, { overloading := t.options.overloading }⟩ ∧
    j.program = (chooseNames c t chain j₀).2.program

/-- A request is accepted only if its root is a folder. -/
theorem isFolder_of_validate {s : Settings} {d : Disk} {here : Path} {r : Request}
    {findings : Findings} (h : validate s d here r = .ok findings) (herrors : findings.errors = []) :
    d.isFolder r.root = true := by
  unfold validate at h
  simp only [bind, Except.bind, pure, Except.pure] at h
  split at h
  · cases h
  split at h
  · cases h
  split at h
  · cases h
  cases h
  have hroot : (examineRoot d r.root).errors = [] := by
    simp only [HAppend.hAppend, Append.append, Findings.append] at herrors
    simp_all
  by_contra hnot
  have hfalse : d.isFolder r.root = false := by simpa using hnot
  simp [examineRoot, hfalse, Findings.error] at hroot

theorem endInterrupted_core (i : Interruption) (j : Job) : (endInterrupted i j).core = j.core := by
  cases i <;> rfl

/-- After validation, a run is interrupted with the disk as it was, or it comes to its writing. -/
theorem runChecked_cases {c : Circumstances} {s : Settings} {o : Options} {r : Request} {j : Job}
    (hcheck : s.check = .ok o) (hroot : j.disk.isFolder r.root = true) (hfiles : j.files = [])
    (hreports : j.reports.length = 1) (htotals : j.summary.totals = none) :
    ((runChecked c o r j).summary.totals = none ∧ (runChecked c o r j).disk = j.disk ∧
        (runChecked c o r j).Unwritten) ∨
      ∃ t j₀ stopped, Prepared c s r j.disk t j₀ ∧
        runChecked c o r j = endWritten t stopped (writeProject c t j₀) := by
  obtain ⟨hdisk, htot, hunwritten, hread⟩ := readProject_spec c r.root (j.enter .analyzing)
  have hstart : (j.enter .analyzing).Unwritten := by
    intro f hf
    have hnil : (j.enter .analyzing).files = [] := hfiles
    rw [hnil] at hf
    cases hf
  unfold runChecked
  rcases hproject : readProject c r.root (j.enter .analyzing) with ⟨_ | rs, j₁⟩
  · rw [hproject] at hdisk htot hunwritten
    have hcore := endInterrupted_core (by assumption) j₁
    exact .inl ⟨(Job.totals_eq_of_core hcore).trans (htot.trans htotals),
      (Job.disk_eq_of_core hcore).trans hdisk, Job.unwritten_of_core hcore (hunwritten hstart)⟩
  rw [hproject] at hdisk htot hunwritten hread
  obtain ⟨hrs, hthrough⟩ := hread rs rfl
  have hcore := extract_core c o r.root rs j₁
  dsimp only
  rcases hextract : extract c o r.root rs j₁ with ⟨_ | x, j₂⟩
  · rw [hextract] at hcore
    have hend := endInterrupted_core (by assumption) j₂
    exact .inl ⟨(Job.totals_eq_of_core (hend.trans hcore)).trans (htot.trans htotals),
      (Job.disk_eq_of_core (hend.trans hcore)).trans hdisk,
      Job.unwritten_of_core (hend.trans hcore) (hunwritten hstart)⟩
  rw [hextract] at hcore
  have hd₂ : j₂.disk = j.disk := (Job.disk_eq_of_core hcore).trans hdisk
  have hf₂ : j₂.files = j₁.files := Job.files_eq_of_core hcore
  let chain := trainOn o.maxTokens (trainingSymbols x)
  let trained := j₂.report trainingEnd
    ("Trained name model on " ++ toString chain.trained ++ " names") none .info
  let t : Task :=
    { request := r, options := o, readings := rs, extraction := x
      scope := filesInScope trained.disk (Path.sort (rs.map (·.1))) o.scope r.target }
  let start : Job := { trained with
    program := ⟨x.graph.forgetRoots, { overloading := o.overloading }⟩ }.enter .renaming
  let chosen := chooseNames c t chain start
  have hframe : chosen.2.frame = start.frame := chooseNames_frame c t chain start
  have hsaid : j₂.reports <+: chosen.2.reports :=
    (List.prefix_append _ _).trans (chooseNames_reports c t chain start)
  have hdisk' : chosen.2.disk = j.disk := (congrArg (·.1) hframe).trans hd₂
  have hfiles' : chosen.2.files = j₁.files := (congrArg (·.2.1) hframe).trans hf₂
  refine .inr ⟨t, chosen.2.enter .writing, chosen.1, ?_, rfl⟩
  exact
    { request := rfl
      options := hcheck
      root := hroot
      readings := hrs
      scope := by rw [← hd₂]; rfl
      extraction := ⟨j₁, hdisk, by rw [hextract]⟩
      disk := hdisk'
      files := by
        obtain ⟨failed, hadded, hpaths, hnone⟩ := hthrough.files
        have hall : j₁.files = failed := by
          rw [hadded]
          exact congrArg (· ++ failed) hfiles
        rw [← hall, ← hfiles'] at hpaths hnone
        exact ⟨hpaths, hnone⟩
      reports := exists_report_chooseNames c t chain start
      unstopped := by
        obtain ⟨made, hmade, hcount, hgoes⟩ := readProject_reports (congrArg Prod.fst hproject)
        obtain ⟨hadded, hadds⟩ := extract_reports (congrArg Prod.fst hextract)
        rw [hproject] at hmade
        rw [hextract] at hadded
        have hseen : j.reports ++ made <+: chosen.2.reports := hmade ▸ hadded.trans hsaid
        refine not_stopSeen hreports hcount hseen hgoes fun p hp hread => ?_
        obtain ⟨reading, hparsed⟩ := Option.isSome_iff_exists.1 hread
        exact hmade ▸ hadds (p, reading) (hrs ▸ mem_readingsOf.2 ⟨hp, hparsed⟩)
      program := ⟨chain, start, rfl, rfl⟩ }

/-- **Before it writes, a run changes nothing.** It ends with the disk as it was and no file written,
or it comes to its writing. -/
theorem run_cases (c : Circumstances) (s : Settings) (r : Request) (d : Disk) :
    ((run c s r d).summary.totals = none ∧ (run c s r d).disk = d ∧ (run c s r d).Unwritten) ∨
      ∃ t j stopped, Prepared c s r d t j ∧
        run c s r d = endWritten t stopped (writeProject c t j) := by
  unfold run
  split
  · exact .inl ⟨rfl, rfl, by intro f hf; cases hf⟩
  · rename_i findings hvalid
    dsimp only
    split
    · rename_i o hcheck
      split
      · rename_i hnone
        have hroot := isFolder_of_validate hvalid (List.isEmpty_iff.1 hnone)
        exact runChecked_cases hcheck hroot rfl rfl rfl
      · exact .inl ⟨rfl, rfl, by intro f hf; cases hf⟩
    · exact .inl ⟨rfl, rfl, by intro f hf; cases hf⟩

/-! ## Runs that nobody stops -/

/-- By default, a run uses no libraries. -/
theorem check_default : ∃ o, Settings.default.check = .ok o ∧ o.includeLibraries = false := by
  have hdefault : Settings.default.check.toOption.map (·.includeLibraries) = some false := by
    decide +kernel
  cases hcheck : Settings.default.check with
  | error e => simp [hcheck, Except.toOption] at hdefault
  | ok o => exact ⟨o, rfl, by simpa [hcheck, Except.toOption] using hdefault⟩

section Unstopped

variable {c : Circumstances} (hgoes : ∀ reports place, c.stops reports place = false)
include hgoes

theorem readFiles_isOk (total : Nat) : ∀ (done : Nat) (ps : List Path) (j : Job),
    ∃ rs, (readFiles c total done ps j).1 = .ok rs
  | _, [], _ => ⟨_, rfl⟩
  | done, p :: rest, j => by
    obtain ⟨others, hothers⟩ :=
      readFiles_isOk total (done + 1) rest (readOne c (done + 1) total p j).2
    rw [readFiles, hgoes]
    simp only [Bool.false_eq_true, if_false, hothers, Except.map]
    exact ⟨_, rfl⟩

theorem addModules_isOk (root : Path) : ∀ (rs : Readings) (x : Extraction) (j : Job),
    ∃ y, (addModules c root rs x j).1 = .ok y
  | [], _, _ => ⟨_, rfl⟩
  | (p, reading, tree) :: rest, x, j => by
    rw [addModules, hgoes]
    simp only [Bool.false_eq_true, if_false]
    split
    · exact addModules_isOk root rest _ j
    · exact addModules_isOk root rest x _

/-- A run that is accepted, uses no libraries and is not stopped comes to its writing. -/
theorem run_writes {s : Settings} {r : Request} {d : Disk} {o : Options} {findings : Findings}
    (hcheck : s.check = .ok o) (hlibraries : o.includeLibraries = false)
    (hvalid : validate s d c.here r = .ok findings) (herrors : findings.errors = []) :
    (run c s r d).summary.totals.isSome = true := by
  unfold run
  rw [hvalid]
  dsimp only
  rw [hcheck]
  simp only [herrors, List.isEmpty_nil, if_true]
  unfold runChecked
  generalize ({ ({ disk := d : Job }.enter .validating).report 0.0 "Validating inputs..." none .info
    with warnings := findings.warnings }.enter .analyzing) = j
  have hread : ∃ rs, (readProject c r.root j).1 = .ok rs := by
    unfold readProject
    dsimp only
    split
    · exact ⟨_, rfl⟩
    · exact readFiles_isOk hgoes _ _ _ _
  rcases hproject : readProject c r.root j with ⟨i | rs, j₁⟩
  · rw [hproject] at hread
    obtain ⟨_, h⟩ := hread
    cases h
  have hextract : ∃ x, (extract c o r.root rs j₁).1 = .ok x := by
    obtain ⟨y, hy⟩ := addModules_isOk hgoes r.root rs { introspection := c.introspection } j₁
    unfold extract
    rcases hmodules : addModules c r.root rs { introspection := c.introspection } j₁ with ⟨i | x, j₂⟩
    · rw [hmodules] at hy
      cases hy
    · simp only [hlibraries, Bool.false_eq_true, if_false]
      exact ⟨_, rfl⟩
  dsimp only
  rcases hextracted : extract c o r.root rs j₁ with ⟨i | x, j₂⟩
  · rw [hextracted] at hextract
    obtain ⟨_, h⟩ := hextract
    cases h
  · dsimp only
    unfold endWritten
    split <;> rfl

/-- A run with the default settings that is accepted and not stopped comes to its writing. -/
theorem run_writes_default {r : Request} {d : Disk}
    (hvalid : (validate .default d c.here r).toOption.map (·.errors) = some []) :
    (run c .default r d).summary.totals.isSome = true := by
  obtain ⟨o, hcheck, hlibraries⟩ := check_default
  cases hfindings : validate .default d c.here r with
  | error e => simp [hfindings, Except.toOption] at hvalid
  | ok f =>
    refine run_writes hgoes hcheck hlibraries hfindings ?_
    simpa [hfindings, Except.toOption] using hvalid

end Unstopped

end Pseudonym.Project
