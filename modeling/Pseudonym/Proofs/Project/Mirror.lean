import Pseudonym.Proofs.Project.Writing

/-!
# Mirrored runs

A run with an output folder writes there what was rendered and copies all other files of the project.
Main statement: `run_mirrors`, the output folder holds the whole project and nothing else, the
project itself stays as it was, and every source file has one result.
-/

namespace Pseudonym.Project

open Files

/-- A project and a folder for its copy: plain paths to places apart from each other on a tree of
files and folders. -/
structure Mirroring (d : Disk) (root out : Path) : Prop where
  root_plain : root.Plain
  out_plain : out.Plain
  apart : root.Apart out
  regular : d.top.Regular
  folder : d.lookup? root.parts = some .folder

namespace Mirroring

variable {c : Circumstances} {t : Task} {d : Disk} {root out : Path} {program : Program}
  {held : List String → Option ByteArray}

theorem exists_of_mem (hm : Mirroring d root out) {p : Path} (hp : p ∈ d.projectFiles root) :
    ∃ names original, p = root.below names ∧ ".." ∉ names ∧
      d.lookup? (root.parts ++ names) = some (.file original) :=
  Disk.exists_of_mem_collect hm.root_plain hm.regular hm.folder hp

/-- What the copy holds when some files are rendered: their texts, and what it held before. -/
def holding (c : Circumstances) (d : Disk) (program : Program) (root : Path) (ps : List Path)
    (held : List String → Option ByteArray) (names : List String) : Option ByteArray :=
  match if root.below names ∈ ps then rendered? c d program (root.below names) else none with
  | some code => some code.toUTF8
  | none => held names

theorem holding_nil (held : List String → Option ByteArray) :
    holding c d program root [] held = held := by
  funext names
  simp [holding]

theorem holding_cons (p : Path) (ps : List Path) (held : List String → Option ByteArray) :
    holding c d program root ps (holding c d program root [p] held) =
      holding c d program root (p :: ps) held := by
  funext names
  unfold holding
  cases h : rendered? c d program (root.below names) with
  | none => simp only [ite_self]
  | some code => by_cases hps : root.below names ∈ ps <;> simp [hps]

theorem holding_singleton_of_none {names : List String}
    (h : rendered? c d program (root.below names) = none) :
    holding c d program root [root.below names] held = held := by
  funext other
  by_cases ho : root.below other = root.below names
  · simp [holding, ho, h]
  · simp [holding, ho]

theorem holding_singleton_of_some {names : List String} {code : String}
    (h : rendered? c d program (root.below names) = some code) :
    holding c d program root [root.below names] held =
      Function.update held names (some code.toUTF8) := by
  funext other
  by_cases ho : other = names
  · simp [holding, ho, h]
  · have hne : root.below other ≠ root.below names := fun heq => ho (root.below_injective heq)
    simp [holding, hne, Function.update_of_ne ho]

/-- What writing a copy leaves behind. -/
structure Copying (c : Circumstances) (d : Disk) (root out : Path) (ps : List Path)
    (held : List String → Option ByteArray) (j j' : Job) : Prop where
  program : j'.program = j.program
  mirrors : Mirrors d root out (holding c d j.program root ps held) j'.disk
  files : ∃ results : List FileResult, j'.files = j.files ++ results ∧
    results.map (·.path) = ps ∧
    ∀ f ∈ results, f.output.isSome = (rendered? c d j.program f.path).isSome

theorem writeOne_copying (hm : Mirroring d root out) (hroot : t.request.root = root)
    (hout : t.request.output = some out) {j : Job} (hdeletes : DeletesWithin t.scope j.program)
    (h : Mirrors d root out held j.disk) {p : Path} (hp : p ∈ d.sourceFiles root)
    {r : Reading × Python.Tree} (hread : parsed? c d p = some r) :
    Copying c d root out [p] held j
      (writeOne c t (planEdits j.program.graph j.program.changes) p r.1.source j) := by
  obtain ⟨names, original, rfl, hplain, hsource⟩ := hm.exists_of_mem
    (Disk.mem_projectFiles_of_mem_sourceFiles hm.root_plain hm.folder hp)
  cases hrendered : rendered? c d j.program (root.below names) with
  | none =>
    obtain ⟨text, heq⟩ := writeOne_of_none hdeletes hread hrendered
    rw [heq]
    refine ⟨rfl, ?_, [_], rfl, rfl, ?_⟩
    · rw [holding_singleton_of_none hrendered]
      exact h
    · simp [hrendered]
  | some code =>
    obtain ⟨d₂, hwritten, hmirrors⟩ :=
      exists_writeFile h hm.out_plain hm.folder hplain hsource code
    have houtput : outputPath? t.request (root.below names) r.1.source code =
        some (out.below names) := by
      rw [outputPath?, hout, hroot, ← Path.append_relativeTo? root out names]
    rw [writeOne_of_some hdeletes hread hrendered, houtput]
    simp only [hwritten]
    refine ⟨rfl, ?_, [_], rfl, rfl, ?_⟩
    · rw [holding_singleton_of_some hrendered]
      exact hmirrors
    · simp [hrendered]

theorem writeAll_copying (hm : Mirroring d root out) (hroot : t.request.root = root)
    (hout : t.request.output = some out) (hreadings : t.readings = readingsOf c d (d.sourceFiles root))
    (total : Nat) : ∀ (done : Nat) (ps : List Path) (held : List String → Option ByteArray) (j : Job),
    DeletesWithin t.scope j.program → Mirrors d root out held j.disk →
    (∀ p ∈ ps, p ∈ d.sourceFiles root ∧ (parsed? c d p).isSome = true) →
    Copying c d root out ps held j
      (writeAll c t (planEdits j.program.graph j.program.changes) total done ps j)
  | _, [], held, j, _, h, _ => by
    refine ⟨rfl, ?_, [], (List.append_nil _).symm, rfl, by simp⟩
    rw [holding_nil]
    exact h
  | done, p :: rest, held, j, hdeletes, h, hps => by
    obtain ⟨hp, hsome⟩ := hps p List.mem_cons_self
    obtain ⟨r, hread⟩ := Option.isSome_iff_exists.1 hsome
    have hsource : ((t.readings.get? p).map (·.1.source)).getD "" = r.1.source := by
      rw [hreadings, get?_readingsOf hp hread]
      rfl
    have hone := writeOne_copying hm hroot hout hdeletes h hp hread
    rw [writeAll, hsource]
    set j₁ := (writeOne c t (planEdits j.program.graph j.program.changes) p r.1.source j).report
      (writingFraction (done + 1) total) ("Wrote " ++ p.name) (some p) .info with hj₁
    have hprogram : j₁.program = j.program := hone.program
    have hrest := writeAll_copying hm hroot hout hreadings total (done + 1) rest
      (holding c d j.program root [p] held) j₁ (hprogram ▸ hdeletes) hone.mirrors
      fun q hq => hps q (List.mem_cons_of_mem _ hq)
    rw [hprogram] at hrest
    obtain ⟨results, hfiles, hpaths, hwritten⟩ := hone.files
    obtain ⟨results', hfiles', hpaths', hwritten'⟩ := hrest.files
    refine ⟨hrest.program.trans hprogram, ?_, results ++ results', ?_, ?_, ?_⟩
    · have hmirrors := hrest.mirrors
      rwa [hprogram, holding_cons] at hmirrors
    · rw [hfiles', ← List.append_assoc]
      exact congrArg (· ++ results') hfiles
    · rw [List.map_append, hpaths, hpaths', List.singleton_append]
    · intro f hf
      rw [hprogram] at hwritten'
      exact (List.mem_append.1 hf).elim (hwritten f) (hwritten' f)

/-! ## Files that were not written -/

/-- The bytes of a file of the project. -/
def originalAt (d : Disk) (root : Path) (names : List String) : Option ByteArray :=
  match d.lookup? (root.parts ++ names) with
  | some (.file content) => some content
  | _ => none

/-- What the copy holds when some files of the project are copied. -/
def copied (d : Disk) (root : Path) (ps : List Path) (held : List String → Option ByteArray)
    (names : List String) : Option ByteArray :=
  if root.below names ∈ ps then originalAt d root names else held names

theorem copied_cons (p : Path) (ps : List Path) (held : List String → Option ByteArray) :
    copied d root ps (copied d root [p] held) = copied d root (p :: ps) held := by
  funext names
  by_cases hps : root.below names ∈ ps <;> simp [copied, hps]

theorem copied_singleton {names : List String} {original : ByteArray}
    (h : d.lookup? (root.parts ++ names) = some (.file original)) :
    copied d root [root.below names] held = Function.update held names (some original) := by
  funext other
  by_cases ho : other = names
  · simp [copied, originalAt, ho, h]
  · have hne : root.below other ≠ root.below names := fun heq => ho (root.below_injective heq)
    simp [copied, hne, Function.update_of_ne ho]

theorem copyOne_mirrors (hm : Mirroring d root out) {p : Path} (hp : p ∈ d.projectFiles root)
    {n : Nat} {j : Job} (h : Mirrors d root out held j.disk) :
    Mirrors d root out (copied d root [p] held) (copyOne root out p n j).2.disk ∧
      (copyOne root out p n j).2.files = j.files ∧
      (copyOne root out p n j).2.program = j.program := by
  obtain ⟨names, original, rfl, hplain, hsource⟩ := hm.exists_of_mem hp
  obtain ⟨d₂, hcopied, hmirrors⟩ :=
    exists_copy h hm.root_plain hm.out_plain hm.apart hm.folder hplain hsource
  rw [copied_singleton hsource]
  unfold copyOne
  rw [Path.append_relativeTo?]
  dsimp only
  rw [hcopied]
  exact ⟨hmirrors, rfl, rfl⟩

theorem copyAll_mirrors (hm : Mirroring d root out) : ∀ (ps : List Path)
    (held : List String → Option ByteArray) (state : Nat × Job), ps ⊆ d.projectFiles root →
    Mirrors d root out held state.2.disk →
    let result := ps.foldl (fun (n, j) p => copyOne root out p n j) state
    Mirrors d root out (copied d root ps held) result.2.disk ∧
      result.2.files = state.2.files ∧ result.2.program = state.2.program
  | [], held, state, _, h => by
    have hnil : copied d root [] held = held := by
      funext names
      simp [copied]
    exact ⟨hnil ▸ h, rfl, rfl⟩
  | p :: ps, held, state, hsub, h => by
    obtain ⟨hmirrors, hfiles, hprogram⟩ :=
      copyOne_mirrors hm (hsub List.mem_cons_self) (n := state.1) h
    obtain ⟨hrest, hfiles', hprogram'⟩ := copyAll_mirrors hm ps _
      (copyOne root out p state.1 state.2) (List.subset_of_cons_subset hsub) hmirrors
    rw [copied_cons] at hrest
    exact ⟨hrest, hfiles'.trans hfiles, hprogram'.trans hprogram⟩

/-- The project as the copy sees it is the project as it was. -/
theorem node?_root (hm : Mirroring d root out) {d' : Disk} (h : Mirrors d root out held d') :
    d'.node? root = d.node? root := by
  rw [Disk.node?_eq hm.root_plain, Disk.node?_eq hm.root_plain]
  simpa using h.get?_root hm.apart []

theorem projectFiles_eq (hm : Mirroring d root out) {d' : Disk} (h : Mirrors d root out held d') :
    d'.projectFiles root = d.projectFiles root := by
  unfold Disk.projectFiles Disk.collect
  rw [hm.node?_root h]

theorem not_isInside (hm : Mirroring d root out) {p : Path} (hp : p ∈ d.projectFiles root) :
    p.isInside out = false := by
  obtain ⟨names, original, rfl, hplain, -⟩ := hm.exists_of_mem hp
  rw [Bool.eq_false_iff, Ne, Path.isInside_iff (hm.root_plain.below hplain) hm.out_plain]
  intro hin
  rcases List.prefix_or_prefix_of_prefix hin (List.prefix_append root.parts names) with ho | hr
  · exact hm.apart.2 ho
  · exact hm.apart.1 hr

/-- What the copy of a project holds in the end. -/
def mirrored (c : Circumstances) (d : Disk) (program : Program) (root : Path) (names : List String) :
    Option ByteArray :=
  if root.below names ∈ d.projectFiles root then
    match if root.below names ∈ d.sourceFiles root then rendered? c d program (root.below names)
      else none with
    | some code => some code.toUTF8
    | none => originalAt d root names
  else none

/-- The files of the project that some results leave to be copied. -/
def unwritten (d : Disk) (root out : Path) (files : List FileResult) : List Path :=
  (d.projectFiles root).filter fun p =>
    !((files.filter (·.output.isSome)).map (·.path)).contains p && !p.isInside out

theorem copyUnwritten_mirrors (hm : Mirroring d root out) {j : Job}
    (h : Mirrors d root out held j.disk) :
    Mirrors d root out (copied d root (unwritten d root out j.files) held)
        (copyUnwritten root out j).disk ∧
      (copyUnwritten root out j).files = j.files ∧
      (copyUnwritten root out j).program = j.program := by
  have hcopied := copyAll_mirrors hm (unwritten d root out j.files) held (0, j)
    (List.filter_subset_self _) h
  unfold copyUnwritten
  rw [hm.projectFiles_eq h]
  exact hcopied

/-- A file counts as written when it has a rendered text. -/
theorem Copying.mem_written {ps : List Path} {j j' : Job} (h : Copying c d root out ps held j j')
    (hnone : ∀ f ∈ j.files, f.output = none) {p : Path} :
    p ∈ (j'.files.filter (·.output.isSome)).map (·.path) ↔
      p ∈ ps ∧ (rendered? c d j.program p).isSome = true := by
  obtain ⟨results, hfiles, hpaths, hwritten⟩ := h.files
  simp only [hfiles, List.filter_append, List.map_append, List.mem_append, List.mem_map,
    List.mem_filter]
  constructor
  · rintro (⟨f, ⟨hf, hsome⟩, rfl⟩ | ⟨f, ⟨hf, hsome⟩, rfl⟩)
    · rw [hnone f hf] at hsome
      cases hsome
    · exact ⟨hpaths ▸ List.mem_map_of_mem hf, hwritten f hf ▸ hsome⟩
  · rintro ⟨hp, hsome⟩
    rw [← hpaths] at hp
    obtain ⟨f, hf, rfl⟩ := List.mem_map.1 hp
    exact .inr ⟨f, ⟨hf, (hwritten f hf).trans hsome⟩, rfl⟩

/-- Rendered texts and copies together are the mirrored project. -/
theorem copied_holding (hm : Mirroring d root out) {ps : List Path} {files : List FileResult}
    (hps : ∀ p, p ∈ ps ↔ p ∈ d.sourceFiles root ∧ (parsed? c d p).isSome = true)
    (hwritten : ∀ p, p ∈ (files.filter (·.output.isSome)).map (·.path) ↔
      p ∈ ps ∧ (rendered? c d program p).isSome = true) :
    copied d root (unwritten d root out files) (holding c d program root ps fun _ => none) =
      mirrored c d program root := by
  funext names
  have hunwritten : root.below names ∈ unwritten d root out files ↔
      root.below names ∈ d.projectFiles root ∧
        ¬ (root.below names ∈ ps ∧ (rendered? c d program (root.below names)).isSome = true) := by
    rw [unwritten, List.mem_filter, ← hwritten]
    refine and_congr_right fun hproject => ?_
    simp [hm.not_isInside hproject]
  by_cases hproject : root.below names ∈ d.projectFiles root
  · by_cases hdone : root.below names ∈ ps ∧
        (rendered? c d program (root.below names)).isSome = true
    · obtain ⟨code, hcode⟩ := Option.isSome_iff_exists.1 hdone.2
      have hnot : root.below names ∉ unwritten d root out files :=
        fun h => (hunwritten.1 h).2 hdone
      simp [copied, mirrored, holding, hproject, hnot, hdone.1, ((hps _).1 hdone.1).1, hcode]
    · have hin : root.below names ∈ unwritten d root out files := hunwritten.2 ⟨hproject, hdone⟩
      have hnone : (if root.below names ∈ d.sourceFiles root then
          rendered? c d program (root.below names) else none) = none := by
        split
        · rename_i hsource
          by_contra hsome
          have hcode := Option.isSome_iff_ne_none.2 hsome
          obtain ⟨code, hrendered⟩ := Option.isSome_iff_exists.1 hcode
          exact hdone ⟨(hps _).2 ⟨hsource, parsed?_of_rendered? hrendered⟩, hcode⟩
        · rfl
      rw [copied, if_pos hin, mirrored, if_pos hproject, hnone]
  · have hsource : root.below names ∉ ps := fun h => hproject
      (Disk.mem_projectFiles_of_mem_sourceFiles hm.root_plain hm.folder ((hps _).1 h).1)
    have hnot : root.below names ∉ unwritten d root out files := fun h => hproject (hunwritten.1 h).1
    simp [copied, mirrored, holding, hproject, hsource, hnot]

/-- Writing a copy of a project. -/
theorem writeProject_mirrors {s : Settings} {r : Request} {j : Job}
    (hm : Mirroring d r.root out) (hout : r.output = some out) (hprepared : Prepared c s r d t j)
    (hdeletes : DeletesWithin t.scope j.program)
    (hstart : Mirrors d r.root out (fun _ => none) d) :
    (writeProject c t j).program = j.program ∧
    Mirrors d r.root out (mirrored c d j.program r.root) (writeProject c t j).disk ∧
    ((writeProject c t j).files.map (·.path)).Perm (d.sourceFiles r.root) := by
  have hreadPaths : t.readings.map (·.1) =
      (d.sourceFiles r.root).filter fun p => (parsed? c d p).isSome := by
    rw [hprepared.readings, map_fst_readingsOf]
  have hrendered : renderedFiles t j = Path.sort (t.readings.map (·.1)) := by
    rw [renderedFiles, hprepared.request, hout]
  have hmem : ∀ p, p ∈ renderedFiles t j ↔
      p ∈ d.sourceFiles r.root ∧ (parsed? c d p).isSome = true := by
    intro p
    rw [hrendered, Path.sort, List.mem_mergeSort, hreadPaths, List.mem_filter]
  have hwrite := writeAll_copying hm (by rw [hprepared.request]) (by rw [hprepared.request, hout])
    hprepared.readings (renderedFiles t j).length 0 (renderedFiles t j) (fun _ => none) j hdeletes
    (hprepared.disk ▸ hstart) fun p hp => (hmem p).1 hp
  obtain ⟨hmirrors, hfiles, hprogram⟩ := copyUnwritten_mirrors hm hwrite.mirrors
  rw [copied_holding hm hmem fun p => hwrite.mem_written fun f hf => (hprepared.files.2 f hf).1]
    at hmirrors
  unfold writeProject
  rw [hprepared.request, hout]
  refine ⟨hprogram.trans hwrite.program, hmirrors, ?_⟩
  obtain ⟨results, hadded, hpaths, -⟩ := hwrite.files
  dsimp only
  rw [hfiles, hadded, List.map_append, hpaths, hprepared.files.1, hrendered]
  refine (List.Perm.append_left _ (List.mergeSort_perm _ _)).trans ?_
  rw [hreadPaths]
  refine List.perm_append_comm.trans ?_
  simpa only [← Option.not_isSome] using
    List.filter_append_perm (fun p => (parsed? c d p).isSome) (d.sourceFiles r.root)

end Mirroring

/-! ## The whole run -/

theorem endWritten_frame (t : Task) (stopped : Bool) (j : Job) :
    (endWritten t stopped j).disk = j.disk ∧ (endWritten t stopped j).files = j.files ∧
      (endWritten t stopped j).program = j.program := by
  unfold endWritten
  split <;> exact ⟨rfl, rfl, rfl⟩

/-- A folder that is absent or empty, apart from the project, can get its copy. -/
theorem Mirroring.start {d : Disk} {root out : Path} (hm : Mirroring d root out)
    (hempty : ∀ node, d.node? out = some node → node = .folder [])
    (hparent : d.isFolder out.parent = true) : Mirrors d root out (fun _ => none) d := by
  rw [Disk.node?_eq hm.out_plain] at hempty
  refine Mirrors.start hm.folder ((Disk.isFolder_iff hm.out_plain.parent).1 hparent) ?_ ?_
  · intro names hne
    rw [Disk.lookup?, Node.lookup?_eq_none, Node.get?_append]
    cases hget : d.top.get? out.parts with
    | none => rfl
    | some node =>
      rw [hempty node hget, Option.bind_some, ← Node.lookup?_eq_none]
      exact Node.lookup?_empty_of_ne_nil hne
  · intro content hfile
    cases hempty _ (Node.lookup?_eq_file.1 hfile)

/-- A job leaves the project as it was and a copy of it behind: every file of the project at its place,
a source file with its rendered text if there is one and any other file with its own bytes, and no
other file. Every source file has one result. -/
structure Reproduces (c : Circumstances) (d : Disk) (root out : Path) (j : Job) : Prop where
  project : j.disk.node? root = d.node? root
  copies : ∀ p ∈ d.projectFiles root, ∃ names original, p = root.below names ∧
    d.read p = .ok original ∧
    j.disk.read (out.below names) =
      .ok (match if p ∈ d.sourceFiles root then rendered? c d j.program p else none with
        | some code => code.toUTF8
        | none => original)
  only : ∀ p, p.clean = p → p.isInside out = true → j.disk.isFile p = true →
    ∃ names, p = out.below names ∧ root.below names ∈ d.projectFiles root
  results : (j.files.map (·.path)).Perm (d.sourceFiles root)
  sources_nodup : (d.sourceFiles root).Nodup

/-- **A mirrored run reproduces the project.** Let the output folder be absent or empty inside an
existing folder, and apart from the project. When a run has written, it has reproduced the project
there. -/
theorem run_mirrors {c : Circumstances} {s : Settings} {r : Request} {d : Disk} {out : Path}
    (hout : r.output = some out) (hregular : d.top.Regular) (hroot : r.root.clean = r.root)
    (houtp : out.clean = out) (hempty : ∀ node, d.node? out = some node → node = .folder [])
    (hparent : d.isFolder out.parent = true) (hbelow : out.isInside r.root = false)
    (habove : r.root.isInside out = false)
    (hwritten : (run c s r d).summary.totals.isSome = true) :
    Reproduces c d r.root out (run c s r d) := by
  rcases run_cases c s r d with ⟨htotals, -⟩ | ⟨t, j, stopped, hprepared, hrun⟩
  · rw [htotals] at hwritten
    cases hwritten
  have hrootp := Path.plain_iff.2 hroot
  have houtPlain := Path.plain_iff.2 houtp
  have hm : Mirroring d r.root out :=
    { root_plain := hrootp
      out_plain := houtPlain
      apart := by
        constructor
        · rw [← Path.isInside_iff houtPlain hrootp, hbelow]
          simp
        · rw [← Path.isInside_iff hrootp houtPlain, habove]
          simp
      regular := hregular
      folder := (Disk.isFolder_iff hrootp).1 hprepared.root }
  obtain ⟨hprogram, hmirrors, hfiles⟩ := Mirroring.writeProject_mirrors hm hout hprepared
    hprepared.deletesWithin (hm.start hempty hparent)
  obtain ⟨hdisk, hresults, hprogram'⟩ := endWritten_frame t stopped (writeProject c t j)
  rw [← hdisk, ← hrun] at hmirrors
  rw [← hprogram, ← hprogram', ← hrun] at hmirrors
  rw [← hresults, ← hrun] at hfiles
  refine ⟨hm.node?_root hmirrors, ?_, ?_, hfiles,
    Disk.nodup_collect hrootp hregular hm.folder _ _⟩
  · intro p hp
    obtain ⟨names, original, rfl, hplain, hsource⟩ := hm.exists_of_mem hp
    refine ⟨names, original, rfl, ?_, ?_⟩
    · rw [Disk.read_eq_ok (hrootp.below hplain), Path.below_parts, hsource]
    · rw [Disk.read_eq_ok (houtPlain.below hplain), Path.below_parts, hmirrors.file]
      unfold Mirroring.mirrored
      rw [if_pos hp]
      split
      · rfl
      · simp [Mirroring.originalAt, hsource]
  · intro p hp hin hfile
    have hplain := Path.plain_iff.2 hp
    obtain ⟨names, hnames⟩ := (Path.isInside_iff hplain houtPlain).1 hin
    obtain ⟨content, hentry⟩ := (Disk.isFile_iff hplain).1 hfile
    have hname : p = out.below names :=
      Path.Plain.eq_of_parts hplain
        ⟨houtPlain.1, by rw [Path.below_parts, hnames]; exact hplain.2⟩ hnames.symm
    refine ⟨names, hname, ?_⟩
    rw [← hnames, hmirrors.file] at hentry
    by_contra hnot
    simp [Mirroring.mirrored, hnot] at hentry

/-- A project with a module, a file that is no program and a note. -/
def shelf : Disk where
  top := .folder [("shelf", .folder [("note.txt", .file "note".toUTF8),
    ("odd.py", .file "def (\n".toUTF8), ("parts", .folder [("top.py", .file "_N = 1\n".toUTF8)])])]

/-- A request for a copy of that project beside it. -/
def shelfRequest : Request where
  root := ⟨"/", ["shelf"]⟩
  target := ⟨"/", ["shelf"]⟩
  output := some ⟨"/", ["copy"]⟩

theorem shelf_regular : shelf.top.Regular := by
  refine .folder _ (by simp) (by simp) fun e he => ?_
  obtain rfl := List.mem_singleton.1 he
  refine .folder _ (by simp) (by simp) fun e he => ?_
  simp only [List.mem_cons, List.not_mem_nil, or_false] at he
  rcases he with rfl | rfl | rfl
  · exact .file _
  · exact .file _
  · refine .folder _ (by simp) (by simp) fun e he => ?_
    obtain rfl := List.mem_singleton.1 he
    exact .file _

/-- The copy does not exist before the run. -/
theorem run_mirrors_shelf :
    shelf.top.Regular ∧ shelf.contains ⟨"/", ["copy"]⟩ = false ∧
      (run {} .default shelfRequest shelf).summary.totals.isSome = true ∧
      Reproduces {} shelf ⟨"/", ["shelf"]⟩ ⟨"/", ["copy"]⟩ (run {} .default shelfRequest shelf) := by
  have habsent : shelf.contains ⟨"/", ["copy"]⟩ = false := by decide +kernel
  have hwritten : (run {} .default shelfRequest shelf).summary.totals.isSome = true :=
    run_writes_default (fun _ _ => rfl) (by decide +kernel)
  refine ⟨shelf_regular, habsent, hwritten, ?_⟩
  refine run_mirrors rfl shelf_regular (by decide +kernel) (by decide +kernel) ?_ (by decide +kernel)
    (by decide +kernel) (by decide +kernel) hwritten
  intro node hnode
  rw [Disk.contains, hnode] at habsent
  cases habsent

end Pseudonym.Project
