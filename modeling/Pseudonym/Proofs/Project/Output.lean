import Pseudonym.Proofs.Project.Mirror
import Pseudonym.Proofs.Project.Program

/-!
# Output folders inside the project

An output folder may lie inside the project, and then it may hold the output of an earlier run. Files
in it are never copied, but they are read like all sources of the project. So a place in it stays out
of a run as long as no source there can be read, whatever other files there are
(`run_ignoresOutput`), and a program among them becomes a module of the project
(`not_ignoresOutput_rerun`).

What carries the proof is that a place in the output is changed only by a file whose own place in the
project leads there: a write makes folders above its target and the target, nothing else
(`Spares.kept_of_frame`). So the node at the place of a spared file is the same before and after each
file that is written or copied (`Spares`), and the results never name that file (`SparesWith`); both
are kept by one step and then by all of them.
-/

namespace Pseudonym.Project

open Files

/-- A place inside the output folder is no source: it is no module of the project, and nothing is
written or copied to the place that a file there would have in the output. -/
structure IgnoresPlace (c : Circumstances) (s : Settings) (r : Request) (d : Disk) (out p : Path) :
    Prop where
  registered : ∀ t j, Prepared c s r d t j → ∀ m ∈ t.extraction.modules, m.editable = true →
    m.path ≠ p
  written : ∀ f ∈ (run c s r d).files, f.output.isSome = true → f.path ≠ p
  kept : (run c s r d).disk.node? (out.append ((p.relativeTo? r.root).getD p)) =
    d.node? (out.append ((p.relativeTo? r.root).getD p))

/-- **Earlier output is no source**: no place inside the output folder is. -/
def IgnoresOutput (c : Circumstances) (s : Settings) (r : Request) (d : Disk) (out : Path) : Prop :=
  ∀ p : Path, p.clean = p → p.isInside out = true → IgnoresPlace c s r d out p

/-! ## What stays in its place -/

/-- An output folder inside the project, both given by plain paths, and the names that lead from the
project to a place inside the output folder. -/
structure Nested (root out : Path) (place : List String) : Prop where
  root_plain : root.Plain
  out_plain : out.Plain
  inside : root.parts <+: out.parts
  within : out.parts <+: root.parts ++ place

/-- Names that lead to a place in the project outside the output folder. -/
structure Outside (root out : Path) (names : List String) : Prop where
  plain : ".." ∉ names
  ne_nil : names ≠ []
  outside : ¬ out.parts <+: root.parts ++ names

/-- Names that lead neither to a place nor to anything below it. -/
structure Elsewhere (place names : List String) : Prop where
  plain : ".." ∉ names
  ne_nil : names ≠ []
  apart : ¬ place <+: names

theorem Outside.elsewhere {root out : Path} {place names : List String} (h : Outside root out names)
    (hn : Nested root out place) : Elsewhere place names :=
  ⟨h.plain, h.ne_nil, fun hpre =>
    h.outside (hn.within.trans ((List.prefix_append_right_inj _).2 hpre))⟩

theorem Elsewhere.below_ne {place names : List String} (h : Elsewhere place names) (root : Path) :
    root.below names ≠ root.below place := by
  intro heq
  have hparts := congrArg Path.parts heq
  rw [Path.below_parts, Path.below_parts, List.append_right_inj] at hparts
  exact h.apart (hparts ▸ List.prefix_refl _)

theorem Outside.of_isInside {root out : Path} {place names : List String}
    (hn : Nested root out place) (hplain : ".." ∉ names) (hne : names ≠ []) (h : (root.below names).isInside out = false) :
    Outside root out names := by
  refine ⟨hplain, hne, ?_⟩
  rw [← Path.below_parts, ← Path.isInside_iff (hn.root_plain.below hplain) hn.out_plain, h]
  simp

/-- The project is a folder, and what a place inside the output folder would have for its place in the
output is as it was. -/
structure Spares (d : Disk) (root out : Path) (place : List String) (d' : Disk) : Prop where
  regular : d'.top.Regular
  folder : d'.lookup? root.parts = some .folder
  kept : d'.top.get? (out.parts ++ place) = d.top.get? (out.parts ++ place)

section Steps

variable {c : Circumstances} {t : Task} {d d₁ d₂ : Disk} {root out : Path} {place names : List String}

/-- A change on the way to a place in the output spares all places that it does not lead through. -/
theorem Spares.kept_of_frame (h : Spares d root out place d₁)
    (hframe : ∀ q, ¬ q <+: out.parts ++ names → d₂.top.get? q = d₁.top.get? q)
    (ho : Elsewhere place names) :
    d₂.top.get? (out.parts ++ place) = d.top.get? (out.parts ++ place) :=
  (hframe _ fun hq => ho.apart ((List.prefix_append_right_inj _).1 hq)).trans h.kept

theorem Spares.ensureFolder (h : Spares d root out place d₁) (hn : Nested root out place)
    (ho : Elsewhere place names) (hok : d₁.ensureFolder (out.below names).parent = .ok d₂) :
    Spares d root out place d₂ := by
  have hparent := (hn.out_plain.below ho.plain).parent
  have hmade := Disk.madeFolder_of_ensureFolder hparent hok
  refine ⟨Disk.regular_of_ensureFolder hparent h.regular hok, ?_, ?_⟩
  · rw [hmade.entry]
    split
    · rfl
    · exact h.folder
  · refine h.kept_of_frame (fun q hq => hmade.node q fun hpre => ?_) ho
    exact hq (hpre.trans (List.dropLast_prefix _))

theorem Spares.write (h : Spares d root out place d₁) (hn : Nested root out place)
    (ho : Elsewhere place names) {content : ByteArray}
    (hok : d₁.write (out.below names) content = .ok d₂) : Spares d root out place d₂ := by
  have hplain := hn.out_plain.below ho.plain
  have htop : d₁.top.isFolder = true := by
    cases htop : d₁.top with
    | folder entries => rfl
    | file content =>
      have hfile : d₁.lookup? [] = some (.file content) := by rw [Disk.lookup?, htop]; rfl
      exact absurd hfile (Disk.clear_of_folder h.folder [] content List.nil_prefix)
  have hwrote := Disk.wrote_of_write hplain htop hok
  refine ⟨Disk.regular_of_write hplain h.regular hok, ?_, h.kept_of_frame hwrote.node ho⟩
  have hne : root.parts ≠ (out.below names).parts := by
    intro heq
    have hlen := congrArg List.length heq
    have hle := hn.inside.length_le
    have hpos := List.length_pos_iff.2 ho.ne_nil
    rw [Path.below_parts, List.length_append] at hlen
    omega
  rw [hwrote.entry, if_neg hne]
  exact h.folder

theorem Spares.writeFile (h : Spares d root out place d₁) (hn : Nested root out place)
    (ho : Elsewhere place names) {code : String}
    (hok : Project.writeFile d₁ (out.below names) code = .ok d₂) : Spares d root out place d₂ := by
  unfold Project.writeFile at hok
  cases hmade : d₁.ensureFolder (out.below names).parent with
  | error e => simp [hmade, bind, Except.bind] at hok
  | ok d' =>
    simp only [hmade, bind, Except.bind] at hok
    exact (h.ensureFolder hn ho hmade).write hn ho hok

/-- A copy into a folder that stands in the place of a file does not get inside the output folder
either: that folder would lie below the output folder, and the output folder below the file. -/
theorem Spares.copy (h : Spares d root out place d₁) (hn : Nested root out place)
    (ho : Outside root out names) (hok : d₁.copy (root.below names) (out.below names) = .ok d₂) :
    Spares d root out place d₂ := by
  unfold Disk.copy at hok
  cases hread : d₁.read (root.below names) with
  | error e => simp [hread, bind, Except.bind] at hok
  | ok content =>
    simp only [hread, bind, Except.bind] at hok
    split at hok
    · rename_i hfolder
      have hchild : (out.below names).child (root.below names).name =
          out.below (names ++ [names.getLast ho.ne_nil]) := by
        simp [Path.child, Path.below, Path.name, List.getLast?_eq_getLast_of_ne_nil, ho.ne_nil]
      rw [hchild] at hok
      have houtside : Outside root out (names ++ [names.getLast ho.ne_nil]) := by
        refine ⟨?_, by simp, fun hin => ?_⟩
        · have hlast := List.getLast_mem ho.ne_nil
          have := ho.plain
          grind
        · rw [← List.append_assoc] at hin
          have hself := (List.prefix_concat_iff.1 hin).resolve_right ho.outside
          have hfile := (Disk.read_eq_ok (hn.root_plain.below ho.plain)).1 hread
          have hdir := (Disk.isFolder_iff (hn.out_plain.below ho.plain)).1 hfolder
          have hpre : (root.below names).parts <+: (out.below names).parts := by
            rw [Path.below_parts, Path.below_parts, hself, List.append_assoc]
            exact List.prefix_append _ _
          exact Disk.clear_of_folder hdir _ content hpre hfile
      exact h.write hn (houtside.elsewhere hn) hok
    · exact h.write hn (ho.elsewhere hn) hok

/-! ## Writing and copying -/

/-- What a run leaves behind while it writes: the place is spared, and no result with an output is of
a file there. -/
structure SparesWith (d : Disk) (root out : Path) (place : List String) (j : Job) : Prop where
  disk : Spares d root out place j.disk
  files : ∀ f ∈ j.files, f.output.isSome = true → f.path ≠ root.below place

theorem writeOne_spares (hn : Nested root out place) (hout : t.request.output = some out)
    (hroot : t.request.root = root) {plan : EditPlan} {source : String} {j : Job}
    (h : SparesWith d root out place j) (ho : Elsewhere place names) :
    SparesWith d root out place (writeOne c t plan (root.below names) source j) := by
  rcases writeOne_cases c t plan (root.below names) source j with
    ⟨f, hpath, hnone, heq⟩ | ⟨code, output, disk, houtput, hwritten, heq⟩
  · rw [heq]
    refine ⟨h.disk, fun g hg hsome => ?_⟩
    rcases List.mem_append.1 hg with hg | hg
    · exact h.files g hg hsome
    · obtain rfl := List.mem_singleton.1 hg
      rw [hnone] at hsome
      cases hsome
  · have hplace : output = out.below names := by
      rw [outputPath?, hout, hroot] at houtput
      exact (Option.some.inj houtput).symm.trans (Path.append_relativeTo? root out names)
    rw [heq]
    refine ⟨h.disk.writeFile hn ho (hplace ▸ hwritten), fun g hg hsome => ?_⟩
    rcases List.mem_append.1 hg with hg | hg
    · exact h.files g hg hsome
    · obtain rfl := List.mem_singleton.1 hg
      exact ho.below_ne root

theorem writeAll_spares (hn : Nested root out place) (hout : t.request.output = some out)
    (hroot : t.request.root = root) {plan : EditPlan} {total : Nat} :
    ∀ (done : Nat) (ps : List Path) (j : Job), SparesWith d root out place j →
    (∀ p ∈ ps, ∃ names, p = root.below names ∧ Elsewhere place names) →
    SparesWith d root out place (writeAll c t plan total done ps j)
  | _, [], _, h, _ => h
  | done, p :: rest, j, h, hps => by
    obtain ⟨names, rfl, ho⟩ := hps p List.mem_cons_self
    rw [writeAll]
    generalize ((t.readings.get? (root.below names)).map (·.1.source)).getD "" = source
    have hone : SparesWith d root out place (writeOne c t plan (root.below names) source j) :=
      writeOne_spares hn hout hroot h ho
    exact writeAll_spares hn hout hroot (done + 1) rest _ ⟨hone.disk, hone.files⟩
      fun q hq => hps q (List.mem_cons_of_mem _ hq)

theorem copyOne_spares (hn : Nested root out place) {n : Nat} {j : Job}
    (h : SparesWith d root out place j) (ho : Outside root out names) :
    SparesWith d root out place (copyOne root out (root.below names) n j).2 := by
  unfold copyOne
  rw [Path.append_relativeTo?]
  dsimp only
  cases hmade : j.disk.ensureFolder (out.below names).parent with
  | error e => exact ⟨h.disk, h.files⟩
  | ok d₁ =>
    simp only [bind, Except.bind]
    cases hcopied : d₁.copy (root.below names) (out.below names) with
    | error e => exact ⟨h.disk, h.files⟩
    | ok d₂ => exact ⟨(h.disk.ensureFolder hn (ho.elsewhere hn) hmade).copy hn ho hcopied, h.files⟩

/-- Whatever is copied lies outside the output folder. -/
theorem copyUnwritten_spares (hn : Nested root out place) {j : Job}
    (h : SparesWith d root out place j) : SparesWith d root out place (copyUnwritten root out j) := by
  have fold : ∀ (ps : List Path) (state : Nat × Job),
      (∀ p ∈ ps, ∃ names, p = root.below names ∧ Outside root out names) →
      SparesWith d root out place state.2 →
      SparesWith d root out place
        (ps.foldl (fun state p => copyOne root out p state.1 state.2) state).2 := by
    intro ps
    induction ps with
    | nil => intro state _ h; exact h
    | cons p rest ih =>
      intro state hps hstate
      obtain ⟨names, rfl, ho⟩ := hps p List.mem_cons_self
      exact ih _ (fun q hq => hps q (List.mem_cons_of_mem _ hq)) (copyOne_spares hn hstate ho)
  have hall := fold (Mirroring.unwritten j.disk root out j.files) (0, j) (fun p hp => ?_) h
  · exact ⟨hall.disk, hall.files⟩
  · obtain ⟨hp, hcopied⟩ := List.mem_filter.1 hp
    obtain ⟨names, original, rfl, hplain, hsource⟩ :=
      Disk.exists_of_mem_collect hn.root_plain h.disk.regular h.disk.folder hp
    have houtside : (root.below names).isInside out = false := by
      simpa using (Bool.and_eq_true_iff.1 hcopied).2
    exact ⟨names, rfl, .of_isInside hn hplain
      (Mirrors.ne_nil_of_source h.disk.folder hsource) houtside⟩

end Steps

/-! ## Whole runs -/

section Run

variable {c : Circumstances} {s : Settings} {r : Request} {d : Disk} {out : Path}
  {place : List String}

/-- A file that was read lies elsewhere if no source at a place can be read. -/
theorem Prepared.elsewhere_of_mem {t : Task} {j : Job} (h : Prepared c s r d t j)
    (hregular : d.top.Regular) (hn : Nested r.root out place)
    (hunread : ∀ names, ".." ∉ names → place <+: names → r.root.below names ∈ d.sourceFiles r.root →
      parsed? c d (r.root.below names) = none) {p : Path} (hp : p ∈ t.readings.map (·.1)) :
    ∃ names, p = r.root.below names ∧ Elsewhere place names := by
  have hfolder : d.lookup? r.root.parts = some .folder :=
    (Disk.isFolder_iff hn.root_plain).1 h.root
  rw [h.readings, map_fst_readingsOf, List.mem_filter] at hp
  obtain ⟨names, original, rfl, hplain, hsource⟩ :=
    Disk.exists_of_mem_collect hn.root_plain hregular hfolder hp.1
  refine ⟨names, rfl, hplain, Mirrors.ne_nil_of_source hfolder hsource, fun hpre => ?_⟩
  have hsome := hp.2
  rw [hunread names hplain hpre hp.1] at hsome
  cases hsome

theorem writeProject_spares (hn : Nested r.root out place) (hregular : d.top.Regular)
    (hout : r.output = some out)
    (hunread : ∀ names, ".." ∉ names → place <+: names → r.root.below names ∈ d.sourceFiles r.root →
      parsed? c d (r.root.below names) = none) {t : Task} {j : Job} (h : Prepared c s r d t j) :
    SparesWith d r.root out place (writeProject c t j) := by
  have hout' : t.request.output = some out := by rw [h.request, hout]
  have hfolder : d.lookup? r.root.parts = some .folder :=
    (Disk.isFolder_iff hn.root_plain).1 h.root
  have hstart : SparesWith d r.root out place j := by
    refine ⟨h.disk.symm ▸ ⟨hregular, hfolder, rfl⟩, fun f hf hsome => ?_⟩
    rw [(h.files.2 f hf).1] at hsome
    cases hsome
  have hwritten : SparesWith d r.root out place (writeAll c t
      (planEdits j.program.graph j.program.changes) (renderedFiles t j).length 0
      (renderedFiles t j) j) := by
    refine writeAll_spares hn hout' (by rw [h.request]) 0 _ j hstart fun p hp => ?_
    rw [renderedFiles, hout', Path.sort, List.mem_mergeSort] at hp
    exact h.elsewhere_of_mem hregular hn hunread hp
  unfold writeProject
  rw [hout', h.request]
  exact copyUnwritten_spares hn hwritten

/-- **Earlier output stays out of a run**: a place inside the output folder is no source as long as no
source file there, or below it, can be read. -/
theorem run_ignoresOutput (hregular : d.top.Regular) (hroot : r.root.clean = r.root)
    (houtp : out.clean = out) (hout : r.output = some out) (hin : out.isInside r.root = true)
    {p : Path} (hp : p.clean = p) (hinside : p.isInside out = true)
    (hunread : ∀ q ∈ d.sourceFiles r.root, q.isInside p = true → parsed? c d q = none) :
    IgnoresPlace c s r d out p := by
  have hrootPlain := Path.plain_iff.2 hroot
  have houtPlain := Path.plain_iff.2 houtp
  have hplain := Path.plain_iff.2 hp
  have hinRoot := (Path.isInside_iff houtPlain hrootPlain).1 hin
  have hinOut := (Path.isInside_iff hplain houtPlain).1 hinside
  obtain ⟨place, hplace⟩ := hinRoot.trans hinOut
  obtain rfl : p = r.root.below place := hplain.eq_of_parts
    ⟨hrootPlain.1, by rw [Path.below_parts, hplace]; exact hplain.2⟩ hplace.symm
  have hplacePlain : ".." ∉ place := fun hmem => hplain.2 (hplace ▸ List.mem_append_right _ hmem)
  have hn : Nested r.root out place := ⟨hrootPlain, houtPlain, hinRoot, hplace ▸ hinOut⟩
  have hnone : ∀ names, ".." ∉ names → place <+: names → r.root.below names ∈ d.sourceFiles r.root →
      parsed? c d (r.root.below names) = none := by
    intro names hnames hpre hmem
    refine hunread _ hmem ((Path.isInside_iff (hrootPlain.below hnames) hplain).2 ?_)
    rw [Path.below_parts, Path.below_parts]
    exact (List.prefix_append_right_inj _).2 hpre
  refine ⟨?_, ?_, ?_⟩
  · intro t j h m hm heditable
    obtain ⟨j₀, -, hextract⟩ := h.extraction
    obtain ⟨ms, x₀, -, hfrom, -, hmodules⟩ := extract_gathered hextract
    obtain ⟨e, he, hpath, -, -⟩ := hfrom m (hmodules ▸ hm) heditable
    obtain ⟨names, hnames, ho⟩ := h.elsewhere_of_mem hregular hn hnone (List.mem_map_of_mem he)
    rw [hpath, hnames]
    exact ho.below_ne r.root
  · rcases run_cases c s r d with ⟨-, -, hunwritten⟩ | ⟨t, j, stopped, hprepared, hrun⟩
    · intro f hf hsome
      rw [hunwritten f hf] at hsome
      cases hsome
    · rw [hrun, (endWritten_frame t stopped _).2.1]
      exact (writeProject_spares hn hregular hout hnone hprepared).files
  · rw [Path.append_relativeTo?, Disk.node?_eq (houtPlain.below hplacePlain),
      Disk.node?_eq (houtPlain.below hplacePlain)]
    rcases run_cases c s r d with ⟨-, hdisk, -⟩ | ⟨t, j, stopped, hprepared, hrun⟩
    · rw [hdisk]
    · rw [hrun, (endWritten_frame t stopped _).1]
      exact (writeProject_spares hn hregular hout hnone hprepared).disk.kept

end Run

/-- A request for a copy of a project inside it. -/
def deskRequest : Request where
  root := ⟨"/", ["desk"]⟩
  target := ⟨"/", ["desk"]⟩
  output := some ⟨"/", ["desk", "out"]⟩

/-- A project with an output folder that holds a program and a file that is none. -/
def desk : Disk where
  top := .folder [("desk", .folder [("main.py", .file "_N = 1\n".toUTF8),
    ("out", .folder [("main.py", .file "def (\n".toUTF8), ("old.py", .file "pass\n".toUTF8)])])]

/-- A file inside the output folder that is no program stays where it is, though one beside it is read
as a program. -/
theorem run_ignoresOutput_desk :
    desk.top.Regular ∧ ⟨"/", ["desk", "out", "main.py"]⟩ ∈ desk.sourceFiles ⟨"/", ["desk"]⟩ ∧
      (parsed? {} desk ⟨"/", ["desk", "out", "old.py"]⟩).isSome = true ∧
      IgnoresPlace {} .default deskRequest desk ⟨"/", ["desk", "out"]⟩
        ⟨"/", ["desk", "out", "main.py"]⟩ := by
  have hregular : desk.top.Regular := by
    refine .folder _ (by simp) (by simp) fun e he => ?_
    obtain rfl := List.mem_singleton.1 he
    refine .folder _ (by simp) (by simp) fun e he => ?_
    simp only [List.mem_cons, List.not_mem_nil, or_false] at he
    rcases he with rfl | rfl
    · exact .file _
    · refine .folder _ (by simp) (by simp) fun e he => ?_
      simp only [List.mem_cons, List.not_mem_nil, or_false] at he
      rcases he with rfl | rfl <;> exact .file _
  have hsources : ∀ p : Path, p ∈ desk.sourceFiles ⟨"/", ["desk"]⟩ ↔
      p ∈ [⟨"/", ["desk", "main.py"]⟩, ⟨"/", ["desk", "out", "main.py"]⟩,
        (⟨"/", ["desk", "out", "old.py"]⟩ : Path)] := by
    intro p
    rw [Disk.sourceFiles, Disk.collect_eq (by decide) rfl, Path.sort, List.mem_mergeSort]
    have hfound : (((Node.filesIn (Disk.isSkipped Disk.excludedFolders)
        [("main.py", .file "_N = 1\n".toUTF8), ("out", .folder [("main.py", .file "def (\n".toUTF8),
          ("old.py", .file "pass\n".toUTF8)])]).filter fun names =>
        Disk.hasSuffix (some Disk.sourceSuffixes) (names.getLast?.getD "")).map
          (Path.below ⟨"/", ["desk"]⟩)) =
        [⟨"/", ["desk", "main.py"]⟩, ⟨"/", ["desk", "out", "main.py"]⟩,
          ⟨"/", ["desk", "out", "old.py"]⟩] := by
      decide +kernel
    rw [hfound]
  refine ⟨hregular, (hsources _).2 (by simp), by decide +kernel, ?_⟩
  refine run_ignoresOutput hregular (by decide +kernel) (by decide +kernel) rfl (by decide +kernel)
    (by decide +kernel) (by decide +kernel) fun q hq hin => ?_
  have hq := (hsources q).1 hq
  simp only [List.mem_cons, List.not_mem_nil, or_false] at hq
  rcases hq with rfl | rfl | rfl
  · exact absurd hin (by decide +kernel)
  · have hnone : (parsed? {} desk ⟨"/", ["desk", "out", "main.py"]⟩).isNone = true := by
      decide +kernel
    exact Option.isNone_iff_eq_none.1 hnone
  · exact absurd hin (by decide +kernel)

/-- A project whose only source is the output of an earlier run. -/
def rerun : Disk where
  top := .folder [("desk", .folder [("out", .folder [("main.py", .file "pass\n".toUTF8)])])]

/-- A program inside the output folder becomes a module of the project. -/
theorem not_ignoresOutput_rerun :
    (⟨"/", ["desk", "out"]⟩ : Path).isInside ⟨"/", ["desk"]⟩ = true ∧
      ¬ IgnoresOutput {} .default deskRequest rerun ⟨"/", ["desk", "out"]⟩ := by
  refine ⟨by decide +kernel, fun h => ?_⟩
  have hwritten : (run {} .default deskRequest rerun).summary.totals.isSome = true :=
    run_writes_default (fun _ _ => rfl) (by decide +kernel)
  rcases run_cases {} .default deskRequest rerun with ⟨htotals, -⟩ | ⟨t, j, -, hprepared, -⟩
  · rw [htotals] at hwritten
    cases hwritten
  obtain ⟨o, hcheck, hlibraries⟩ := check_default
  obtain rfl : o = t.options := Except.ok.inj (hcheck.symm.trans hprepared.options)
  obtain ⟨y, hy, hmodules⟩ := hprepared.modules_eq (fun _ _ => rfl) hlibraries
  have hinside : (addModules {} deskRequest.root
      (readingsOf {} rerun (rerun.sourceFiles deskRequest.root)) {} { disk := rerun }).1.toOption.any
        (·.modules.any fun m => m.editable && m.path = ⟨"/", ["desk", "out", "main.py"]⟩) = true := by
    decide +kernel
  rw [hy] at hinside
  obtain ⟨m, hm, hregistered⟩ := List.any_eq_true.1 hinside
  rw [Bool.and_eq_true, decide_eq_true_iff] at hregistered
  exact (h _ (by decide +kernel) (by decide +kernel)).registered t j hprepared m (hmodules ▸ hm)
    hregistered.1 hregistered.2

end Pseudonym.Project
