import Pseudonym.Proofs.Files.Mirror
import Pseudonym.Proofs.Project.Stages

/-!
# What a run writes

Every file that was read is rendered, and the result is written or the file is reported. The text
that a file gets is a function of the project and of the changes alone (`rendered?`).
-/

namespace Pseudonym.Project

open Files

/-! ## Rendered text -/

/-- The text that a source file gets by the changes to a program: it was read, it is rendered without
a fault, and the result is a program again. -/
def rendered? (c : Circumstances) (d : Disk) (program : Program) (p : Path) : Option String :=
  match parsed? c d p, c.fault? (.render p) with
  | some (reading, _), none =>
    (render reading.source (((planEdits program.graph program.changes).get? p).getD {})
      (program.changes.deletedIn (some p))).bind fun r => if r.valid then some r.code else none
  | _, _ => none

theorem parsed?_of_rendered? {c : Circumstances} {d : Disk} {program : Program} {p : Path}
    {code : String} (h : rendered? c d program p = some code) : (parsed? c d p).isSome = true := by
  unfold rendered? at h
  split at h
  · rename_i hread _
    simp [hread]
  · cases h

/-- Comments are deleted only in files of the scope. -/
def DeletesWithin (scope : List Path) (program : Program) : Prop :=
  ∀ e ∈ program.changes.deleted, ∃ q ∈ scope, e.1 = some q

theorem DeletesWithin.deletedIn {scope : List Path} {program : Program}
    (h : DeletesWithin scope program) (p : Path) :
    (if scope.contains p then program.changes.deletedIn (some p) else []) =
      program.changes.deletedIn (some p) := by
  split
  · rfl
  · rename_i hp
    have hfind : program.changes.deleted.find? (·.1 = some p) = none := by
      rw [List.find?_eq_none]
      intro e he hkey
      obtain ⟨q, hq, heq⟩ := h e he
      rw [heq] at hkey
      have hqp : q = p := by simpa using hkey
      exact hp (by simpa [← hqp] using hq)
    simp [Changes.deletedIn, hfind]

section Deleted

variable {σ : Type} [Candidates σ]

theorem rename_deleted (changes : Changes) (g : Graph) (plan : Plan) :
    (changes.rename g plan).2.2.deleted = changes.deleted := by
  unfold Changes.rename
  split <;> rfl

theorem search_deleted (policy : Policy) (s : Symbol) : ∀ (left : Nat) (o : Outcome)
    (program : Program) (source : σ),
    (Workflow.search policy s left o program source).2.1.changes.deleted = program.changes.deleted
  | 0, _, _, _ => rfl
  | left + 1, o, program, source => by
    rw [Workflow.search]
    dsimp only
    split
    · exact search_deleted policy s left _ program _
    · have hsame := rename_deleted program.changes
        (Workflow.buildPlan policy.accessors program.graph s (Workflow.candidate source s).1).2
        (Workflow.buildPlan policy.accessors program.graph s (Workflow.candidate source s).1).1
      split
      · rename_i heq
        rw [heq] at hsame
        exact hsame
      · rename_i heq
        rw [heq] at hsame
        exact (search_deleted policy s left _ _ _).trans hsame

theorem process_deleted (w : Workflow σ) (program : Program) (s : Symbol) :
    (w.process program s).2.2.changes.deleted = program.changes.deleted := by
  unfold Workflow.process
  dsimp only
  split
  · exact search_deleted ..
  · rfl

end Deleted

theorem mem_recordComment {comment : Comment} {deleted : List (Option Path × List Comment)}
    {e : Option Path × List Comment} (h : e ∈ Changes.recordComment comment deleted) :
    e.1 = comment.file ∨ ∃ e' ∈ deleted, e'.1 = e.1 := by
  induction deleted with
  | nil =>
    obtain rfl : e = (comment.file, [comment]) := by simpa [Changes.recordComment] using h
    exact .inl rfl
  | cons entry rest ih =>
    obtain ⟨file, comments⟩ := entry
    rw [Changes.recordComment] at h
    split at h
    · rename_i heq
      rcases List.mem_cons.1 h with rfl | hrest
      · exact .inl heq
      · exact .inr ⟨e, List.mem_cons_of_mem _ hrest, rfl⟩
    · rcases List.mem_cons.1 h with rfl | hrest
      · exact .inr ⟨_, List.mem_cons_self, rfl⟩
      · exact (ih hrest).imp_right fun ⟨e', he', heq⟩ => ⟨e', List.mem_cons_of_mem _ he', heq⟩

theorem Prepared.get?_path {c : Circumstances} {s : Settings} {r : Request} {d : Disk} {t : Task}
    {j : Job} (h : Prepared c s r d t j) {p : Path} {reading : Reading × Python.Tree}
    (hget : t.readings.get? p = some reading) : reading.1.path = p := by
  rw [h.readings, Readings.get?, Option.map_eq_some_iff] at hget
  obtain ⟨e, hfind, rfl⟩ := hget
  have hkey : e.1 = p := by simpa using List.find?_some hfind
  have hread := (mem_readingsOf.1 (List.mem_of_find?_eq_some hfind)).2
  rw [parsed?_reading hread, hkey]
  unfold readSource
  split <;> rfl

/-- When a run starts to write, it deletes comments only in files of the scope. -/
theorem Prepared.deletesWithin {c : Circumstances} {s : Settings} {r : Request} {d : Disk} {t : Task}
    {j : Job} (h : Prepared c s r d t j) : DeletesWithin t.scope j.program := by
  obtain ⟨chain, j₀, hstart, hprogram⟩ := h.program
  rw [hprogram]
  refine chooseNames_induction (fun p r hget => h.get?_path hget) ?_ ?_ ?_ ?_
  · rw [hstart]
    intro e he
    cases he
  · intro p symbol changes hp _ hinline
    unfold Changes.inline at hinline
    split at hinline
    · cases hinline
    · cases hinline
      split <;> exact hp
  · rintro p comment changes hp ⟨q, hq, hfile⟩ hdelete e he
    unfold Changes.deleteComment at hdelete
    split at hdelete
    · cases hdelete
    · cases hdelete
      rcases mem_recordComment he with hnew | ⟨e', he', hkey⟩
      · exact ⟨q, hq, hnew.trans hfile⟩
      · exact hkey ▸ hp e' he'
  · intro w p symbol hp _ e he
    rw [process_deleted] at he
    exact hp e he

/-! ## One file -/

section One

variable {c : Circumstances} {t : Task} {d : Disk} {p : Path} {r : Reading × Python.Tree} {j : Job}

/-- A file without a rendered text is reported. -/
theorem writeOne_of_none (hdeletes : DeletesWithin t.scope j.program)
    (hread : parsed? c d p = some r) (h : rendered? c d j.program p = none) :
    ∃ text, writeOne c t (planEdits j.program.graph j.program.changes) p r.1.source j =
      j.addFile { path := p, errors := [text] } := by
  unfold writeOne
  unfold rendered? at h
  cases hfault : c.fault? (.render p) with
  | some text => exact ⟨_, rfl⟩
  | none =>
    rw [hread, hfault] at h
    dsimp only at h ⊢
    rw [hdeletes.deletedIn p]
    split
    · exact ⟨_, rfl⟩
    · rename_i out hout
      rw [hout] at h
      cases hvalid : out.valid with
      | false => exact ⟨_, rfl⟩
      | true => simp [hvalid] at h

/-- A file with a rendered text is written to its place, if it has one. -/
theorem writeOne_of_some (hdeletes : DeletesWithin t.scope j.program)
    (hread : parsed? c d p = some r) {code : String} (h : rendered? c d j.program p = some code) :
    writeOne c t (planEdits j.program.graph j.program.changes) p r.1.source j =
      match outputPath? t.request p r.1.source code with
      | none => j.addFile { path := p }
      | some output =>
        match writeFile j.disk output code with
        | .error e => j.addFile { path := p
                                  errors := ["Failed to render or write " ++ p.text ++ ": " ++
                                    e.message] }
        | .ok disk => { j with disk }.addFile { path := p, output := some output } := by
  unfold writeOne
  unfold rendered? at h
  cases hfault : c.fault? (.render p) with
  | some text => simp [hfault, hread] at h
  | none =>
    rw [hread, hfault] at h
    obtain ⟨out, hout, hcode⟩ := Option.bind_eq_some_iff.1 h
    cases hvalid : out.valid with
    | false => simp [hvalid] at hcode
    | true =>
      obtain rfl : out.code = code := by simpa [hvalid] using hcode
      dsimp only
      rw [hdeletes.deletedIn p, hout]
      exact if_neg (by simp [hvalid])

end One

/-- A file is reported without an output, or its text is written. -/
theorem writeOne_cases (c : Circumstances) (t : Task) (plan : EditPlan) (p : Path) (source : String)
    (j : Job) :
    (∃ f : FileResult, f.path = p ∧ f.output = none ∧ writeOne c t plan p source j = j.addFile f) ∨
      ∃ code output disk, outputPath? t.request p source code = some output ∧
        writeFile j.disk output code = .ok disk ∧
        writeOne c t plan p source j =
          { j with disk }.addFile { path := p, output := some output } := by
  unfold writeOne
  dsimp only
  split
  · exact .inl ⟨_, rfl, rfl, rfl⟩
  · split
    · exact .inl ⟨_, rfl, rfl, rfl⟩
    · rename_i out _
      split
      · exact .inl ⟨_, rfl, rfl, rfl⟩
      · split
        · exact .inl ⟨_, rfl, rfl, rfl⟩
        · rename_i output houtput
          split
          · exact .inl ⟨_, rfl, rfl, rfl⟩
          · rename_i disk hdisk
            exact .inr ⟨out.code, output, disk, houtput, hdisk, rfl⟩

/-! ## A mirrored copy -/

section Mirror

variable {d d' : Disk} {root out : Path} {held : List String → Option ByteArray}
  {names : List String} {original : ByteArray}

theorem exists_writeFile (h : Mirrors d root out held d') (hout : out.Plain)
    (hroot : d.lookup? root.parts = some .folder) (hplain : ".." ∉ names)
    (hsource : d.lookup? (root.parts ++ names) = some (.file original)) (code : String) :
    ∃ d₂, writeFile d' (out.below names) code = .ok d₂ ∧
      Mirrors d root out (Function.update held names (some code.toUTF8)) d₂ := by
  have hne := Mirrors.ne_nil_of_source hroot hsource
  obtain ⟨d₁, hmade, hmirrors, hdir⟩ := h.exists_ensureFolder hout hplain hsource hne
  obtain ⟨d₂, hwritten, hmirrors'⟩ := hmirrors.exists_write hout hplain hsource hdir hne code.toUTF8
  refine ⟨d₂, ?_, hmirrors'⟩
  simp only [writeFile, hmade, bind, Except.bind]
  exact hwritten

/-- A file of the project can be copied, and then the mirror holds its bytes. -/
theorem exists_copy (h : Mirrors d root out held d') (hrootp : root.Plain) (hout : out.Plain)
    (hapart : root.Apart out) (hroot : d.lookup? root.parts = some .folder) (hplain : ".." ∉ names)
    (hsource : d.lookup? (root.parts ++ names) = some (.file original)) :
    ∃ d₂, (do let d ← d'.ensureFolder (out.below names).parent
              d.copy (root.below names) (out.below names)) = .ok d₂ ∧
      Mirrors d root out (Function.update held names (some original)) d₂ := by
  have hne := Mirrors.ne_nil_of_source hroot hsource
  obtain ⟨d₁, hmade, hmirrors, hdir⟩ := h.exists_ensureFolder hout hplain hsource hne
  obtain ⟨d₂, hwritten, hmirrors'⟩ := hmirrors.exists_write hout hplain hsource hdir hne original
  refine ⟨d₂, ?_, hmirrors'⟩
  have hfolder : ¬ d₁.isFolder (out.below names) = true := by
    rw [Disk.isFolder_iff (hout.below hplain)]
    exact hmirrors.ne_folder hsource
  have hread : d₁.read (root.below names) = .ok original := by
    rw [Disk.read_eq_ok (hrootp.below hplain), Path.below_parts, hmirrors.lookup?_root hapart, hsource]
  simp [hmade, Disk.copy, hfolder, hread, hwritten, bind, Except.bind]

end Mirror

end Pseudonym.Project
