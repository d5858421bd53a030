import Mathlib.Logic.Function.Basic
import Pseudonym.Proofs.Files.Disk

/-!
# Folders that mirror a project

A folder mirrors a project while files are put into it at the places they have in the project: every
file in it has one of the project at its place, and every folder in it a folder. Since a tree has no
file above another one, the next file always finds its folders and its place free, so that nothing
stops the mirror from being completed. Main statements: `Mirrors.start` (a folder that is absent or
empty), `Mirrors.exists_ensureFolder` and `Mirrors.exists_write` (what one more file does).
-/

namespace Pseudonym.Files

/-- The folder `out` of the disk `d'` holds files at places where the project has files, and nothing
else has changed since `d`. -/
structure Mirrors (d : Disk) (root out : Path) (held : List String → Option ByteArray) (d' : Disk) :
    Prop where
  above : d'.lookup? out.parts.dropLast = some .folder
  file : ∀ names content,
    d'.lookup? (out.parts ++ names) = some (.file content) ↔ held names = some content
  folder : ∀ names, d'.lookup? (out.parts ++ names) = some .folder →
    d.lookup? (root.parts ++ names) = some .folder
  source : ∀ names content, held names = some content →
    ∃ original, d.lookup? (root.parts ++ names) = some (.file original)
  outside : ∀ q, ¬ out.parts <+: q → ¬ q <+: out.parts → d'.top.get? q = d.top.get? q

/-- A place on the way into a folder leads to the folder or on from it. -/
theorem prefix_append_cases {q a b : List String} (h : q <+: a ++ b) :
    q <+: a ∨ ∃ m, q = a ++ m ∧ m <+: b := by
  rcases List.prefix_or_prefix_of_prefix h (List.prefix_append a b) with hq | ⟨m, rfl⟩
  · exact .inl hq
  · exact .inr ⟨m, rfl, (List.prefix_append_right_inj a).1 h⟩

/-- Neither of two folders contains the other. -/
def Path.Apart (p q : Path) : Prop := ¬ p.parts <+: q.parts ∧ ¬ q.parts <+: p.parts

namespace Mirrors

variable {d d' : Disk} {root out : Path} {held : List String → Option ByteArray}

/-- A folder that is absent or empty mirrors the project with no file yet. -/
theorem start (hroot : d.lookup? root.parts = some .folder)
    (habove : d.lookup? out.parts.dropLast = some .folder)
    (hempty : ∀ names, names ≠ [] → d.lookup? (out.parts ++ names) = none)
    (hfile : ∀ content, d.lookup? out.parts ≠ some (.file content)) :
    Mirrors d root out (fun _ => none) d where
  above := habove
  file names content := by
    by_cases hn : names = []
    · simpa [hn] using hfile content
    · simp [hempty names hn]
  folder names h := by
    by_cases hn : names = []
    · simpa [hn] using hroot
    · rw [hempty names hn] at h
      cases h
  source names content h := by cases h
  outside _ _ _ := rfl

/-- The project itself is as it was. -/
theorem get?_root (h : Mirrors d root out held d') (hapart : root.Apart out)
    (names : List String) : d'.top.get? (root.parts ++ names) = d.top.get? (root.parts ++ names) := by
  apply h.outside
  · intro hpre
    rcases List.prefix_or_prefix_of_prefix hpre (List.prefix_append root.parts names) with ho | hr
    · exact hapart.2 ho
    · exact hapart.1 hr
  · exact fun hpre => hapart.1 ((List.prefix_append root.parts names).trans hpre)

theorem lookup?_root (h : Mirrors d root out held d') (hapart : root.Apart out)
    (names : List String) : d'.lookup? (root.parts ++ names) = d.lookup? (root.parts ++ names) := by
  rw [Disk.lookup?, Node.lookup?, h.get?_root hapart, ← Node.lookup?, ← Disk.lookup?]

section Deposit

variable {names : List String} {original : ByteArray}

/-- Above a file of the project there are folders of the project. -/
theorem folder_above (hsource : d.lookup? (root.parts ++ names) = some (.file original))
    {m : List String} (hm : m <+: names) (hne : m ≠ names) :
    d.lookup? (root.parts ++ m) = some .folder := by
  apply Node.lookup?_above (q := root.parts ++ names)
  · simpa using hm
  · simpa using hne
  · rw [← Disk.lookup?, hsource]
    simp

theorem ne_nil_of_source (hroot : d.lookup? root.parts = some .folder)
    (hsource : d.lookup? (root.parts ++ names) = some (.file original)) : names ≠ [] := by
  rintro rfl
  rw [List.append_nil, hroot] at hsource
  cases hsource

/-- No folder stands in the place of a file. -/
theorem ne_folder (h : Mirrors d root out held d')
    (hsource : d.lookup? (root.parts ++ names) = some (.file original)) :
    d'.lookup? (out.parts ++ names) ≠ some .folder := by
  intro hfolder
  rw [h.folder names hfolder] at hsource
  cases hsource

/-- No file is held at a place above a file of the project. -/
theorem held_above (h : Mirrors d root out held d')
    (hsource : d.lookup? (root.parts ++ names) = some (.file original))
    {m : List String} (hm : m <+: names) (hne : m ≠ names) : held m = none := by
  cases hheld : held m with
  | none => rfl
  | some content =>
    obtain ⟨other, hother⟩ := h.source m content hheld
    rw [folder_above hsource hm hne] at hother
    cases hother

theorem clear (h : Mirrors d root out held d')
    (hsource : d.lookup? (root.parts ++ names) = some (.file original)) (hne : names ≠ []) :
    d'.Clear (out.parts ++ names.dropLast) := by
  intro q content hq hfile
  rcases prefix_append_cases hq with hout | ⟨m, rfl, hm⟩
  · rcases prefix_dropLast_or_eq hout with hdrop | rfl
    · exact Disk.clear_of_folder h.above q content hdrop hfile
    · have : held [] = some content := (h.file [] content).1 (by simpa using hfile)
      rw [h.held_above hsource List.nil_prefix (Ne.symm hne)] at this
      cases this
  · have hlt : m ≠ names := fun heq => not_prefix_dropLast hne (heq ▸ hm)
    have hheld := (h.file m content).1 hfile
    rw [h.held_above hsource (hm.trans (List.dropLast_prefix _)) hlt] at hheld
    cases hheld

/-- The folders above the place of a file can be made, and the mirror holds what it held. -/
theorem exists_ensureFolder (h : Mirrors d root out held d') (hout : out.Plain)
    (hplain : ".." ∉ names) (hsource : d.lookup? (root.parts ++ names) = some (.file original))
    (hne : names ≠ []) :
    ∃ d₁, d'.ensureFolder (out.below names).parent = .ok d₁ ∧ Mirrors d root out held d₁ ∧
      d₁.lookup? (out.parts ++ names).dropLast = some .folder := by
  have hdrop : (out.parts ++ names).dropLast = out.parts ++ names.dropLast :=
    List.dropLast_append_of_ne_nil hne
  have hparent : (out.below names).parent.parts = out.parts ++ names.dropLast := hdrop
  have hshort : ∀ m, m <+: names.dropLast → m <+: names ∧ m ≠ names := fun m hm =>
    ⟨hm.trans (List.dropLast_prefix _), fun heq => not_prefix_dropLast hne (heq ▸ hm)⟩
  obtain ⟨d₁, hok⟩ := Disk.exists_ensureFolder (hout.below hplain).parent
    (hparent ▸ h.clear hsource hne)
  have hmade := Disk.madeFolder_of_ensureFolder (hout.below hplain).parent hok
  rw [hparent] at hmade
  refine ⟨d₁, hok, ⟨?_, ?_, ?_, h.source, ?_⟩, ?_⟩
  · rw [hmade.entry, if_pos ((List.dropLast_prefix _).trans (List.prefix_append _ _))]
  · intro m content
    rw [hmade.entry, ← h.file]
    split
    · rename_i hm
      obtain ⟨hm, hlt⟩ := hshort m ((List.prefix_append_right_inj _).1 hm)
      have hnot := h.held_above hsource hm hlt
      rw [h.file, hnot]
      simp
    · rfl
  · intro m
    rw [hmade.entry]
    split
    · rename_i hm
      obtain ⟨hm, hlt⟩ := hshort m ((List.prefix_append_right_inj _).1 hm)
      exact fun _ => folder_above hsource hm hlt
    · exact h.folder m
  · intro q hoq hqo
    rw [← h.outside q hoq hqo]
    refine hmade.node q fun hq => ?_
    rcases prefix_append_cases hq with hqo' | ⟨_, rfl, _⟩
    · exact hqo hqo'
    · exact hoq (List.prefix_append _ _)
  · rw [hdrop, hmade.entry, if_pos (List.prefix_refl _)]

/-- A file can be written where its folder is there, and then the mirror holds it. -/
theorem exists_write (h : Mirrors d root out held d') (hout : out.Plain) (hplain : ".." ∉ names)
    (hsource : d.lookup? (root.parts ++ names) = some (.file original))
    (hdir : d'.lookup? (out.parts ++ names).dropLast = some .folder) (hne : names ≠ [])
    (content : ByteArray) :
    ∃ d₂, d'.write (out.below names) content = .ok d₂ ∧
      Mirrors d root out (Function.update held names (some content)) d₂ := by
  have hnot := h.ne_folder hsource
  have hwrote := Disk.wrote_put content hdir hnot
  refine ⟨_, Disk.write_eq_ok (hout.below hplain) content hdir hnot, ⟨?_, ?_, ?_, ?_, ?_⟩⟩
  · have : out.parts.dropLast ≠ out.parts ++ names := by
      intro heq
      have hlen := congrArg List.length heq
      have hpos := List.length_pos_iff.2 hne
      simp only [List.length_dropLast, List.length_append] at hlen
      omega
    exact (hwrote.entry _).trans ((if_neg this).trans h.above)
  · intro m other
    refine (Eq.congr_left (hwrote.entry _)).trans ?_
    by_cases hm : m = names
    · simp [hm]
    · simp [hm, h.file]
  · intro m hm
    have hm := (hwrote.entry _).symm.trans hm
    split at hm
    · cases hm
    · exact h.folder m hm
  · intro m other hm
    by_cases heq : m = names
    · exact ⟨original, heq ▸ hsource⟩
    · rw [Function.update_of_ne heq] at hm
      exact h.source m other hm
  · intro q hoq hqo
    rw [← h.outside q hoq hqo]
    refine hwrote.node q fun hq => ?_
    exact ( List.prefix_or_prefix_of_prefix hq (List.prefix_append _ _)).elim hqo hoq

end Deposit

end Mirrors

end Pseudonym.Files
