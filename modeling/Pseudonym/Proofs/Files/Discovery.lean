import Pseudonym.Proofs.Files.Disk

/-!
# What discovery finds

Discovery goes down every folder that it does not pass over, so that a file is found exactly where
the whole way to it is open (`Node.Regular.mem_files`). The order by components is the order of
lists (`Path.componentsLe_iff`), and as every file is found once, the paths that come out rise.
-/

namespace Pseudonym.Files

/-! ## The order of paths -/

namespace Path

/-- Component by component is how lists are compared. -/
theorem componentsLe_iff {as bs : List String} : componentsLe as bs ↔ as ≤ bs := by
  rw [← not_lt]
  fun_induction componentsLe as bs with
  | case1 => simp
  | case2 => simp
  | case3 as bs b ih => simpa [List.cons_lt_cons_iff] using ih
  | case4 a as b bs hne =>
      rw [List.cons_lt_cons_iff, decide_eq_true_iff]
      have hne' : b ≠ a := Ne.symm hne
      simp only [hne', false_and, or_false]
      exact ⟨not_lt_of_gt, fun h => lt_of_le_of_ne (not_lt.1 h) hne⟩

theorem eq_of_components {p q : Path} (hroot : p.root = q.root)
    (h : p.components = q.components) : p = q := by
  obtain ⟨root, parts⟩ := p
  obtain ⟨root', parts'⟩ := q
  obtain rfl : root = root' := hroot
  by_cases hrelative : root = "" <;> simpa [components, hrelative] using h

theorem sort_pairwise (ps : List Path) :
    (sort ps).Pairwise fun p q => p.components ≤ q.components := by
  have hsorted : (sort ps).Pairwise fun p q => le p q = true := by
    refine List.pairwise_mergeSort (fun p q r hpq hqr => ?_) (fun p q => ?_) ps
    · rw [le, componentsLe_iff] at hpq hqr ⊢
      exact hpq.trans hqr
    · rw [Bool.or_eq_true, le, le, componentsLe_iff, componentsLe_iff]
      exact le_total p.components q.components
  refine hsorted.imp fun h => ?_
  rwa [le, componentsLe_iff] at h

end Path

/-! ## The way to a file -/

namespace Node

variable {skip : String → Bool}

/-- What leads to a file is a folder, unless it is the file. -/
theorem isFolder_iff_of_get? {t : Node} {names : List String} {content : ByteArray}
    (h : t.get? names = some (.file content)) : t.isFolder ↔ names ≠ [] := by
  cases t with
  | file => cases names <;> simp_all [get?, isFolder]
  | folder => cases names <;> simp_all [get?, isFolder]

/-- A file is found where no folder on the way to it is passed over. -/
theorem Regular.mem_files {t : Node} (ht : t.Regular) {names : List String} :
    names ∈ files skip t ↔
      (∃ content, t.get? names = some (.file content)) ∧
        ∀ folder ∈ names.dropLast, ¬ skip folder := by
  induction ht generalizing names with
  | file content => cases names <;> simp [files, Node.get?]
  | folder entries nodup plain below ih =>
    rw [files, mem_filesIn]
    constructor
    · rintro ⟨name, node, rest, hmem, rfl, hopen, hrest⟩
      obtain ⟨⟨content, hget⟩, hway⟩ := (ih _ hmem).1 hrest
      refine ⟨⟨content, by simp [Node.get?, child?_of_mem nodup hmem, hget]⟩, ?_⟩
      -- Only a folder is passed over, so the last name, that of the file, may be any.
      cases rest with
      | nil => simp
      | cons next rest =>
        have hfolder := (isFolder_iff_of_get? hget).2 (List.cons_ne_nil next rest)
        exact List.forall_mem_cons.2 ⟨fun hskip => hopen ⟨hfolder, hskip⟩, hway⟩
    · rintro ⟨⟨content, hget⟩, hway⟩
      cases names with
      | nil => simp at hget
      | cons name rest =>
        obtain ⟨node, hchild, hget⟩ := Option.bind_eq_some_iff.1 hget
        have hmem := mem_of_child? hchild
        refine ⟨name, node, rest, hmem, rfl, ?_, (ih _ hmem).2 ⟨⟨content, hget⟩, ?_⟩⟩
        · rintro ⟨hfolder, hskip⟩
          have hne := (isFolder_iff_of_get? hget).1 hfolder
          rw [List.dropLast_cons_of_ne_nil hne] at hway
          exact hway name List.mem_cons_self hskip
        · cases rest with
          | nil => simp
          | cons next rest => exact (List.forall_mem_cons.1 hway).2

end Node

/-! ## The files of a folder -/

namespace Disk

variable {d : Disk} {root : Path} {excluded : List String} {suffixes : Option (List String)}

theorem isSkipped_iff {name : String} :
    isSkipped excluded name ↔ name ∈ excluded ∨ name.startsWith "." := by
  simp [isSkipped]

theorem hasSuffix_iff {name : String} :
    hasSuffix suffixes name ↔ ∀ endings, suffixes = some endings →
      ∃ ending ∈ endings, (Text.lower name).endsWith ending := by
  cases suffixes <;> simp [hasSuffix]

/-- The files below a folder that discovery is after: no folder on the way to them is excluded or
hidden, and their names end as wanted. -/
theorem mem_collect (hroot : root.Plain) (hregular : d.top.Regular)
    (hfolder : d.lookup? root.parts = some .folder) {p : Path} :
    p ∈ d.collect root excluded suffixes ↔
      ∃ folders name, p = root.below (folders ++ [name]) ∧
        (∃ content, d.lookup? p.parts = some (.file content)) ∧
        (∀ folder ∈ folders, folder ∉ excluded ∧ ¬ folder.startsWith ".") ∧
        ∀ endings, suffixes = some endings →
          ∃ ending ∈ endings, (Text.lower name).endsWith ending := by
  obtain ⟨entries, hentries⟩ := Node.lookup?_eq_folder.1 hfolder
  have hbelow := hregular.get? hentries
  have hfile (names : List String) (content : ByteArray) :
      d.lookup? (root.below names).parts = some (.file content) ↔
        (Node.folder entries).get? names = some (.file content) := by
    rw [lookup?, Node.lookup?_eq_file, Path.below_parts, Node.get?_append_of_get? hentries]
  have hopen (folder : String) :
      ¬ isSkipped excluded folder ↔ folder ∉ excluded ∧ ¬ folder.startsWith "." := by
    rw [isSkipped_iff, not_or]
  have hfound (names : List String) : names ∈ Node.filesIn (isSkipped excluded) entries ↔
      (∃ content, (Node.folder entries).get? names = some (.file content)) ∧
        ∀ folder ∈ names.dropLast, folder ∉ excluded ∧ ¬ folder.startsWith "." := by
    simp only [← hopen]
    exact hbelow.mem_files
  rw [collect_eq hroot hentries, Path.sort, List.mem_mergeSort, List.mem_map]
  simp only [List.mem_filter, hfound, hasSuffix_iff]
  constructor
  · rintro ⟨names, ⟨⟨⟨content, hget⟩, hway⟩, hname⟩, rfl⟩
    have hne : names ≠ [] := by
      rintro rfl
      simp at hget
    refine ⟨names.dropLast, names.getLast hne, ?_, ⟨content, (hfile _ _).2 hget⟩, hway, ?_⟩
    · rw [List.dropLast_append_getLast]
    · rwa [List.getLast?_eq_some_getLast hne] at hname
  · rintro ⟨folders, name, rfl, ⟨content, hcontent⟩, hway, hname⟩
    refine ⟨folders ++ [name], ⟨⟨⟨content, (hfile _ _).1 hcontent⟩, ?_⟩, ?_⟩, rfl⟩
    · rwa [List.dropLast_concat]
    · rwa [List.getLast?_concat]

/-- What is found comes in the order of paths, each once. -/
theorem collect_pairwise (hroot : root.Plain) (hregular : d.top.Regular)
    (hfolder : d.lookup? root.parts = some .folder) :
    (d.collect root excluded suffixes).Pairwise fun p q => p.components < q.components := by
  have hnodup := nodup_collect hroot hregular hfolder excluded suffixes
  obtain ⟨entries, hentries⟩ := Node.lookup?_eq_folder.1 hfolder
  rw [collect_eq hroot hentries] at hnodup ⊢
  refine ((Path.sort_pairwise _).and hnodup).imp_of_mem fun hp hq h => ?_
  -- All paths have the root in common, so different ones differ in their components.
  rw [Path.sort, List.mem_mergeSort] at hp hq
  obtain ⟨names, -, rfl⟩ := List.mem_map.1 hp
  obtain ⟨names', -, rfl⟩ := List.mem_map.1 hq
  exact lt_of_le_of_ne h.1 fun heq => h.2 (Path.eq_of_components rfl heq)

/-- Discovery is exact: from any folder it finds, each once and in the order of paths, the files
below it whose names end as wanted and to which no excluded or hidden folder leads. The name of the
folder itself does not count, and hidden files are files. -/
theorem collect_exact (hregular : d.top.Regular) (hfolder : d.isFolder root.clean)
    (excluded : List String) (suffixes : Option (List String)) :
    (d.collect root.clean excluded suffixes).Pairwise (fun p q => p.components < q.components) ∧
    ∀ p, p ∈ d.collect root.clean excluded suffixes ↔
      ∃ folders name, p = root.clean.below (folders ++ [name]) ∧
        (∃ content, d.lookup? p.parts = some (.file content)) ∧
        (∀ folder ∈ folders, folder ∉ excluded ∧ ¬ folder.startsWith ".") ∧
        ∀ endings, suffixes = some endings →
          ∃ ending ∈ endings, (Text.lower name).endsWith ending := by
  have hroot : root.clean.Plain := ⟨rfl, Path.not_mem_collapse _⟩
  have hplace := (isFolder_iff hroot).1 hfolder
  exact ⟨collect_pairwise hroot hregular hplace, fun p => mem_collect hroot hregular hplace⟩

/-- A folder with the name of an excluded one, and in it a source, a hidden source and a hidden
folder. -/
def attic : Disk where
  top := .folder [("build", .folder [("Main.PY", .file .empty), (".rc.py", .file .empty),
    (".git", .folder [("hook.py", .file .empty)])])]

/-- From that folder the source and the hidden source are found, but not what the hidden folder
holds. -/
theorem collect_exact_attic :
    attic.top.Regular ∧ attic.isFolder (Path.clean ⟨"/", ["build"]⟩) = true ∧
      ⟨"/", ["build", "Main.PY"]⟩ ∈ attic.sourceFiles (Path.clean ⟨"/", ["build"]⟩) ∧
      ⟨"/", ["build", ".rc.py"]⟩ ∈ attic.sourceFiles (Path.clean ⟨"/", ["build"]⟩) ∧
      ⟨"/", ["build", ".git", "hook.py"]⟩ ∉ attic.sourceFiles (Path.clean ⟨"/", ["build"]⟩) := by
  have hregular : attic.top.Regular := by
    refine .folder _ (by simp) (by simp) fun e he => ?_
    obtain rfl := List.mem_singleton.1 he
    refine .folder _ (by simp) (by simp) fun e he => ?_
    simp only [List.mem_cons, List.not_mem_nil, or_false] at he
    rcases he with rfl | rfl | rfl
    · exact .file _
    · exact .file _
    · refine .folder _ (by simp) (by simp) fun e he => ?_
      obtain rfl := List.mem_singleton.1 he
      exact .file _
  have hfolder : attic.isFolder (Path.clean ⟨"/", ["build"]⟩) = true := by decide +kernel
  obtain ⟨-, hfound⟩ := collect_exact hregular hfolder excludedFolders (some sourceSuffixes)
  refine ⟨hregular, hfolder, (hfound _).2 ⟨[], "Main.PY", rfl, ⟨.empty, rfl⟩, by simp, ?_⟩,
    (hfound _).2 ⟨[], ".rc.py", rfl, ⟨.empty, rfl⟩, by simp, ?_⟩, fun hmem => ?_⟩
  · rintro _ ⟨⟩
    exact ⟨".py", by decide, by decide +kernel⟩
  · rintro _ ⟨⟩
    exact ⟨".py", by decide, by decide +kernel⟩
  · obtain ⟨folders, name, hpath, -, hway, -⟩ := (hfound _).1 hmem
    have hparts : ["build"] ++ [".git", "hook.py"] = ["build"] ++ (folders ++ [name]) :=
      congrArg Path.parts hpath
    obtain rfl : [".git"] = folders := by
      simpa using congrArg List.dropLast (List.append_cancel_left hparts)
    exact (hway ".git" (by simp)).2 (by decide +kernel)

end Disk

end Pseudonym.Files
