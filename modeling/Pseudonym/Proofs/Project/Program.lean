import Pseudonym.Proofs.Extraction.Gathering
import Pseudonym.Proofs.Extraction.Phases
import Pseudonym.Proofs.Project.Stages

/-!
# The program of a project

The program of a project is gathered from the files that were read and from those of its libraries,
and then resolved. Only the files that were read may be changed. Main statement: `extract_gathered`.
-/

namespace Pseudonym.Project

open Files Extraction

/-- A module that may be changed was read. -/
def FromReadings (rs : Readings) (ms : List SourceModule) : Prop :=
  ∀ m ∈ ms, m.editable = true → ∃ e ∈ rs, m.path = e.1 ∧ m.source = e.2.1.source ∧ m.tree = e.2.2

theorem FromReadings.concat {rs : Readings} {ms : List SourceModule} {m : SourceModule}
    (h : FromReadings rs ms)
    (hm : m.editable = true → ∃ e ∈ rs, m.path = e.1 ∧ m.source = e.2.1.source ∧ m.tree = e.2.2) :
    FromReadings rs (ms ++ [m]) := by
  intro k hk
  rcases List.mem_append.1 hk with hk | hk
  · exact h k hk
  · rw [List.mem_singleton.1 hk]
    exact hm

variable {c : Circumstances} {root : Path} {rs : Readings}

/-- A program that is not resolved yet, made of files that were read and files that stay. -/
def GatheredFrom (rs : Readings) (x : Extraction) : Prop :=
  ∃ ms, Gathered ms x ∧ FromReadings rs ms

theorem addModules_gathered : ∀ (rest : Readings) (x y : Extraction) (j : Job), rest ⊆ rs →
    GatheredFrom rs x → (addModules c root rest x j).1 = .ok y → GatheredFrom rs y
  | [], x, y, j, _, hx, h => by
    cases h
    exact hx
  | (p, reading, tree) :: rest, x, y, j, hrest, hx, h => by
    rw [addModules] at h
    split at h
    · cases h
    · dsimp only at h
      have hsub : rest ⊆ rs := List.subset_of_cons_subset hrest
      split at h
      · rename_i x' hadd
        obtain ⟨ms, hgathered, hfrom⟩ := hx
        refine addModules_gathered rest x' y j hsub ⟨_, .add hgathered hadd, hfrom.concat ?_⟩ h
        exact fun _ => ⟨_, hrest List.mem_cons_self, rfl, rfl, rfl⟩
      · exact addModules_gathered rest x y _ hsub hx h

theorem addLibrary_gathered : ∀ (ps : List Path) (x y : Extraction) (j : Job),
    GatheredFrom rs x → (addLibrary c root ps x j).1 = .ok y → GatheredFrom rs y
  | [], x, y, j, hx, h => by
    cases h
    exact hx
  | p :: rest, x, y, j, hx, h => by
    rw [addLibrary] at h
    split at h
    · exact addLibrary_gathered rest x y j hx h
    · split at h
      · cases h
      · dsimp only at h
        split at h
        · exact addLibrary_gathered rest x y _ hx h
        · rename_i tree _
          refine addLibrary_gathered rest _ y j ?_ h
          cases hadd : x.addRead
              ⟨(moduleName? p root).getD "", p, (readSource j.disk p).source, tree, false⟩ with
          | error e => simpa [Except.toOption] using hx
          | ok x' =>
            obtain ⟨ms, hgathered, hfrom⟩ := hx
            exact ⟨_, .add hgathered hadd, hfrom.concat fun hm => by cases hm⟩

theorem addLibraries_gathered : ∀ (libraries : List String) (x y : Extraction) (j : Job),
    GatheredFrom rs x → (addLibraries c libraries x j).1 = .ok y → GatheredFrom rs y
  | [], x, y, j, hx, h => by
    cases h
    exact hx
  | library :: rest, x, y, j, hx, h => by
    rw [addLibraries] at h
    split at h
    · exact addLibraries_gathered rest x y j hx h
    · split at h
      · rename_i x' j' hlibrary
        refine addLibraries_gathered rest x' y j' ?_ h
        exact addLibrary_gathered _ _ _ _ hx (congrArg Prod.fst hlibrary)
      · cases h

/-- **A program is gathered from what was read.** Only the files that were read may be changed in it. -/
theorem extract_gathered {o : Options} {j : Job} {x : Extraction}
    (h : (extract c o root rs j).1 = .ok x) :
    ∃ ms x₀, Gathered ms x₀ ∧ FromReadings rs ms ∧ x = x₀.resolve ∧ x.modules = ms := by
  unfold extract at h
  split at h
  · cases h
  · rename_i x₁ j₁ hmodules
    have hx₁ : GatheredFrom rs x₁ :=
      addModules_gathered rs _ x₁ j (List.Subset.refl _) ⟨[], .nil _, by simp [FromReadings]⟩
        (congrArg Prod.fst hmodules)
    split at h
    · cases h
    · rename_i x₂ j₂ hlibraries
      have hx₂ : GatheredFrom rs x₂ := by
        split at hlibraries
        · exact addLibraries_gathered _ _ _ _ hx₁ (congrArg Prod.fst hlibraries)
        · cases hlibraries
          exact hx₁
      cases h
      obtain ⟨ms, hgathered, hfrom⟩ := hx₂
      have hmodules : x₂.resolve.modules = x₂.modules :=
        (congrArg Extraction.modules (resolve_notes hgathered.resolved_eq) :)
      exact ⟨ms, x₂, hgathered, hfrom, rfl, hmodules.trans (congrArg Prod.snd hgathered.stage_eq)⟩

/-- If nobody stops it, the gathering of modules depends on the disk alone. -/
theorem addModules_fst (hgoes : ∀ reports place, c.stops reports place = false) : ∀ (rest : Readings)
    (x : Extraction) (j j' : Job), j.disk = j'.disk →
    (addModules c root rest x j).1 = (addModules c root rest x j').1
  | [], _, _, _, _ => rfl
  | (p, reading, tree) :: rest, x, j, j', h => by
    rw [addModules, addModules, hgoes, hgoes, h]
    simp only [Bool.false_eq_true, if_false]
    split
    · exact addModules_fst hgoes rest _ j j' h
    · exact addModules_fst hgoes rest x _ _ h

/-- The modules of a run without libraries that nobody stops. -/
theorem Prepared.modules_eq {s : Settings} {r : Request} {d : Disk} {t : Task} {j : Job}
    (h : Prepared c s r d t j) (hgoes : ∀ reports place, c.stops reports place = false)
    (hlibraries : t.options.includeLibraries = false) :
    ∃ y, (addModules c r.root (readingsOf c d (d.sourceFiles r.root))
        { introspection := c.introspection } { disk := d }).1 = .ok y ∧
      t.extraction.modules = y.modules := by
  obtain ⟨j₀, hdisk, hextract⟩ := h.extraction
  rw [h.readings] at hextract
  rw [← addModules_fst hgoes _ _ j₀ _ hdisk]
  unfold extract at hextract
  split at hextract
  · cases hextract
  · rename_i x₁ j₁ hmodules
    rw [hlibraries] at hextract
    simp only [Bool.false_eq_true, if_false] at hextract
    rw [hmodules]
    refine ⟨x₁, rfl, ?_⟩
    rw [← Except.ok.inj hextract]
    obtain ⟨ms, hgathered, -⟩ : GatheredFrom (readingsOf c d (d.sourceFiles r.root)) x₁ :=
      addModules_gathered _ _ x₁ j₀ (List.Subset.refl _) ⟨[], .nil _, by simp [FromReadings]⟩
        (congrArg Prod.fst hmodules)
    exact (congrArg Extraction.modules (resolve_notes hgathered.resolved_eq) :)

end Pseudonym.Project
