import Pseudonym.Proofs.Extraction.Steps

/-!
# Programs

A program is gathered by adding its modules one by one (`Gathered`). Then nothing is resolved yet
(`Gathered.stage_eq`), the declarations are in order (`Gathered.registered`), and every module was
walked through in its own regions (`Gathered.exists_regions`).
-/

namespace Pseudonym

open Python Python.Tree

namespace Extraction

/-- Some modules were added to an extraction, one after another. -/
inductive Gathered : List SourceModule → Extraction → Prop
  | nil (look : Library.Introspection) : Gathered [] { introspection := look }
  | add {ms : List SourceModule} {m : SourceModule} {x y : Extraction} (h : Gathered ms x)
      (hadd : x.addRead m = .ok y) : Gathered (ms ++ [m]) y

/-- A module that is added is entered and then declared region by region. -/
theorem addRead_eq_ok {x y : Extraction} {m : SourceModule} (h : x.addRead m = .ok y) :
    x.resolved = false ∧ ∃ g,
      x.graph.addScope { id := m.name, kind := .module, file := some m.path } = .ok g ∧
      y = declareRegions (m.tree.size + 1) [bodyRegion m] (x.entered m g) := by
  unfold addRead at h
  split at h
  · cases h
  · next hrefusal =>
      have hresolved : x.resolved = false := by
        unfold refusal? at hrefusal
        split at hrefusal
        · cases hrefusal
        · next hnot => simpa using hnot
      refine ⟨hresolved, ?_⟩
      cases hadd : x.graph.addScope { id := m.name, kind := .module, file := some m.path } with
      | error cause =>
          unfold addTree at h
          rw [hadd] at h
          cases h
      | ok g =>
          rw [addTree_eq hadd] at h
          exact ⟨g, rfl, (Except.ok.inj h).symm⟩

/-! ## Declaring names neither adds nor resolves modules -/

/-- The modules, and whether they are resolved. -/
def stage (x : Extraction) : Bool × List SourceModule := (x.resolved, x.modules)

theorem declareRegions_stage : ∀ (rounds : Nat) (queue : List Region) (x : Extraction),
    (declareRegions rounds queue x).stage = x.stage
  | 0, _, _ => rfl
  | _ + 1, [], _ => rfl
  | rounds + 1, r :: queue, x => by
      rw [declareRegions_succ_cons, declareRegions_stage]
      exact (congrArg stage (x.round_setting r) :)

/-! ## What is known of a program before it is resolved -/

variable {x : Extraction} {ms : List SourceModule}

theorem Gathered.stage_eq (h : Gathered ms x) : x.stage = (false, ms) := by
  induction h with
  | nil => rfl
  | @add ms m x y _ hadd ih =>
      obtain ⟨-, g, -, rfl⟩ := addRead_eq_ok hadd
      rw [declareRegions_stage]
      simp only [stage, Prod.mk.injEq] at ih ⊢
      exact ⟨ih.1, congrArg (· ++ [m]) ih.2⟩

theorem Gathered.resolved_eq (h : Gathered ms x) : x.resolved = false :=
  congrArg Prod.fst h.stage_eq

/-- Names of modules and names in modules are free of the signs that ids are made with. -/
def Legible (m : SourceModule) : Prop := Plain m.name ∧ Spelled m.tree

instance : DecidablePred Legible := fun m =>
  inferInstanceAs (Decidable (Plain m.name ∧ Spelled m.tree))

/-- Entering a module keeps the declarations in order. -/
theorem Registered.entered (hx : Registered x) (hresolved : x.resolved = false) {m : SourceModule}
    (hm : Plain m.name) {g : Graph}
    (hadd : x.graph.addScope { id := m.name, kind := .module, file := some m.path } = .ok g) :
    Registered (x.entered m g) := by
  have h := hx.enter hresolved hadd (.of_plain hm) (.of_plain hm) (by simp) (by simp) rfl
  exact
    { h with
      classes := fun c hc => ⟨(h.classes c hc).symbol_in, (h.classes c hc).body⟩
      functions := fun f hf =>
        { h.functions f hf with
          module_mem := List.mem_append_left _ (h.functions f hf).module_mem
          owner_in := (h.functions f hf).owner_in
          receiver_mem := (h.functions f hf).receiver_mem }
      imports := fun i hi => ⟨(h.imports i hi).scope_in, (h.imports i hi).spelled⟩ }

theorem bodyRegion_known {m : SourceModule} (hm : Legible m) {g : Graph}
    (hadd : x.graph.addScope { id := m.name, kind := .module, file := some m.path } = .ok g) :
    (bodyRegion m).Known (x.entered m g) := by
  have hin : g.ScopeIn (some m.path) m.name := by
    obtain ⟨-, rfl⟩ := Graph.addScope_eq_ok hadd
    exact ⟨_, List.mem_append_right _ (List.mem_singleton_self _), rfl, rfl⟩
  exact ⟨List.mem_append_right _ (List.mem_singleton_self m), hin, hin,
    fun t ht => mem_nodes_of_mem_all ht,
    fun t ht => hm.2.of_mem_nodes (mem_nodes_of_mem_all ht)⟩

/-- **The declarations of a program are in order.** -/
theorem Gathered.registered (h : Gathered ms x) (hms : ∀ m ∈ ms, Legible m) : Registered x := by
  induction h with
  | nil => exact .empty _
  | @add ms m x y _ hadd ih =>
      have hx := ih fun k hk => hms k (List.mem_append_left _ hk)
      have hm := hms m (List.mem_append_right _ (List.mem_singleton_self m))
      obtain ⟨hresolved, g, hscope, rfl⟩ := addRead_eq_ok hadd
      have hentered := hx.entered hresolved hm.1 hscope
      refine hentered.steps (declareRegions_steps _ hentered hresolved fun r hr => ?_)
      obtain rfl := List.mem_singleton.1 hr
      exact bodyRegion_known hm hscope

/-! ## Regions -/

theorem declareRegions_regions : ∀ (rounds : Nat) (queue : List Region) (x : Extraction),
    x.regions ⊆ (declareRegions rounds queue x).regions
  | 0, _, _ => List.Subset.refl _
  | _ + 1, [], _ => List.Subset.refl _
  | rounds + 1, r :: queue, x => by
      have hrest := declareRegions_regions rounds (queue ++ (x.round r).2) (x.round r).1
      rw [round_regions] at hrest
      rw [declareRegions_succ_cons]
      exact List.Subset.trans (List.subset_append_left _ _) hrest

theorem openScopes_module {m : SourceModule} {parent : ScopeId} : ∀ {ns : List NestedScope}
    {x : Extraction}, ∀ r ∈ (openScopes m parent ns x).2, r.module = m
  | [], _, r, hr => by cases hr
  | _ :: _, _, r, hr => by
      rcases List.mem_cons.1 hr with rfl | hr
      · rfl
      · exact openScopes_module r hr

/-- The regions of a module belong to it. -/
theorem Declares.module_eq {queue rs : List Region} {x y : Extraction} {m : SourceModule}
    (h : Declares queue x rs y) (hq : ∀ r ∈ queue, r.module = m) : ∀ r ∈ rs, r.module = m := by
  induction h with
  | done => exact hq
  | @round r queue rs x y _ ih =>
      have hr := hq r List.mem_cons_self
      refine List.forall_mem_cons.2 ⟨hr, ih fun q hmem => ?_⟩
      rcases List.mem_append.1 hmem with hmem | hmem
      · exact hq q (List.mem_cons_of_mem _ hmem)
      · exact (openScopes_module q hmem).trans hr

/-- Every module of a program was walked through in regions of its own. -/
theorem Gathered.exists_regions (h : Gathered ms x) {m : SourceModule} (hm : m ∈ ms)
    (hmodule : IsModule m.tree) :
    ∃ rs ⊆ x.regions, (∀ r ∈ rs, r.module = m) ∧ Walked m.tree rs := by
  induction h with
  | nil => cases hm
  | @add ms last x y _ hadd ih =>
      obtain ⟨-, g, -, rfl⟩ := addRead_eq_ok hadd
      rcases List.mem_append.1 hm with hm | hm
      · obtain ⟨rs, hrs, hwalked⟩ := ih hm
        exact ⟨rs, List.Subset.trans hrs (declareRegions_regions _ _ (x.entered last g)), hwalked⟩
      · obtain rfl := List.mem_singleton.1 hm
        obtain ⟨rs, hrounds⟩ := declares_of_pending_le (m.tree.size + 1) (x.entered m g)
          (grammatical_bodyRegion hmodule) (pending_bodyRegion_le hmodule)
        refine ⟨rs, ?_, hrounds.module_eq ?_, hrounds.walked hmodule⟩
        · rw [hrounds.regions_eq]
          exact List.subset_append_right _ _
        · exact fun r hr => List.mem_singleton.1 hr ▸ rfl

/-! ## Programs that are given -/

/-- Adds modules one after another, unless one is refused. -/
def addAll? (x : Extraction) : List SourceModule → Option Extraction
  | [] => some x
  | m :: ms => (x.addRead m).toOption.bind (·.addAll? ms)

theorem Gathered.addAll? {added : List SourceModule} {y : Extraction} (h : Gathered ms x)
    (hadd : x.addAll? added = some y) : Gathered (ms ++ added) y := by
  induction added generalizing ms x with
  | nil =>
      obtain rfl := Option.some.inj hadd
      rwa [List.append_nil]
  | cons m added ih =>
      obtain ⟨z, hz, hadd⟩ := Option.bind_eq_some_iff.1 hadd
      cases hread : x.addRead m with
      | error e =>
          rw [hread] at hz
          cases hz
      | ok z' =>
          rw [hread] at hz
          obtain rfl := Option.some.inj hz
          rw [List.append_cons]
          exact ih (h.add hread) hadd

/-- What the modules of a program are seen to give when they are added. -/
theorem exists_gathered {P : Extraction → Prop} [DecidablePred P]
    (h : (addAll? {} ms).any (P ·) = true) : ∃ x, Gathered ms x ∧ P x := by
  obtain ⟨x, hx, hP⟩ := (Option.any_eq_true _ _).1 h
  exact ⟨x, (Gathered.nil Library.listed).addAll? hx, of_decide_eq_true hP⟩

end Extraction

end Pseudonym
