import Pseudonym.Proofs.Extraction.Places
import Pseudonym.Proofs.Renaming.Plan
import Pseudonym.Renaming.Rendering

/-!
# Edits replace names

An edit is planned for each occurrence of a symbol that was renamed or replaced by its literal
(`planEdits_induction`). Renaming changes no occurrence (`Rewritten.renamed`), a literal is found
only for symbols whose occurrences were all checked (`Extraction.Verified`), and none is renamed in
the text whose occurrences are not. Hence, after any sequence of renames and replaced constants, each
edit finds the name under which its symbol was declared (`planEdits_at_names`).
-/

namespace Pseudonym

open Files Extraction

/-! ## Edits of a plan -/

/-- The edit that replaces an occurrence by a text. -/
def Span.edit (p : Span) (text : String) : Source.Edit := ⟨p.line, p.column, some p.endColumn, text⟩

namespace EditPlan

/-- Every edit of a plan is as it should be. -/
def All (P : Path → Source.Edit → Prop) (plan : EditPlan) : Prop :=
  ∀ entry ∈ plan, ∀ e ∈ entry.2.edits, P entry.1 e

variable {P : Path → Source.Edit → Prop}

theorem All.update {path : Path} {f : FileEdits → FileEdits}
    (hf : ∀ edits : FileEdits, ∀ e ∈ (f edits).edits, e ∈ edits.edits ∨ P path e) :
    ∀ {plan : EditPlan}, plan.All P → (plan.update path f).All P
  | [], _ => by
      intro entry hentry e he
      obtain rfl := List.mem_singleton.1 hentry
      exact (hf {} e he).elim (fun hnone => by cases hnone) id
  | (p, edits) :: plan, h => by
      have hrest : All P plan := fun entry hentry => h entry (List.mem_cons_of_mem _ hentry)
      have hfirst := h (p, edits) List.mem_cons_self
      rw [EditPlan.update]
      split
      · next heq =>
          refine List.forall_mem_cons.2 ⟨fun e he => ?_, hrest⟩
          exact (hf edits e he).elim (hfirst e) fun hnew => heq ▸ hnew
      · exact List.forall_mem_cons.2 ⟨hfirst, hrest.update hf⟩

theorem All.foldl {α : Type} {f : EditPlan → α → EditPlan} {as : List α} {plan : EditPlan}
    (hplan : plan.All P) (h : ∀ a ∈ as, ∀ plan : EditPlan, plan.All P → (f plan a).All P) :
    (as.foldl f plan).All P :=
  keep_foldl_mem (All P) (fun plan a ha hall => h a ha plan hall) hplan

end EditPlan

section

variable {P : Path → Source.Edit → Prop} {plan : EditPlan} {s : Symbol}

theorem planRenaming_all (hplan : plan.All P) (h : ∀ p ∈ s.spans, P p.file (p.edit s.name)) :
    (planRenaming plan s).All P := by
  refine hplan.foldl fun p hp plan hall => hall.update fun edits e he => ?_
  rcases List.mem_append.1 he with hold | hnew
  · exact .inl hold
  · obtain rfl := List.mem_singleton.1 hnew
    exact .inr (h p hp)

theorem planInlining_all (hplan : plan.All P)
    (h : ∀ p ∈ s.spans, P p.file (p.edit (s.literal.getD ""))) : (planInlining plan s).All P := by
  have huses : (s.references.foldl
      (fun plan r => plan.update r.span.file (·.addLiteral r.span (s.literal.getD ""))) plan).All
      P := by
    refine hplan.foldl fun r hr plan hall => hall.update fun edits e he => ?_
    rcases List.mem_append.1 he with hold | hnew
    · exact .inl hold
    · obtain rfl := List.mem_singleton.1 hnew
      exact .inr (h r.span (List.mem_append_right _ (List.mem_map_of_mem hr)))
  unfold planInlining
  dsimp only
  split
  · exact huses.update (f := (·.deleteLines _)) fun edits e he => .inl he
  · exact huses

/-- An edit of a plan is that of an occurrence of a symbol which is replaced by its literal, or else
renamed in the text. -/
theorem planEdits_induction {g : Graph} {c : Changes}
    (hliteral : ∀ s ∈ g.symbols, c.isInlined s.id = true → ∀ p ∈ s.spans,
      P p.file (p.edit (s.literal.getD "")))
    (hname : ∀ s ∈ g.symbols, c.isInlined s.id = false → s.isRenamed = true →
      s.isPhysical = true → ∀ p ∈ s.spans, P p.file (p.edit s.name)) :
    (planEdits g c).All P := by
  refine EditPlan.All.foldl (by simp [EditPlan.All]) fun s hs plan hall => ?_
  split
  · next hinlined => exact planInlining_all hall (hliteral s hs hinlined)
  · next hkept =>
      split
      · next hrenamed =>
          rw [Bool.and_eq_true] at hrenamed
          exact planRenaming_all hall
            (hname s hs (Bool.eq_false_iff.2 hkept) hrenamed.1 hrenamed.2)
      · exact hall

end

/-! ## Occurrences are checked -/

/-- A span says a name in whatever module has its path. -/
def Span.Spells (ms : List SourceModule) (name : String) (p : Span) : Prop :=
  ∀ m ∈ ms, m.path = p.file → m.text? p = some name

namespace Extraction

variable {ms : List SourceModule} {x : Extraction}

/-- The module of a file is the only one that has its path. -/
theorem moduleFor?_eq_some (hpaths : (ms.map (·.path)).Nodup) (hx : x.modules = ms)
    {m : SourceModule} (hm : m ∈ ms) : x.moduleFor? m.path = some m := by
  have hall : ∀ k ∈ ms.filter (·.path = m.path), k = m := by
    intro k hk
    obtain ⟨hmem, hpath⟩ := List.mem_filter.1 hk
    exact List.inj_on_of_nodup_map hpaths hmem hm (of_decide_eq_true hpath)
  have hmem : m ∈ ms.filter (·.path = m.path) := List.mem_filter.2 ⟨hm, decide_eq_true rfl⟩
  unfold moduleFor?
  rw [hx]
  cases hlast : (ms.filter (·.path = m.path)).getLast? with
  | none =>
      rw [List.getLast?_eq_none_iff.1 hlast] at hmem
      cases hmem
  | some k => rw [hall k (List.mem_of_getLast? hlast)]

/-- What can be renamed in the text or replaced by a literal is spelled out wherever it occurs. -/
structure Verified (ms : List SourceModule) (x : Extraction) : Prop where
  symbolIds_nodup : x.graph.symbolIds.Nodup
  within : ∀ s ∈ x.graph.symbols, ∀ p ∈ s.spans, p.Within ms
  physical_of_literal : ∀ s ∈ x.graph.symbols, s.literal.isSome = true → s.isPhysical = true
  spelled : ∀ s ∈ x.graph.symbols, s.isPhysical = true → ∀ p ∈ s.spans, p.Spells ms s.declaredName

theorem Placed.verified_checkSpans (h : Placed ms x) (hpaths : (ms.map (·.path)).Nodup)
    (hx : x.modules = ms) : Verified ms x.checkSpans where
  symbolIds_nodup := by
    have hids : x.checkSpans.graph.symbolIds = x.graph.symbolIds := by
      simp [checkSpans, Graph.symbolIds]
    exact hids ▸ h.1.1
  within := by
    intro s hs p hp
    obtain ⟨t, ht, rfl⟩ := List.mem_map.1 hs
    exact h.2 (p, t.id) (mem_marks.2 ⟨t, ht, rfl, hp⟩)
  physical_of_literal := by
    intro s hs hliteral
    obtain ⟨t, ht, rfl⟩ := List.mem_map.1 hs
    have hnone : t.literal = none := h.1.2 t ht
    simp [hnone] at hliteral
  spelled := by
    intro s hs hphysical p hp m hm hpath
    obtain ⟨t, ht, rfl⟩ := List.mem_map.1 hs
    have hspells := List.all_eq_true.1 (Bool.and_eq_true_iff.1 hphysical).2 p hp
    have htext := of_decide_eq_true hspells
    rwa [← hpath, moduleFor?_eq_some hpaths hx hm] at htext

/-- A change to a symbol that keeps its name and its occurrences. -/
theorem Verified.updateSymbol (h : Verified ms x) (id : SymbolId) {f : Symbol → Symbol}
    (hf : ∀ s, (f s).id = s.id ∧ (f s).spans = s.spans ∧ (f s).isPhysical = s.isPhysical ∧
      (f s).declaredName = s.declaredName)
    (hliteral : ∀ s ∈ x.graph.symbols, s.id = id → (f s).literal.isSome = true →
      s.isPhysical = true) : Verified ms (x.updateSymbol id f) := by
  have hcases : ∀ t ∈ (x.updateSymbol id f).graph.symbols, ∃ s ∈ x.graph.symbols,
      t.spans = s.spans ∧ t.isPhysical = s.isPhysical ∧ t.declaredName = s.declaredName ∧
        (t.literal.isSome = true → s.isPhysical = true) := by
    intro t ht
    obtain ⟨s, hs, rfl⟩ := List.mem_map.1 ht
    refine ⟨s, hs, ?_⟩
    split
    · next hid => exact ⟨(hf s).2.1, (hf s).2.2.1, (hf s).2.2.2, hliteral s hs hid⟩
    · exact ⟨rfl, rfl, rfl, h.physical_of_literal s hs⟩
  refine ⟨?_, fun t ht => ?_, fun t ht => ?_, fun t ht => ?_⟩
  · exact (Graph.updateSymbol_symbolIds fun s => (hf s).1).symm ▸ h.symbolIds_nodup
  all_goals obtain ⟨s, hs, hspans, hphysical, hname, hsome⟩ := hcases t ht
  · exact hspans ▸ h.within s hs
  · exact hphysical ▸ hsome
  · rw [hspans, hphysical, hname]
    exact h.spelled s hs

/-- Only what was checked gets a literal. -/
theorem Verified.findConstant (h : Verified ms x) (item : SourceModule × String × Python.Tree) :
    Verified ms (x.findConstant item) := by
  unfold Extraction.findConstant
  dsimp only
  split
  · exact h
  · next s hs =>
      split
      · exact h
      · next husable =>
          split
          · next literal _ =>
              split
              · -- Only the symbol that was looked at has its id.
                have hphysical : s.isPhysical = true := by
                  simp only [Bool.not_eq_true, Bool.not_eq_false', Bool.and_eq_true] at husable
                  tauto
                obtain ⟨id, -, hfound⟩ := Option.bind_eq_some_iff.1 hs
                have hsmem : s ∈ x.graph.symbols := List.mem_of_find?_eq_some hfound
                have hsymbol : ∀ t ∈ x.graph.symbols, t.id = s.id → t = s := fun t ht hid =>
                  List.inj_on_of_nodup_map h.symbolIds_nodup ht hsmem hid
                exact h.updateSymbol s.id (fun _ => ⟨rfl, rfl, rfl, rfl⟩)
                  fun t ht hid _ => hsymbol t ht hid ▸ hphysical
              · exact h
          · exact h

theorem Verified.forgetRoots (h : Verified ms x) :
    Verified ms { x with graph := x.graph.forgetRoots } :=
  ⟨h.symbolIds_nodup, h.within, h.physical_of_literal, h.spelled⟩

/-- **In a resolved program every occurrence that can be changed says the declared name.** -/
theorem Gathered.verified_resolve (h : Gathered ms x) (hpaths : (ms.map (·.path)).Nodup) :
    Verified ms x.resolve := by
  have hmodules : x.withMarks.modules = ms := by
    have hnotes := notes_eq_of_settled
      ((markDynamicSymbols_settled _).trans (withUses_settled x))
    have hall : x.withMarks.notes = x.notes := hnotes.trans x.withOverrides_notes
    have hsame : x.withMarks.modules = x.modules := (congrArg modules hall :)
    exact hsame.trans (congrArg Prod.snd h.stage_eq)
  have hmarks : Placed ms x.withMarks :=
    h.placed_withUses.of_imprint (markDynamicSymbols_imprint _)
  have hconstants : Verified ms x.withConstants :=
    keep_foldl (Verified ms) (fun y item hy => hy.findConstant item) _
      (hmarks.verified_checkSpans hpaths hmodules)
  rw [resolve_eq h.resolved_eq]
  exact hconstants.forgetRoots

end Extraction

/-! ## Sequences of changes -/

/-- What a graph and the record of its changes become by renames and replaced constants. Neither a
plan with conflicts nor a constant that is refused changes anything. -/
inductive Rewritten (start : Graph) : Graph → Changes → Prop
  | begin (overloading : Bool) : Rewritten start start { overloading }
  | rename {g : Graph} {c : Changes} (h : Rewritten start g c) (p : Plan) :
      Rewritten start (c.rename g p).2.1 (c.rename g p).2.2
  | inline {g : Graph} {c c' : Changes} (h : Rewritten start g c) {s : Symbol}
      (hs : s ∈ g.symbols) (hok : c.inline s = .ok c') : Rewritten start g c'

namespace Rewritten

variable {start g : Graph} {c : Changes}

/-- A graph that was rewritten differs in names from what it was. -/
theorem renamed (h : Rewritten start g c) (hids : start.symbolIds.Nodup) :
    ∃ ν, Graph.Renamed ν start g := by
  induction h with
  | begin => exact ⟨_, .refl start⟩
  | @rename g c _ p ih =>
      obtain ⟨ν, hν⟩ := ih
      have hrename : c.rename g p =
          ((c.rename g p).1, (c.rename g p).2.1, (c.rename g p).2.2) := rfl
      rcases Changes.rename_cases hrename with ⟨-, -, hg⟩ | ⟨-, hg, -⟩
      · rw [hg]
        exact ⟨_, hν.trans (Graph.applyRenames_renamed (hν.symbolIds_eq ▸ hids) p.entries_nodup)⟩
      · rw [hg]
        exact ⟨ν, hν⟩
  | inline _ _ _ ih => exact ih

theorem rename_inlined (c : Changes) (g : Graph) (p : Plan) :
    (c.rename g p).2.2.inlined = c.inlined := by
  unfold Changes.rename
  split <;> rfl

/-- What is replaced by its literal has one. -/
theorem literal_isSome (h : Rewritten start g c) (hids : start.symbolIds.Nodup) :
    ∀ id ∈ c.inlined, ∃ s ∈ start.symbols, s.id = id ∧ s.literal.isSome = true := by
  induction h with
  | begin => simp
  | @rename g c _ p ih => rwa [rename_inlined]
  | @inline g c c' h s hs hok ih =>
      intro id hid
      unfold Changes.inline at hok
      split at hok
      · cases hok
      · next hnone =>
          obtain rfl := Except.ok.inj hok
          by_cases hold : id ∈ c.inlined
          · exact ih id hold
          · split at hid
            · exact absurd hid hold
            · -- The new one passed the checks.
              have hid : id = s.id := by simpa [hold] using hid
              obtain ⟨ν, hν⟩ := h.renamed hids
              obtain ⟨t, ht, rfl⟩ := hν.mem_symbols.1 hs
              refine ⟨t, ht, hid.symm, ?_⟩
              unfold Changes.inlineError? at hnone
              split at hnone
              · cases hnone
              · split at hnone
                · cases hnone
                · next hliteral =>
                    have hsome : ¬ t.literal.isNone = true := hliteral
                    exact Option.isSome_iff_ne_none.2 (by simpa using hsome)

end Rewritten

/-- An edit replaces an occurrence of a symbol, by its literal or by its new name. -/
structure Replaces (g : Graph) (c : Changes) (s : Symbol) (path : Path) (e : Source.Edit) :
    Prop where
  occurs : ∃ p ∈ s.spans, p.file = path ∧ e = p.edit e.text
  text_eq : (c.isInlined s.id = true ∧ s.literal = some e.text) ∨
    (c.isInlined s.id = false ∧ g.nameOf s.id = e.text ∧ e.text ≠ s.declaredName)

/-- An edit stands on a line of a module, and the characters between its columns are a name. -/
def Source.Edit.CutsOut (e : Source.Edit) (m : SourceModule) (name : String) : Prop :=
  ∃ cs, m.line? e.line = some cs ∧
    ∃ start stop : Nat, e.start = start ∧ e.stop = some ↑stop ∧ stop ≤ cs.length ∧
      String.ofList ((cs.take stop).drop start) = name

/-- **Edits replace names.** After any sequence of changes to a resolved program whose modules have
different paths, an edit planned for a file stands on an existing line of the module that has its
path, and between its columns, in characters, stands the declared name of the symbol whose occurrence
it replaces. -/
theorem planEdits_at_names {ms : List SourceModule} {x : Extraction} (h : Gathered ms x)
    (hpaths : (ms.map (·.path)).Nodup) {g : Graph} {c : Changes}
    (hrun : Rewritten x.resolve.graph g c) {path : Path} {f : FileEdits}
    (hf : (path, f) ∈ planEdits g c) {e : Source.Edit} (he : e ∈ f.edits) :
    ∃ s ∈ x.resolve.graph.symbols, Replaces g c s path e ∧
      ∃ m ∈ ms, m.path = path ∧ e.CutsOut m s.declaredName := by
  have hverified := h.verified_resolve hpaths
  have hids := hverified.symbolIds_nodup
  obtain ⟨ν, hν⟩ := hrun.renamed hids
  -- An occurrence that says the declared name is one that the edit may replace.
  have hcuts : ∀ s ∈ x.resolve.graph.symbols, s.isPhysical = true → ∀ p ∈ s.spans,
      ∀ text, ∃ m ∈ ms, m.path = p.file ∧ (p.edit text).CutsOut m s.declaredName := by
    intro s hs hphysical p hp text
    obtain ⟨m, hm, hpath, cs, hline, hle⟩ := hverified.within s hs p hp
    have htext := hverified.spelled s hs hphysical p hp m hm hpath
    rw [SourceModule.text?, hline] at htext
    exact ⟨m, hm, hpath, cs, hline, p.column, p.endColumn, rfl, rfl, hle, Option.some.inj htext⟩
  refine planEdits_induction (P := fun path e => ∃ s ∈ x.resolve.graph.symbols,
    Replaces g c s path e ∧ ∃ m ∈ ms, m.path = path ∧ e.CutsOut m s.declaredName) ?_ ?_ _ hf e he
  · intro t ht hinlined p hp
    obtain ⟨s, hs, rfl⟩ := hν.mem_symbols.1 ht
    obtain ⟨u, hu, hid, hliteral⟩ := hrun.literal_isSome hids s.id
      (by simpa [Changes.isInlined] using hinlined)
    obtain rfl := List.inj_on_of_nodup_map hids hu hs hid
    obtain ⟨text, htext⟩ := Option.isSome_iff_exists.1 hliteral
    refine ⟨u, hs, ⟨⟨p, hp, rfl, rfl⟩, .inl ⟨hinlined, ?_⟩⟩, ?_⟩
    · show u.literal = some (u.literal.getD "")
      rw [htext]
      rfl
    · exact hcuts u hs (hverified.physical_of_literal u hs hliteral) p hp _
  · intro t ht hkept hrenamed hphysical p hp
    obtain ⟨s, hs, rfl⟩ := hν.mem_symbols.1 ht
    have hname : g.nameOf s.id = ν s := by
      have hfound : x.resolve.graph.symbol? s.id = some s :=
        (find?_key_eq_some hids).2 ⟨hs, rfl⟩
      rw [Graph.nameOf, hν.symbol?_eq, hfound]
      rfl
    refine ⟨s, hs, ⟨⟨p, hp, rfl, rfl⟩, .inr ⟨hkept, hname, ?_⟩⟩, hcuts s hs hphysical p hp _⟩
    exact of_decide_eq_true hrenamed

/-! ## A program with a character of two bytes -/

/-- A variable that is bound twice, first behind a character of two bytes, and a constant. -/
def dialText : String := "\"é\"; _N = 1\n_TOP = -9\nx = _TOP; _N = 3\n"

/-- The module with that text. -/
def dial : SourceModule where
  name := "dials"
  path := ⟨"", ["dials.py"]⟩
  source := dialText
  tree := (Python.Module.parse? dialText).getD default

/-- The variable is renamed, and the constant is replaced by its literal. -/
def dialEdits : FileEdits where
  edits := [⟨1, 5, some 7, "_size"⟩, ⟨3, 10, some 12, "_size"⟩, ⟨3, 4, some 8, "-9"⟩]
  deletedLines := [2]
  renamed := 2
  inlined := 1

/-- The first edit counts the two bytes as one character. -/
theorem planEdits_at_names_dial :
    ([dial].map (·.path)).Nodup ∧ ∃ x, Gathered [dial] x ∧ ∃ g c, Rewritten x.resolve.graph g c ∧
      (dial.path, dialEdits) ∈ planEdits g c ∧ ∀ e ∈ dialEdits.edits,
        ∃ s ∈ x.resolve.graph.symbols, Replaces g c s dial.path e ∧
          ∃ m ∈ [dial], m.path = dial.path ∧ e.CutsOut m s.declaredName := by
  let plan : Plan := ⟨"dials::_N", "_size", []⟩
  have hpaths : ([dial].map (·.path)).Nodup := List.nodup_singleton _
  obtain ⟨x, hgathered, hplanned⟩ : ∃ x, Gathered [dial] x ∧
      (((({} : Changes).rename x.resolve.graph plan).2.1.symbols.any fun s =>
        ((({} : Changes).rename x.resolve.graph plan).2.2.inline s).toOption.any fun c =>
          planEdits (({} : Changes).rename x.resolve.graph plan).2.1 c =
            [(dial.path, dialEdits)])) = true :=
    exists_gathered (by decide +kernel)
  obtain ⟨s, hs, hinlined⟩ := List.any_eq_true.1 hplanned
  obtain ⟨c, hc, hedits⟩ := (Option.any_eq_true _ _).1 hinlined
  have hok : (({} : Changes).rename x.resolve.graph plan).2.2.inline s = .ok c := by
    cases hresult : (({} : Changes).rename x.resolve.graph plan).2.2.inline s with
    | error e =>
        rw [hresult] at hc
        cases hc
    | ok c' =>
        rw [hresult] at hc
        exact congrArg Except.ok (Option.some.inj hc)
  have hrun : Rewritten x.resolve.graph (({} : Changes).rename x.resolve.graph plan).2.1 c :=
    .inline (.rename (.begin false) plan) hs hok
  have hmem : (dial.path, dialEdits) ∈
      planEdits (({} : Changes).rename x.resolve.graph plan).2.1 c := by
    rw [of_decide_eq_true hedits]
    exact List.mem_singleton_self _
  exact ⟨hpaths, x, hgathered, _, c, hrun, hmem,
    fun e he => planEdits_at_names hgathered hpaths hrun hmem he⟩

end Pseudonym
