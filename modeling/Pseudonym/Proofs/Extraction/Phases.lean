import Pseudonym.Extraction.Completion
import Pseudonym.Proofs.Extraction.Outline

/-!
# The phases of a resolution

Resolving a program links its imports, derives its classes, declares fields, links overrides, and
then walks through every region once more. What was noted while the modules were added stays as it
is in all phases (`resolve_notes`), and after overrides are linked no declaration changes any more
(`resolve_outline`).
-/

namespace Pseudonym

open Python

/-- What a fold does not change at any step, it does not change. -/
theorem proj_foldl {α β γ : Type} (π : β → γ) {f : β → α → β} (h : ∀ b a, π (f b a) = π b) :
    ∀ (as : List α) (b : β), π (as.foldl f b) = π b
  | [], _ => rfl
  | a :: as, b => (proj_foldl π h as (f b a)).trans (h b a)

/-- What each step of a fold keeps, the fold keeps. -/
theorem keep_foldl {σ α : Type} (I : σ → Prop) {f : σ → α → σ} (h : ∀ s a, I s → I (f s a)) :
    ∀ (as : List α) {s : σ}, I s → I (as.foldl f s)
  | [], _, hs => hs
  | a :: as, s, hs => keep_foldl I h as (h s a hs)

theorem keep_foldl_mem {σ α : Type} (I : σ → Prop) {f : σ → α → σ} :
    ∀ {as : List α}, (∀ s, ∀ a ∈ as, I s → I (f s a)) → ∀ {s : σ}, I s → I (as.foldl f s)
  | [], _, _, hs => hs
  | a :: _, h, s, hs =>
      keep_foldl_mem I (fun t b hb => h t b (List.mem_cons_of_mem _ hb))
        (h s a List.mem_cons_self hs)

/-- What one step of a fold brings about, and no step undoes, holds in the end. -/
theorem foldl_of_step {σ α : Type} (I P : σ → Prop) {f : σ → α → σ}
    (hkeep : ∀ s a, P s → P (f s a)) {a : α} (hstep : ∀ s, I s → P (f s a)) :
    ∀ {as : List α}, (∀ s, ∀ c ∈ as, I s → I (f s c)) → ∀ {s : σ}, I s → a ∈ as →
      P (as.foldl f s)
  | c :: as, hI, s, hs, ha => by
      rw [List.foldl_cons]
      rcases List.mem_cons.1 ha with rfl | ha
      · exact keep_foldl P hkeep as (hstep s hs)
      · exact foldl_of_step I P hkeep hstep (fun t d hd => hI t d (List.mem_cons_of_mem _ hd))
          (hI s c List.mem_cons_self hs) ha

/-- What one step of a fold adds, and no step removes, is there in the end. -/
theorem mem_foldl_of_step {σ α β : Type} (π : σ → List β) (I : σ → Prop) {f : σ → α → σ}
    (hgrow : ∀ s a, π s ⊆ π (f s a)) {a : α} {b : β} (hstep : ∀ s, I s → b ∈ π (f s a)) :
    ∀ {as : List α}, (∀ s, ∀ c ∈ as, I s → I (f s c)) → ∀ {s : σ}, I s → a ∈ as →
      b ∈ π (as.foldl f s) :=
  foldl_of_step I (fun s => b ∈ π s) (fun s c hb => hgrow s c hb) hstep

namespace Extraction

/-! ## States between the phases -/

/-- Imports are linked. -/
def withImports (x : Extraction) : Extraction := { x with resolved := true }.linkImports

/-- Classes are related to their bases. -/
def withBases (x : Extraction) : Extraction :=
  x.withImports.linkClasses.callAssignments.foldl markTypeParameter x.withImports.linkClasses

/-- Fields are declared. -/
def withFields (x : Extraction) : Extraction := x.withBases.declareFields

/-- Members are related to what they override. -/
def withOverrides (x : Extraction) : Extraction := x.withFields.linkOverrides

/-- Uses are recorded. -/
def withUses (x : Extraction) : Extraction :=
  x.withOverrides.regions.foldl collectRegion x.withOverrides

/-- Symbols that can be looked up at run time are marked. -/
def withMarks (x : Extraction) : Extraction := x.withUses.markDynamicSymbols

/-- Constants have their literals. -/
def withConstants (x : Extraction) : Extraction :=
  x.withMarks.checkSpans.constantCandidates.foldl findConstant x.withMarks.checkSpans

theorem resolve_eq {x : Extraction} (h : x.resolved = false) :
    x.resolve = { x.withConstants with graph := x.withConstants.graph.forgetRoots } := by
  unfold resolve
  rw [h]
  rfl

/-! ## What is noted while modules are added -/

/-- The notes that adding modules leaves for later steps. -/
def notes (x : Extraction) : Extraction where
  modules := x.modules
  qualifiers := x.qualifiers
  comprehensions := x.comprehensions
  regions := x.regions
  pendingImports := x.pendingImports
  classes := x.classes
  functions := x.functions
  receivers := x.receivers
  parameters := x.parameters
  callAssignments := x.callAssignments
  constantCandidates := x.constantCandidates

variable (x : Extraction)

@[simp] theorem withGraph_notes (g : Graph) : ({ x with graph := g } : Extraction).notes = x.notes :=
  rfl

theorem withDynamicNames_notes (names : List String) :
    ({ x with dynamicNames := names } : Extraction).notes = x.notes := rfl

@[simp] theorem updateSymbol_notes (id : SymbolId) (f : Symbol → Symbol) :
    (x.updateSymbol id f).notes = x.notes := rfl

@[simp] theorem markDynamic_notes (id : SymbolId) : (x.markDynamic id).notes = x.notes := rfl

@[simp] theorem markAllDynamic_notes (ids : List SymbolId) :
    (x.markAllDynamic ids).notes = x.notes :=
  proj_foldl notes markDynamic_notes ids x

@[simp] theorem keepNamed_notes (id : SymbolId) : (x.keepNamed id).notes = x.notes := rfl

@[simp] theorem addReference_notes (m : SourceModule) (id : SymbolId) (span : Option Span)
    (scope : Option ScopeId) (binds : Bool) :
    (x.addReference m id span scope binds).notes = x.notes := by
  unfold addReference
  split
  · split <;> rfl
  · split <;> rfl

@[simp] theorem newSymbol_notes (m : SourceModule) (scope : ScopeId) (name : String)
    (kind : SymbolKind) (span : Option Span) (canonical : Bool) :
    (x.newSymbol m scope name kind span canonical).2.notes = x.notes := rfl

/-! ### Imports -/

@[simp] theorem bindImport_notes (m : SourceModule) (scope : ScopeId) (name : String)
    (span : Option Span) : (x.bindImport m scope name span).2.notes = x.notes := by
  unfold bindImport
  split
  · exact addReference_notes ..
  · rfl

theorem bindModule_notes (m : SourceModule) (scope : ScopeId) (name : String)
    (span : Option Span) (target : String) :
    (x.bindModule m scope name span target).notes = x.notes :=
  x.bindImport_notes m scope name span

theorem bindExternal_notes (m : SourceModule) (scope : ScopeId) (name : String)
    (span : Option Span) (qualname : String) :
    (x.bindExternal m scope name span qualname).notes = x.notes :=
  x.bindImport_notes m scope name span

theorem bindSymbol_notes (item : PendingImport) (name : String) (asName : Option String)
    (span : Option Span) (target : SymbolId) :
    (x.bindSymbol item name asName span target).notes = x.notes := by
  unfold bindSymbol
  dsimp only
  split
  · refine (bindImport_notes ..).trans ?_
    rw [addReference_notes, keepNamed_notes]
  · split
    · rw [addReference_notes, markDynamic_notes, markDynamic_notes, keepNamed_notes]
    · exact (addReference_notes ..).trans rfl

theorem linkFrom_notes {item : PendingImport} {name : String} {asName module : Option String}
    {final : Bool} {y : Extraction} (h : x.linkFrom item name asName module final = some y) :
    y.notes = x.notes := by
  unfold linkFrom at h
  dsimp only at h
  split at h
  · obtain rfl := Option.some.inj h
    exact bindExternal_notes ..
  · split at h
    · obtain rfl := Option.some.inj h
      exact bindExternal_notes ..
    · split at h
      · obtain rfl := Option.some.inj h
        exact bindSymbol_notes ..
      · split at h
        · obtain rfl := Option.some.inj h
          exact bindModule_notes ..
        · split at h
          · obtain rfl := Option.some.inj h
            exact (withDynamicNames_notes _ _).trans (bindExternal_notes ..)
          · cases h

theorem linkImport_notes {item : PendingImport} {final : Bool} {y : Extraction}
    (h : x.linkImport item final = some y) : y.notes = x.notes := by
  unfold linkImport at h
  dsimp only at h
  split at h
  · obtain rfl := Option.some.inj h
    exact bindModule_notes ..
  · obtain rfl := Option.some.inj h
    exact bindModule_notes ..
  · split at h
    · split at h
      · obtain rfl := Option.some.inj h
        split <;> rfl
      · obtain rfl := Option.some.inj h
        rfl
    · exact x.linkFrom_notes h
  · obtain rfl := Option.some.inj h
    rfl

theorem linkRound_notes (items : List PendingImport) :
    (x.linkRound items).1.notes = x.notes := by
  refine proj_foldl (fun state : Extraction × List PendingImport => state.1.notes) ?_ items (x, [])
  rintro ⟨y, left⟩ item
  dsimp only
  split
  · next h => exact y.linkImport_notes h
  · rfl

theorem linkRounds_notes : ∀ (rounds : Nat) (items : List PendingImport) (x : Extraction),
    (linkRounds rounds items x).notes = x.notes
  | 0, _, _ => rfl
  | rounds + 1, items, x => by
      rw [linkRounds]
      dsimp only
      split
      · exact (linkRounds_notes rounds _ _).trans (x.linkRound_notes items)
      · refine (proj_foldl notes (fun y item => ?_) _ _).trans (x.linkRound_notes items)
        cases h : y.linkImport item true with
        | none => rfl
        | some z => exact y.linkImport_notes h

theorem withImports_notes : x.withImports.notes = x.notes := linkRounds_notes ..

/-! ### Classes -/

theorem addDecorators_notes (id : SymbolId) (scope : ScopeId) (decorators : List Tree) :
    (x.addDecorators id scope decorators).notes = x.notes :=
  proj_foldl notes (fun y _ => y.updateSymbol_notes id _) decorators x

theorem linkBase_notes (c : ClassFact) (base : Tree) : (linkBase c x base).notes = x.notes := by
  unfold linkBase
  dsimp only
  split
  · split
    · rfl
    · split <;> rfl
  · split <;> rfl
  · split <;> rfl

theorem linkMetaclass_notes (c : ClassFact) (keyword : Tree) :
    (linkMetaclass c x keyword).notes = x.notes := by
  unfold linkMetaclass
  split <;> rfl

theorem linkClass_notes (c : ClassFact) : (x.linkClass c).notes = x.notes := by
  unfold linkClass
  refine (proj_foldl notes (fun y k => y.linkMetaclass_notes c k) _ _).trans ?_
  refine (proj_foldl notes (fun y b => y.linkBase_notes c b) _ _).trans ?_
  exact addDecorators_notes ..

theorem markDefaultMethod_notes (f : FunctionFact) : (x.markDefaultMethod f).notes = x.notes := by
  unfold markDefaultMethod
  split
  · split <;> rfl
  · rfl

theorem linkClasses_notes : x.linkClasses.notes = x.notes := by
  unfold linkClasses
  refine (proj_foldl notes (fun y c => ?_) _ _).trans ?_
  · split
    · exact proj_foldl notes markDefaultMethod_notes _ _
    · rfl
  · refine (proj_foldl notes (fun y f => y.addDecorators_notes _ _ _) _ _).trans ?_
    exact proj_foldl notes linkClass_notes _ _

theorem markTypeParameter_notes (item : ScopeId × String × Tree) :
    (x.markTypeParameter item).notes = x.notes := by
  unfold markTypeParameter
  dsimp only
  split
  · split <;> rfl
  · rfl

theorem withBases_notes : x.withBases.notes = x.notes := by
  refine (proj_foldl notes markTypeParameter_notes _ _).trans ?_
  exact (linkClasses_notes _).trans x.withImports_notes

theorem declareField_notes (c : ClassFact) (receiver : String) (t : Tree) :
    (declareField c receiver x t).notes = x.notes := by
  unfold declareField
  split
  · split <;> rfl
  · rfl

theorem declareMethodFields_notes (c : ClassFact) (f : FunctionFact) :
    (declareMethodFields c x f).notes = x.notes := by
  unfold declareMethodFields
  split
  · exact proj_foldl notes (fun y t => y.declareField_notes c _ t) _ _
  · rfl

theorem declareFields_notes : x.declareFields.notes = x.notes :=
  proj_foldl notes
    (fun _ c => proj_foldl notes (fun z f => z.declareMethodFields_notes c f) _ _) _ _

theorem withFields_notes : x.withFields.notes = x.notes :=
  (declareFields_notes _).trans x.withBases_notes

/-! ### Overrides -/

theorem placeholder_notes (type : SymbolId) (member : Symbol) :
    (x.placeholder type member).2.notes = x.notes := by
  unfold placeholder
  dsimp only
  split <;> rfl

theorem linkOverride_notes (member : Symbol) (state : Extraction × Bool) (base : SymbolId) :
    (linkOverride member state base).1.notes = state.1.notes := by
  unfold linkOverride
  dsimp only
  split
  · split <;> rfl
  · rfl

theorem linkMember_notes (c : ClassFact) (member : Symbol) :
    (linkMember c x member).notes = x.notes := by
  have hlink : ∀ bases : List SymbolId,
      (bases.foldl (linkOverride member) (x, false)).1.notes = x.notes := fun bases =>
    proj_foldl (fun state : Extraction × Bool => state.1.notes) (linkOverride_notes member)
      bases (x, false)
  unfold linkMember
  dsimp only
  split
  · rfl
  · split
    · exact (placeholder_notes ..).trans (hlink _)
    · exact hlink _

theorem linkOverrides_notes : x.linkOverrides.notes = x.notes := by
  unfold linkOverrides
  refine (proj_foldl notes (fun y s => ?_) _ _).trans ?_
  · split
    · exact y.markAllDynamic_notes _
    · rfl
  · exact proj_foldl notes (fun y c => proj_foldl notes (fun z m => z.linkMember_notes c m) _ _) _ _

theorem withOverrides_notes : x.withOverrides.notes = x.notes :=
  (linkOverrides_notes _).trans x.withFields_notes

/-! ## Recording uses declares nothing -/

/-- The declarations and the notes of an extraction: what recording uses does not change. -/
def settled (x : Extraction) : Extraction × Extraction := (x.outline, x.notes)

variable {x} in
theorem outline_eq_of_settled {y : Extraction} (h : y.settled = x.settled) :
    y.outline = x.outline :=
  congrArg Prod.fst h

variable {x} in
theorem notes_eq_of_settled {y : Extraction} (h : y.settled = x.settled) : y.notes = x.notes :=
  congrArg Prod.snd h

theorem withGraph_settled {g : Graph} (h : g.outline = x.graph.outline) :
    ({ x with graph := g } : Extraction).settled = x.settled :=
  Prod.ext (x.withGraph_outline h) rfl

@[simp] theorem markAllDynamic_settled (ids : List SymbolId) :
    (x.markAllDynamic ids).settled = x.settled := by
  simp [settled]

@[simp] theorem addReference_settled (m : SourceModule) (id : SymbolId) (span : Option Span)
    (scope : Option ScopeId) (binds : Bool) :
    (x.addReference m id span scope binds).settled = x.settled := by
  simp [settled]

@[simp] theorem keepNamed_settled (id : SymbolId) : (x.keepNamed id).settled = x.settled := rfl

theorem updateSymbol_settled (id : SymbolId) {f : Symbol → Symbol}
    (hf : ∀ s, (f s).outline = s.outline) : (x.updateSymbol id f).settled = x.settled := by
  simp [settled, x.updateSymbol_outline id hf]

theorem visitName_settled (m : SourceModule) (scope : ScopeId) (t : Tree) (id : String)
    (context : Context) (inText : Bool) :
    (x.visitName m scope t id context inText).settled = x.settled := by
  unfold visitName
  split
  · split
    · refine x.withGraph_settled (x.graph.updateScope_outline scope fun c => ?_)
      split <;> rfl
    · rfl
  · dsimp only
    split
    · rfl
    · split
      · rfl
      · split <;> simp

theorem visitAttribute_settled (m : SourceModule) (scope : ScopeId) (t : Tree) (name : String) :
    (x.visitAttribute m scope t name).settled = x.settled := by
  unfold visitAttribute
  split <;> first | rfl | simp

theorem visitDynamicCall_settled (scope : ScopeId) (call function : Tree) :
    (x.visitDynamicCall scope call function).settled = x.settled := by
  unfold visitDynamicCall
  split
  · split <;> rfl
  · rfl

theorem visitKeyword_settled (m : SourceModule) (parameters : Option (List SymbolId))
    (keyword : Tree) : (visitKeyword m parameters x keyword).settled = x.settled := by
  unfold visitKeyword
  split
  · simp
  · split
    · simp
    · rfl
  · rfl

theorem visitCall_settled (m : SourceModule) (scope : ScopeId) (call : Tree) :
    (x.visitCall m scope call).settled = x.settled := by
  unfold visitCall
  split
  · rfl
  · dsimp only
    split
    · exact x.visitDynamicCall_settled ..
    · exact (proj_foldl settled (fun y k => y.visitKeyword_settled ..) _ _).trans
        (x.visitDynamicCall_settled ..)

theorem visitDeclared_settled (m : SourceModule) (scope : ScopeId) (t : Tree) (keyword : String)
    (symbolOf : Extraction → String → Option SymbolId) (name : String) :
    (visitDeclared m scope t keyword symbolOf x name).settled = x.settled := by
  unfold visitDeclared
  split
  · rfl
  · simp

theorem visit_settled (m : SourceModule) (scope : ScopeId) (v : Visit) :
    (visit m scope x v).settled = x.settled := by
  unfold visit
  dsimp only
  split
  · exact x.visitName_settled ..
  · exact x.visitAttribute_settled ..
  · exact x.visitCall_settled ..
  · exact proj_foldl settled (fun y n => y.visitDeclared_settled ..) _ _
  · exact proj_foldl settled (fun y n => y.visitDeclared_settled ..) _ _
  · rfl
  · rfl
  · rfl

theorem collectRegion_settled (r : Region) : (x.collectRegion r).settled = x.settled :=
  proj_foldl settled (fun y _ => y.visit_settled ..) _ _

theorem withUses_settled : x.withUses.settled = x.withOverrides.settled :=
  proj_foldl settled collectRegion_settled _ _

/-! ## The last phases -/

theorem markScope_settled (scope : ScopeId) (p : Symbol → Bool) :
    (x.markScope scope p).settled = x.settled :=
  x.markAllDynamic_settled _

theorem markDynamicSymbols_settled : x.markDynamicSymbols.settled = x.settled := by
  have hmark : ({ x with graph := (x.graph.markDynamic x.dynamicNames false).2 } :
      Extraction).settled = x.settled := by
    have hsymbols : (x.graph.markDynamic x.dynamicNames false).2.outline = x.graph.outline := by
      simp only [Graph.outline, Graph.markDynamic, List.map_map]
      congr 1
      refine List.map_congr_left fun s _ => ?_
      simp only [Function.comp]
      split <;> rfl
    exact x.withGraph_settled hsymbols
  unfold markDynamicSymbols
  refine (proj_foldl settled (fun y n => y.markScope_settled ..) _ _).trans ?_
  refine (proj_foldl settled (fun y s => y.markScope_settled ..) _ _).trans ?_
  exact (markAllDynamic_settled _ _).trans hmark

theorem checkSpans_settled : x.checkSpans.settled = x.settled := by
  have hsymbols : x.checkSpans.graph.outline = x.graph.outline := by
    simp only [checkSpans, Graph.outline, List.map_map]
    rfl
  exact x.withGraph_settled hsymbols

theorem findConstant_settled (item : SourceModule × String × Tree) :
    (x.findConstant item).settled = x.settled := by
  unfold findConstant
  dsimp only
  split
  · rfl
  · split
    · rfl
    · split
      · split
        · exact x.updateSymbol_settled _ fun _ => rfl
        · rfl
      · rfl

theorem withConstants_settled : x.withConstants.settled = x.withOverrides.settled := by
  refine (proj_foldl settled findConstant_settled _ _).trans ?_
  refine (checkSpans_settled _).trans ?_
  exact (markDynamicSymbols_settled _).trans x.withUses_settled

variable {x}

/-- After overrides are linked no declaration changes any more. -/
theorem resolve_outline (h : x.resolved = false) : x.resolve.outline = x.withOverrides.outline := by
  have hsettled := outline_eq_of_settled x.withConstants_settled
  rw [resolve_eq h, withGraph_outline _ x.withConstants.graph.forgetRoots_outline, hsettled]

/-- What was noted while the modules were added stays. -/
theorem resolve_notes (h : x.resolved = false) : x.resolve.notes = x.notes := by
  have hsettled := notes_eq_of_settled x.withConstants_settled
  rw [resolve_eq h, withGraph_notes, hsettled, withOverrides_notes]

end Extraction

end Pseudonym
