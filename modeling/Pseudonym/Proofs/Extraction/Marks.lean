import Mathlib.Data.List.Nodup
import Pseudonym.Proofs.Extraction.Binding

/-!
# Where names are recorded

A symbol keeps the places at which its name stands: its declaration and its uses. A place and a
symbol that is recorded there are a mark. Each function of the extraction makes marks only at the
places that the node has which it is called for, and one at each of them (`Records`). Walks meet a
node at most once, and an import is linked once, so no place is marked twice until fields are
declared (`Gathered.booked`).
-/

namespace Pseudonym

open Files Python Python.Tree

/-! ## The places of a node -/

namespace SourceModule

variable (m : SourceModule)

/-- Where a node binds a name. -/
def bindingPlaces (t : Tree) : List Span :=
  let first := t.range.start
  let last := t.range.stop
  match t.label with
  | .functionDef name _ | .classDef name =>
    (m.searchSpan? (.words ["def", "class"]) name first.line first.column first.line).toList
  | .name _ .store | .name _ .delete | .name _ .walrus => (m.nodeSpan? t).toList
  | .handler (some name) =>
    (m.searchSpan? (.words ["as"]) name first.line first.column last.line).toList
  | .matchAs (some name) | .matchStar (some name) => (m.tailSpan? t name).toList
  | .matchMapping (some name) =>
    (m.searchSpan? .stars name first.line first.column last.line).toList
  | _ => []

/-- Where a parameter has its name. -/
def parameterPlaces (parameter : Tree) : List Span :=
  match parameter.label with
  | .parameter name _ _ => (m.headSpan? parameter name).toList
  | _ => []

/-- Where a function names its parameters. -/
def signaturePlaces (t : Tree) : List Span :=
  match t.label with
  | .functionDef .. | .lambda => (t.all .parameter).flatMap m.parameterPlaces
  | _ => []

/-- Where an import names what it binds and what it takes over. -/
def importPlaces (statement importedName : Tree) : List Span :=
  match statement.label, importedName.label with
  | .importModules, .importedName _ (some asName) => (m.tailSpan? importedName asName).toList
  | .importModules, .importedName name none =>
    (m.headSpan? importedName ((name.splitOn ".").head?.getD "")).toList
  | .importFrom .., .importedName name asName =>
    (m.headSpan? importedName name).toList ++
      (asName.bind (m.tailSpan? importedName)).toList
  | _, _ => []

/-- Where a statement imports names. -/
def statementPlaces (t : Tree) : List Span :=
  match t.label with
  | .importModules | .importFrom .. => (t.all .importedName).flatMap (m.importPlaces t)
  | _ => []

/-- Where a node declares names. -/
def declaringPlaces (t : Tree) : List Span :=
  m.bindingPlaces t ++ m.signaturePlaces t ++ m.statementPlaces t

end SourceModule

/-- Where an import names what it binds and what it takes over. -/
def PendingImport.places (i : PendingImport) : List Span :=
  i.module.importPlaces i.statement i.importedName

/-- What is recorded about a symbol: its places, its literal and its parameters. -/
def Symbol.imprint (s : Symbol) : SymbolId × List Span × Option String × List SymbolId :=
  (s.id, s.spans, s.literal, s.parameters)

namespace Extraction

/-! ## Marks -/

/-- What is recorded about all symbols, and what is declared. -/
def imprint (x : Extraction) : List (SymbolId × List Span × Option String × List SymbolId) ×
    List ((ScopeId × String) × SymbolId) :=
  (x.graph.symbols.map Symbol.imprint, x.index)

/-- The places of all symbols, with the symbols. -/
def marks (x : Extraction) : List (Span × SymbolId) :=
  x.imprint.1.flatMap fun e => e.2.1.map fun span => (span, e.1)

theorem mem_marks {x : Extraction} {span : Span} {id : SymbolId} :
    (span, id) ∈ x.marks ↔ ∃ s ∈ x.graph.symbols, s.id = id ∧ span ∈ s.spans := by
  simp only [marks, imprint, Symbol.imprint, List.flatMap_map, List.mem_flatMap, List.mem_map,
    Prod.mk.injEq]
  constructor
  · rintro ⟨s, hs, place, hplace, rfl, rfl⟩
    exact ⟨s, hs, rfl, hplace⟩
  · rintro ⟨s, hs, rfl, hspan⟩
    exact ⟨s, hs, span, hspan, rfl, rfl⟩

/-- Symbols of the same imprint. -/
theorem exists_of_imprint {x y : Extraction} (h : y.imprint = x.imprint) {t : Symbol}
    (ht : t ∈ y.graph.symbols) : ∃ s ∈ x.graph.symbols, s.imprint = t.imprint := by
  have hsymbols : y.graph.symbols.map Symbol.imprint = x.graph.symbols.map Symbol.imprint :=
    congrArg Prod.fst h
  exact List.mem_map.1 (hsymbols ▸ List.mem_map_of_mem ht)

/-- No id was given twice, and no literal was found yet. -/
def Tidy (x : Extraction) : Prop :=
  x.graph.symbolIds.Nodup ∧ ∀ s ∈ x.graph.symbols, s.literal = none

theorem Tidy.of_imprint {x y : Extraction} (h : y.imprint = x.imprint) (hx : x.Tidy) :
    y.Tidy := by
  have hids : ∀ z : Extraction, z.graph.symbolIds = z.imprint.1.map (·.1) := fun z => by
    rw [imprint, List.map_map]
    rfl
  refine ⟨by rw [hids, h, ← hids]; exact hx.1, fun t ht => ?_⟩
  obtain ⟨s, hs, heq⟩ := exists_of_imprint h ht
  have hliteral : s.literal = t.literal := congrArg (·.2.2.1) heq
  exact hliteral ▸ hx.2 s hs

/-- Marks are kept, new ones are made at most once at each of some places, and ids and literals stay
in order. -/
def Records (x y : Extraction) (places : List Span) : Prop :=
  x.marks ⊆ y.marks ∧
    (∃ made : List (Span × SymbolId), y.marks ⊆ x.marks ++ made ∧
      (made.map Prod.fst).Subperm places) ∧
    (x.Tidy → y.Tidy)

namespace Records

variable {x y z : Extraction} {places places' : List Span}

theorem of_marks (h : y.marks = x.marks) (htidy : x.Tidy → y.Tidy) : Records x y [] := by
  refine ⟨h ▸ List.Subset.refl _, ⟨[], ?_, List.Subperm.refl _⟩, htidy⟩
  rw [h, List.append_nil]
  exact List.Subset.refl _

theorem of_imprint (h : y.imprint = x.imprint) : Records x y [] :=
  of_marks (by rw [marks, marks, h]) (Tidy.of_imprint h)

theorem refl (x : Extraction) : Records x x [] := of_imprint rfl

theorem trans (h : Records x y places) (h' : Records y z places') :
    Records x z (places ++ places') := by
  obtain ⟨hkept, ⟨made, hmade, hplaces⟩, htidy⟩ := h
  obtain ⟨hkept', ⟨made', hmade', hplaces'⟩, htidy'⟩ := h'
  refine ⟨List.Subset.trans hkept hkept', ⟨made ++ made', ?_, ?_⟩, htidy' ∘ htidy⟩
  · refine List.Subset.trans hmade' ?_
    rw [← List.append_assoc]
    exact List.append_subset.2 ⟨List.Subset.trans hmade (List.subset_append_left _ _),
      List.subset_append_right _ _⟩
  · rw [List.map_append]
    exact hplaces.append hplaces'

theorem mono (h : Records x y places) (hsub : places.Subperm places') : Records x y places' := by
  obtain ⟨hkept, ⟨made, hmade, hplaces⟩, htidy⟩ := h
  exact ⟨hkept, ⟨made, hmade, hplaces.trans hsub⟩, htidy⟩

/-- Something becomes known about a symbol that is neither a place nor a literal. -/
theorem updateSymbol (h : Records x y places) (id : SymbolId) {f : Symbol → Symbol}
    (hf : ∀ s, (f s).id = s.id ∧ (f s).spans = s.spans ∧ (f s).literal = s.literal) :
    Records x (y.updateSymbol id f) places := by
  have hsame : ∀ s : Symbol, (if s.id = id then f s else s).id = s.id ∧
      (if s.id = id then f s else s).spans = s.spans ∧
      (if s.id = id then f s else s).literal = s.literal := by
    intro s
    split
    · exact hf s
    · exact ⟨rfl, rfl, rfl⟩
  have hmarks : (y.updateSymbol id f).marks = y.marks := by
    simp only [marks, imprint, Symbol.imprint, Extraction.updateSymbol, Graph.updateSymbol,
      List.flatMap_map, hsame]
  have hall := h.trans (of_marks hmarks fun htidy => ⟨?_, fun t ht => ?_⟩)
  · rwa [List.append_nil] at hall
  · exact (Graph.updateSymbol_symbolIds fun s => (hf s).1).symm ▸ htidy.1
  · obtain ⟨s, hs, rfl⟩ := List.mem_map.1 ht
    exact (hsame s).2.2.trans (htidy.2 s hs)

/-- A fold records what its rounds record. -/
theorem foldl {α σ : Type} (π : σ → Extraction) {f : σ → α → σ} (at' : α → List Span)
    (h : ∀ s a, Records (π s) (π (f s a)) (at' a)) : ∀ (as : List α) (s : σ),
    Records (π s) (π (as.foldl f s)) (as.flatMap at')
  | [], s => refl (π s)
  | a :: as, s => by
      rw [List.foldl_cons, List.flatMap_cons]
      exact (h s a).trans (foldl π at' h as (f s a))

/-- The places that are new are among those given. -/
theorem place_mem (h : Records x y places) {mark : Span × SymbolId} (hmark : mark ∈ y.marks) :
    mark ∈ x.marks ∨ mark.1 ∈ places := by
  obtain ⟨-, ⟨made, hmade, hplaces⟩, -⟩ := h
  exact (List.mem_append.1 (hmade hmark)).imp_right fun hnew =>
    hplaces.subset (List.mem_map_of_mem hnew)

end Records

/-- What was declared stays declared, and functions keep the parameters they have. -/
def Carries (x y : Extraction) : Prop :=
  x.index ⊆ y.index ∧ ∀ t ∈ y.graph.symbols, t.parameters = [] ∨
    ∃ s ∈ x.graph.symbols, s.id = t.id ∧ s.parameters = t.parameters

theorem Carries.trans {x y z : Extraction} (h : Carries x y) (h' : Carries y z) : Carries x z := by
  refine ⟨List.Subset.trans h.1 h'.1, fun u hu => ?_⟩
  rcases h'.2 u hu with hnone | ⟨t, ht, hid, hparameters⟩
  · exact .inl hnone
  · rcases h.2 t ht with hnone | ⟨s, hs, hid', hparameters'⟩
    · exact .inl (hparameters ▸ hnone)
    · exact .inr ⟨s, hs, hid'.trans hid, hparameters'.trans hparameters⟩

theorem Carries.of_imprint {x y : Extraction} (h : y.imprint = x.imprint) : Carries x y := by
  have hindex : y.index = x.index := congrArg Prod.snd h
  refine ⟨hindex ▸ List.Subset.refl _, fun t ht => .inr ?_⟩
  obtain ⟨s, hs, heq⟩ := exists_of_imprint h ht
  exact ⟨s, hs, congrArg (·.1) heq, congrArg (·.2.2.2) heq⟩

theorem Carries.mem_parameters {x y : Extraction} (h : Carries x y) {t : Symbol}
    (ht : t ∈ y.graph.symbols) {p : SymbolId} (hp : p ∈ t.parameters) :
    ∃ s ∈ x.graph.symbols, s.id = t.id ∧ p ∈ s.parameters := by
  rcases h.2 t ht with hnone | ⟨s, hs, hid, hparameters⟩
  · rw [hnone] at hp
    cases hp
  · exact ⟨s, hs, hid, hparameters ▸ hp⟩

/-- Marks are made at some places, and neither declarations nor parameters change. -/
def Traces (x y : Extraction) (places : List Span) : Prop := Records x y places ∧ Carries x y

namespace Traces

variable {x y z : Extraction} {places places' : List Span}

theorem of_imprint (h : y.imprint = x.imprint) : Traces x y [] :=
  ⟨Records.of_imprint h, Carries.of_imprint h⟩

theorem refl (x : Extraction) : Traces x x [] := of_imprint rfl

theorem trans (h : Traces x y places) (h' : Traces y z places') :
    Traces x z (places ++ places') :=
  ⟨h.1.trans h'.1, h.2.trans h'.2⟩

theorem mono (h : Traces x y places) (hsub : places.Subperm places') : Traces x y places' :=
  ⟨h.1.mono hsub, h.2⟩

theorem of_imprint_left (h : Traces y z places) (himprint : y.imprint = x.imprint) :
    Traces x z places :=
  (of_imprint himprint).trans h

theorem of_imprint_right (h : Traces x y places) (himprint : z.imprint = y.imprint) :
    Traces x z places := by
  have hall := h.trans (of_imprint himprint)
  rwa [List.append_nil] at hall

/-- A fold traces what its rounds trace. -/
theorem foldl {α σ : Type} (π : σ → Extraction) {f : σ → α → σ} (at' : α → List Span)
    (h : ∀ s a, Traces (π s) (π (f s a)) (at' a)) : ∀ (as : List α) (s : σ),
    Traces (π s) (π (as.foldl f s)) (as.flatMap at')
  | [], s => refl (π s)
  | a :: as, s => by
      rw [List.foldl_cons, List.flatMap_cons]
      exact (h s a).trans (foldl π at' h as (f s a))

end Traces

variable (x : Extraction)

theorem updateSymbol_imprint (id : SymbolId) {f : Symbol → Symbol}
    (hf : ∀ s, (f s).imprint = s.imprint) : (x.updateSymbol id f).imprint = x.imprint := by
  refine Prod.ext ?_ rfl
  unfold imprint updateSymbol Graph.updateSymbol
  dsimp only
  rw [List.map_map]
  refine List.map_congr_left fun s _ => ?_
  rw [Function.comp]
  split
  · exact hf s
  · rfl

@[simp] theorem markDynamic_imprint (id : SymbolId) : (x.markDynamic id).imprint = x.imprint :=
  x.updateSymbol_imprint id fun _ => rfl

@[simp] theorem markAllDynamic_imprint (ids : List SymbolId) :
    (x.markAllDynamic ids).imprint = x.imprint :=
  proj_foldl imprint markDynamic_imprint ids x

@[simp] theorem keepNamed_imprint (id : SymbolId) : (x.keepNamed id).imprint = x.imprint := rfl

theorem mem_spans_addReference {s : Symbol} {r : Reference} {span : Span} :
    span ∈ (s.addReference r).spans ↔ span ∈ s.spans ∨ span = r.span := by
  unfold Symbol.addReference
  split
  · next hknown =>
      refine ⟨.inl, fun h => h.elim id fun heq => ?_⟩
      rw [heq]
      simp only [Symbol.spans, List.mem_append, Option.mem_toList, List.mem_map]
      refine hknown.imp id fun hany => ?_
      obtain ⟨u, hu, huspan⟩ := List.any_eq_true.1 hany
      exact ⟨u, hu, of_decide_eq_true huspan⟩
  · simp [Symbol.spans, or_assoc]

theorem addReference_id (s : Symbol) (r : Reference) : (s.addReference r).id = s.id := by
  unfold Symbol.addReference
  split <;> rfl

theorem addReference_literal (s : Symbol) (r : Reference) :
    (s.addReference r).literal = s.literal := by
  unfold Symbol.addReference
  split <;> rfl

/-- A use of a symbol marks it at the place of the use. -/
theorem mem_marks_addReference {id : SymbolId} {r : Reference} {p : Span × SymbolId} :
    p ∈ ({ x with graph := x.graph.addReference id r } : Extraction).marks ↔
      p ∈ x.marks ∨ p = (r.span, id) ∧ id ∈ x.graph.symbolIds := by
  obtain ⟨span, i⟩ := p
  rw [mem_marks, mem_marks]
  simp only [Graph.addReference, Graph.updateSymbol, List.mem_map, Prod.mk.injEq,
    Graph.mem_symbolIds]
  constructor
  · rintro ⟨-, ⟨s, hs, rfl⟩, hid, hspan⟩
    by_cases hsid : s.id = id
    · rw [if_pos hsid] at hid hspan
      rw [addReference_id] at hid
      rcases mem_spans_addReference.1 hspan with hspan | hspan
      · exact .inl ⟨s, hs, hid, hspan⟩
      · exact .inr ⟨⟨hspan, hid.symm.trans hsid⟩, s, hs, hsid⟩
    · rw [if_neg hsid] at hid hspan
      exact .inl ⟨s, hs, hid, hspan⟩
  · rintro (⟨s, hs, hid, hspan⟩ | ⟨⟨rfl, rfl⟩, s, hs, hid⟩)
    · refine ⟨_, ⟨s, hs, rfl⟩, ?_⟩
      split
      · exact ⟨(addReference_id ..).trans hid, mem_spans_addReference.2 (.inl hspan)⟩
      · exact ⟨hid, hspan⟩
    · refine ⟨_, ⟨s, hs, rfl⟩, ?_⟩
      rw [if_pos hid]
      exact ⟨(addReference_id ..).trans hid, mem_spans_addReference.2 (.inr rfl)⟩

theorem addReference_symbolIds (g : Graph) (id : SymbolId) (r : Reference) :
    (g.addReference id r).symbolIds = g.symbolIds :=
  Graph.updateSymbol_symbolIds fun s => addReference_id s r

theorem addReference_parameters (s : Symbol) (r : Reference) :
    (s.addReference r).parameters = s.parameters := by
  unfold Symbol.addReference
  split <;> rfl

theorem addReference_traces (m : SourceModule) (id : SymbolId) (span : Option Span)
    (scope : Option ScopeId) (binds : Bool) :
    Traces x (x.addReference m id span scope binds) span.toList := by
  have hnone : Traces x x span.toList :=
    (Traces.refl x).mono (List.nil_sublist _).subperm
  unfold addReference
  split
  · split
    · exact hnone.of_imprint_right (x.markDynamic_imprint id)
    · exact hnone
  · split
    · exact hnone.of_imprint_right (x.updateSymbol_imprint id fun _ => rfl)
    · next span =>
        refine ⟨⟨fun p hp => (x.mem_marks_addReference).2 (.inl hp), ⟨[(span, id)], fun p hp => ?_,
          List.Subperm.refl _⟩, fun htidy => ⟨?_, fun s hs => ?_⟩⟩, List.Subset.refl _,
          fun t ht => ?_⟩
        · rcases (x.mem_marks_addReference).1 hp with hp | ⟨rfl, -⟩
          · exact List.mem_append_left _ hp
          · exact List.mem_append_right _ (List.mem_singleton_self _)
        · exact (addReference_symbolIds ..).symm ▸ htidy.1
        · obtain ⟨t, ht, rfl⟩ := List.mem_map.1 hs
          split
          · exact (addReference_literal ..).trans (htidy.2 t ht)
          · exact htidy.2 t ht
        · obtain ⟨s, hs, rfl⟩ := List.mem_map.1 ht
          refine .inr ⟨s, hs, ?_⟩
          split
          · exact ⟨(addReference_id ..).symm, (addReference_parameters ..).symm⟩
          · exact ⟨rfl, rfl⟩

/-- A symbol that is registered brings its places. -/
theorem addSymbol_traces {s : Symbol} (hliteral : s.literal = none) (hparameters : s.parameters = [])
    {g : Graph} (hadd : x.graph.addSymbol s = .ok g) : Traces x { x with graph := g } s.spans := by
  unfold Graph.addSymbol at hadd
  split at hadd
  · cases hadd
  · next hfree =>
      obtain rfl := Except.ok.inj hadd
      have hmarks : ({ x with graph := { x.graph with
          symbols := x.graph.symbols ++ [s], naming := x.graph.naming ++ [s.id] } } :
          Extraction).marks = x.marks ++ s.spans.map fun place => (place, s.id) := by
        simp [marks, imprint, Symbol.imprint]
      refine ⟨⟨?_, ⟨s.spans.map fun place => (place, s.id), ?_, ?_⟩, fun htidy => ⟨?_, ?_⟩⟩,
        List.Subset.refl _, ?_⟩
      · exact hmarks ▸ List.subset_append_left _ _
      · exact hmarks ▸ List.Subset.refl _
      · rw [List.map_map]
        exact (List.Perm.of_eq (List.map_id _)).subperm
      · simp only [Graph.symbolIds, List.map_append, List.map_cons, List.map_nil]
        rw [Graph.contains_iff] at hfree
        exact List.nodup_append.2 ⟨htidy.1, List.nodup_singleton _, fun i hi j hj heq =>
          hfree (List.mem_singleton.1 hj ▸ heq ▸ hi)⟩
      all_goals
        intro t ht
        rcases List.mem_append.1 ht with ht | ht
      · exact htidy.2 t ht
      · exact List.mem_singleton.1 ht ▸ hliteral
      · exact .inr ⟨t, ht, rfl, rfl⟩
      · exact .inl (List.mem_singleton.1 ht ▸ hparameters)

/-- Entries of the index are added. -/
theorem addEntry_traces (entry : (ScopeId × String) × SymbolId) :
    Traces x { x with index := entry :: x.index } [] :=
  ⟨Records.refl x, List.subset_cons_self _ _, fun t ht => .inr ⟨t, ht, rfl, rfl⟩⟩

theorem newSymbol_traces (m : SourceModule) (scope : ScopeId) (name : String)
    (kind : SymbolKind) (span : Option Span) (canonical : Bool) :
    Traces x (x.newSymbol m scope name kind span canonical).2 span.toList := by
  unfold newSymbol
  dsimp only
  generalize s!"{scope}::{name}" = plain
  generalize (if x.graph.contains plain then s!"{plain}#{x.counter}" else plain) = id
  rw [← List.append_nil span.toList]
  split
  · next g hadd =>
      have hspans : (x.makeSymbol m scope name kind span canonical id).spans = span.toList :=
        List.append_nil _
      exact ((x.addSymbol_traces rfl rfl hadd).mono (List.Perm.of_eq hspans).subperm).trans
        (addEntry_traces { x with graph := g } _)
  · exact ((Traces.refl x).mono (List.nil_sublist _).subperm).trans (x.addEntry_traces _)

/-! ## Names that a scope binds -/

theorem bind_traces (m : SourceModule) (scope : ScopeId) (name : String) (kind : SymbolKind)
    (span : Option Span) (occurrence : ScopeId) :
    Traces x (x.bind m scope name kind span occurrence).2 span.toList := by
  unfold bind
  split
  · next id _ =>
      dsimp only
      split
      · exact (Traces.refl x).mono (List.nil_sublist _).subperm
      · exact addReference_traces { x with bindings := id :: x.bindings } ..
  · exact x.newSymbol_traces m scope name kind span true

theorem bindHere_traces (d : Declaring) (name : String) (kind : SymbolKind)
    (span : Option Span) : Traces x (x.bindHere d name kind span).2 span.toList :=
  bind_traces ..

theorem bindWalrus_traces (d : Declaring) (name : String) (span : Option Span) :
    Traces x (x.bindWalrus d name span) span.toList := by
  unfold bindWalrus
  dsimp only
  split
  · exact bindHere_traces ..
  · exact bind_traces ..

theorem declareVisit_traces (d : Declaring) (nested : List NestedScope) (v : Visit) :
    Traces x (declareVisit d (x, nested) v).1 (d.module.bindingPlaces v.node) := by
  unfold declareVisit
  dsimp only
  split
  case h_7 heq =>
    simp only [SourceModule.bindingPlaces, heq]
    exact bindWalrus_traces ..
  case h_14 heq =>
    simp only [SourceModule.bindingPlaces, heq]
    split
    · split <;> exact Traces.refl x
    · exact Traces.refl x
  case h_15 hfunction hclass _ _ hstore hdelete hwalrus _ _ hhandler hmatch hstar hmapping _ =>
    refine (Traces.refl x).mono (List.nil_sublist _).subperm
  all_goals next heq =>
    simp only [SourceModule.bindingPlaces, heq]
    first | exact bindHere_traces .. | exact Traces.refl x

theorem declareRegion_traces (r : Region) :
    Traces x (x.declareRegion r).1 (r.met.flatMap r.module.bindingPlaces) := by
  rw [Region.met, List.flatMap_map]
  exact Traces.foldl (Prod.fst (β := List NestedScope)) _
    (fun state v => declareVisit_traces state.1 _ state.2 v) _ (x, [])

/-! ## Opening scopes -/

theorem uniqueScope_imprint (id : ScopeId) : (x.uniqueScope id).2.imprint = x.imprint := by
  unfold uniqueScope
  split <;> rfl

theorem scopeIdFor_imprint (parent : ScopeId) (node : Tree) :
    (x.scopeIdFor parent node).2.imprint = x.imprint := by
  unfold scopeIdFor
  dsimp only
  split <;> exact uniqueScope_imprint ..

theorem declareParameter_records (s : Signature) (receiver : Option SymbolId)
    (item : Tree × Nat) :
    Records x (declareParameter s (x, receiver) item).1 (s.module.parameterPlaces item.1) := by
  unfold declareParameter
  dsimp only
  split
  · next name _ _ heq =>
      simp only [SourceModule.parameterPlaces, heq]
      have hbind := (x.bind_traces s.module s.scope name .variable
        (s.module.headSpan? item.1 name) s.scope).1
      generalize x.bind s.module s.scope name .variable (s.module.headSpan? item.1 name) s.scope =
        bound at hbind ⊢
      obtain ⟨id, y⟩ := bound
      split
      · exact hbind.updateSymbol id (f := fun p => { p with isSynthesized := true })
          fun _ => ⟨rfl, rfl, rfl⟩
      · split
        · next f _ =>
            exact hbind.updateSymbol f (f := fun p => { p with parameters := p.parameters ++ [id] })
              fun _ => ⟨rfl, rfl, rfl⟩
        · exact hbind
  · exact (Records.refl x).mono (List.nil_sublist _).subperm

theorem declareParameters_records (m : SourceModule) (parent scope : ScopeId) (node : Tree)
    (owner : Option SymbolId) :
    Records x (x.declareParameters m parent scope node owner)
      ((node.all .parameter).flatMap m.parameterPlaces) := by
  have hfold : ∀ receiverType function, Records x
      ((node.all .parameter).zipIdx.foldl
        (declareParameter ⟨m, scope, receiverType, function⟩) (x, none)).1
      ((node.all .parameter).flatMap m.parameterPlaces) := by
    intro receiverType function
    have hparameters := Records.foldl (Prod.fst (β := Option SymbolId))
      (fun item : Tree × Nat => m.parameterPlaces item.1)
      (fun state item => declareParameter_records state.1 ⟨m, scope, receiverType, function⟩
        state.2 item) (node.all .parameter).zipIdx (x, none)
    rwa [← List.flatMap_map Prod.fst, List.zipIdx_map_fst] at hparameters
  have htyped : ∀ {y : Extraction} {places : List Span} (id : SymbolId) (types : List String),
      Records x y places →
      Records x (y.updateSymbol id fun s => { s with parameterTypes := types }) places :=
    fun id _ h => h.updateSymbol id fun _ => ⟨rfl, rfl, rfl⟩
  unfold declareParameters
  dsimp only
  split
  · split
    · split
      · exact htyped _ _ (hfold _ _)
      · exact hfold _ _
    · split
      · exact htyped _ _ (hfold _ _)
      · exact hfold _ _
  · split
    · exact htyped _ _ (hfold _ _)
    · exact hfold _ _

theorem opened_imprint (m : SourceModule) (parent : ScopeId) (n : NestedScope) :
    (x.opened m parent n).2.imprint = x.imprint := by
  have hstart := x.scopeIdFor_imprint parent n.node
  unfold opened Graph.addScope
  dsimp only
  split
  · next hadd =>
      split at hadd
      · cases hadd
      · obtain rfl := Except.ok.inj hadd
        exact hstart
  · exact hstart

theorem openScope_records (m : SourceModule) (parent : ScopeId) (n : NestedScope) :
    Records x (x.openScope m parent n).1 (m.signaturePlaces n.node) := by
  have hstart := Records.of_imprint (x.opened_imprint m parent n)
  have hparameters := hstart.trans (declareParameters_records (x.opened m parent n).2 m parent
    (x.opened m parent n).1 n.node n.owner)
  rw [openScope_eq_furnish]
  dsimp only
  unfold furnish
  split
  · next heq _ =>
      simp only [SourceModule.signaturePlaces, heq]
      exact hstart
  · next heq =>
      simp only [SourceModule.signaturePlaces, heq]
      exact hparameters
  · next heq =>
      simp only [SourceModule.signaturePlaces, heq]
      exact hparameters
  · exact hstart.mono (List.nil_sublist _).subperm

theorem openScopes_records (m : SourceModule) (parent : ScopeId) : ∀ (ns : List NestedScope)
    (x : Extraction), Records x (openScopes m parent ns x).1
      ((ns.map (·.node)).flatMap m.signaturePlaces)
  | [], x => Records.refl x
  | n :: ns, x => by
      rw [List.map_cons, List.flatMap_cons]
      exact (x.openScope_records m parent n).trans (openScopes_records m parent ns _)

/-- A round records the names that its region binds and the parameters of the scopes in it. -/
theorem round_records (r : Region) :
    Records x (x.round r).1 (r.met.flatMap fun t =>
      r.module.bindingPlaces t ++ r.module.signaturePlaces t) := by
  have hdeclared := declareRegion_traces { x with regions := x.regions ++ [r] } r
  have hopened := openScopes_records r.module r.scope
    ({ x with regions := x.regions ++ [r] }.declareRegion r).2
    ({ x with regions := x.regions ++ [r] }.declareRegion r).1
  rw [(declareRegion_eq _ r).2, metScopes, ← r.met_eq] at hopened
  have hscopes := (List.filter_sublist (p := opensScope) (l := r.met)).flatMap
    r.module.signaturePlaces
  have hall := hdeclared.1.trans (hopened.mono hscopes.subperm)
  exact hall.mono (List.flatMap_append_perm _ _ _).subperm

/-! ## Modules -/

variable {x}

/-- The marks of an extraction, and those that imports can still make, are at different places, and
its ids and literals are in order. -/
def Booked (x : Extraction) (left : List PendingImport) (places : List Span) : Prop :=
  (∃ made : List (Span × SymbolId), x.marks ⊆ made ∧
    (made.map Prod.fst ++ left.flatMap PendingImport.places).Subperm places) ∧ x.Tidy

theorem Booked.mono {left : List PendingImport} {places places' : List Span}
    (h : Booked x left places) (hsub : places.Subperm places') : Booked x left places' := by
  obtain ⟨⟨made, hmade, hplaces⟩, htidy⟩ := h
  exact ⟨⟨made, hmade, hplaces.trans hsub⟩, htidy⟩

/-- What is recorded, and the imports that are noted, take places of their own. -/
theorem Booked.records {y : Extraction} {left new : List PendingImport}
    {places places' : List Span} (h : Booked x left places) (hrecords : Records x y places') :
    Booked y (left ++ new) (places ++ (places' ++ new.flatMap PendingImport.places)) := by
  obtain ⟨⟨made, hmade, hplaces⟩, htidy⟩ := h
  obtain ⟨-, ⟨made', hmade', hplaces'⟩, htidy'⟩ := hrecords
  refine ⟨⟨made ++ made', List.Subset.trans hmade' (List.append_subset.2
    ⟨List.Subset.trans hmade (List.subset_append_left _ _), List.subset_append_right _ _⟩), ?_⟩,
    htidy' htidy⟩
  refine List.Subperm.trans (List.Perm.subperm ?_)
    (hplaces.append (hplaces'.append (List.Subperm.refl _)))
  rw [List.map_append, List.flatMap_append]
  simp only [List.append_assoc]
  exact (List.perm_append_comm_assoc _ _ _).append_left _

theorem importsAt_places (m : SourceModule) (scope : ScopeId) (t : Tree) :
    (importsAt m scope t).flatMap PendingImport.places = m.statementPlaces t := by
  unfold importsAt
  split
  · next heq =>
      simp only [SourceModule.statementPlaces, heq, List.flatMap_map]
      rfl
  · next heq =>
      simp only [SourceModule.statementPlaces, heq, List.flatMap_map]
      rfl
  · next hmodules hfrom =>
      unfold SourceModule.statementPlaces
      split
      · next heq => exact (hmodules heq).elim
      · next heq => exact (hfrom _ _ heq).elim
      · rfl

/-- The places at which the nodes of regions declare names. -/
def declaringPlaces (rs : List Region) : List Span :=
  rs.flatMap fun r => r.met.flatMap r.module.declaringPlaces

theorem Booked.round (h : Booked x x.pendingImports (declaringPlaces x.regions)) (r : Region) :
    Booked (x.round r).1 (x.round r).1.pendingImports (declaringPlaces (x.round r).1.regions) := by
  have himports : (x.round r).1.pendingImports = _ :=
    (congrArg Extraction.pendingImports (x.round_setting r) :)
  rw [himports, round_regions, declaringPlaces, List.flatMap_append, List.flatMap_singleton]
  refine (h.records (x.round_records r)).mono ((List.Subperm.refl _).append ?_)
  rw [List.flatMap_assoc]
  simp only [importsAt_places]
  exact (List.flatMap_append_perm _ _ _).subperm

theorem Booked.declareRegions : ∀ (rounds : Nat) (queue : List Region) {x : Extraction},
    Booked x x.pendingImports (declaringPlaces x.regions) →
    Booked (declareRegions rounds queue x) (declareRegions rounds queue x).pendingImports
      (declaringPlaces (declareRegions rounds queue x).regions)
  | 0, _, _, h => h
  | _ + 1, [], _, h => h
  | rounds + 1, r :: queue, x, h => by
      rw [declareRegions_succ_cons]
      exact Booked.declareRegions rounds _ (h.round r)

variable {ms : List SourceModule}

/-- Before a program is resolved, marks are at different places. -/
theorem Gathered.booked (h : Gathered ms x) :
    Booked x x.pendingImports (declaringPlaces x.regions) := by
  induction h with
  | nil => exact ⟨⟨[], List.Subset.refl _, List.Subperm.refl _⟩, List.nodup_nil, by simp⟩
  | @add ms m x y _ hadd ih =>
      obtain ⟨-, g, hscope, rfl⟩ := addRead_eq_ok hadd
      obtain ⟨-, rfl⟩ := Graph.addScope_eq_ok hscope
      exact Booked.declareRegions _ _ ih

/-! ## Imports -/

theorem bindImport_traces (x : Extraction) (m : SourceModule) (scope : ScopeId) (name : String)
    (span : Option Span) : Traces x (x.bindImport m scope name span).2 span.toList := by
  unfold bindImport
  split
  · next id _ =>
      have hadjusted := x.updateSymbol_imprint id (f := fun s => { s with isCanonical := false })
        fun _ => rfl
      refine Traces.of_imprint_left (addReference_traces ..) ?_
      exact hadjusted
  · exact x.newSymbol_traces m scope name .variable span false

theorem bindSymbol_traces (x : Extraction) (item : PendingImport) (name : String)
    (asName : Option String) (span : Option Span) (target : SymbolId) :
    Traces x (x.bindSymbol item name asName span target)
      ((item.module.headSpan? item.importedName name).toList ++
        (asName.bind fun _ => span).toList) := by
  unfold bindSymbol
  dsimp only
  split
  · have hused := addReference_traces (x.keepNamed target) item.module target
      (item.module.headSpan? item.importedName name) none false
    exact (hused.of_imprint_left (x.keepNamed_imprint target)).trans (bindImport_traces ..)
  · rw [Option.bind_none, Option.toList_none, List.append_nil]
    split
    · refine Traces.of_imprint_left (addReference_traces ..) ?_
      rw [markDynamic_imprint, markDynamic_imprint, keepNamed_imprint]
    · exact addReference_traces (x.keepNamed target) item.module target
        (item.module.headSpan? item.importedName name) (some item.scope) true

theorem linkFrom_traces (x : Extraction) {item : PendingImport} {name : String}
    {asName module : Option String} {final : Bool} {y : Extraction}
    (h : x.linkFrom item name asName module final = some y) :
    Traces x y ((item.module.headSpan? item.importedName name).toList ++
      (asName.bind (item.module.tailSpan? item.importedName)).toList) := by
  have hbound : ∀ {z : Extraction} {places : List Span} {bound : String} {span : Option Span},
      List.Sublist span.toList places →
      z.imprint = (x.bindImport item.module item.scope bound span).2.imprint → Traces x z places :=
    fun hsub himprint => ((bindImport_traces ..).mono hsub.subperm).of_imprint_right himprint
  -- The name that is bound stands at the end if it is a new one.
  cases asName
  all_goals
    unfold linkFrom at h
    dsimp only at h
    split at h
    · obtain rfl := Option.some.inj h
      exact hbound (by simp) rfl
    · split at h
      · obtain rfl := Option.some.inj h
        exact hbound (by simp) rfl
      · split at h
        · obtain rfl := Option.some.inj h
          exact bindSymbol_traces ..
        · split at h
          · obtain rfl := Option.some.inj h
            exact hbound (by simp) rfl
          · split at h
            · obtain rfl := Option.some.inj h
              exact hbound (by simp) rfl
            · cases h

theorem linkImport_traces (x : Extraction) {item : PendingImport} {final : Bool}
    {y : Extraction} (h : x.linkImport item final = some y) : Traces x y item.places := by
  unfold linkImport at h
  dsimp only at h
  split at h
  · next hstatement hname =>
      obtain rfl := Option.some.inj h
      simp only [PendingImport.places, SourceModule.importPlaces, hstatement, hname]
      exact bindImport_traces ..
  · next hstatement hname =>
      obtain rfl := Option.some.inj h
      simp only [PendingImport.places, SourceModule.importPlaces, hstatement, hname]
      exact bindImport_traces ..
  · next hstatement hname =>
      simp only [PendingImport.places, SourceModule.importPlaces, hstatement, hname]
      split at h
      · refine (Traces.of_imprint ?_).mono (List.nil_sublist _).subperm
        split at h
        · obtain rfl := Option.some.inj h
          split <;> rfl
        · obtain rfl := Option.some.inj h
          rfl
      · exact x.linkFrom_traces h
  · obtain rfl := Option.some.inj h
    exact (Traces.refl x).mono (List.nil_sublist _).subperm

/-- Linking an import uses up its places. -/
theorem Booked.linkImport {y : Extraction} {before after : List PendingImport}
    {item : PendingImport} {final : Bool} {places : List Span}
    (hlink : x.linkImport item final = some y)
    (h : Booked x (before ++ item :: after) places) : Booked y (before ++ after) places := by
  obtain ⟨⟨made, hmade, hplaces⟩, htidy⟩ := h
  obtain ⟨-, ⟨made', hmade', hplaces'⟩, htidy'⟩ := (x.linkImport_traces hlink).1
  refine ⟨⟨made ++ made', List.Subset.trans hmade' (List.append_subset.2
    ⟨List.Subset.trans hmade (List.subset_append_left _ _), List.subset_append_right _ _⟩), ?_⟩,
    htidy' htidy⟩
  refine List.Subperm.trans ?_ hplaces
  rw [List.map_append, List.flatMap_append, List.flatMap_append, List.flatMap_cons,
    List.append_assoc]
  refine (List.subperm_append_left _).2 ?_
  refine List.Subperm.trans (hplaces'.append (List.Subperm.refl _)) (List.Perm.subperm ?_)
  exact List.perm_append_comm_assoc _ _ _

/-- When imports are linked, marks are at different places. -/
theorem Gathered.booked_withImports (h : Gathered ms x) :
    ∃ left, Booked x.withImports left (declaringPlaces x.regions) :=
  withImports_induction (motive := fun y left => Booked y left (declaringPlaces x.regions))
    (fun hlink hold => hold.linkImport hlink) h.booked

/-! ## Classes -/

theorem addMarker_imprint (x : Extraction) (id : SymbolId) (marker : Option String) :
    (x.addMarker id marker).imprint = x.imprint :=
  x.updateSymbol_imprint id fun _ => rfl

theorem addDecorators_imprint (x : Extraction) (id : SymbolId) (scope : ScopeId)
    (decorators : List Tree) : (x.addDecorators id scope decorators).imprint = x.imprint :=
  proj_foldl imprint (fun y _ => y.addMarker_imprint id _) decorators x

theorem linkBase_imprint (c : ClassFact) (x : Extraction) (base : Tree) :
    (linkBase c x base).imprint = x.imprint := by
  unfold linkBase
  dsimp only
  split
  · split
    · unfold imprint
      rw [Graph.addSupertype_symbols]
    · split
      · rfl
      · exact x.addMarker_imprint c.symbol _
  · split
    · rfl
    · exact x.addMarker_imprint c.symbol _
  · split
    · rfl
    · exact x.addMarker_imprint c.symbol _

theorem linkMetaclass_imprint (c : ClassFact) (x : Extraction) (keyword : Tree) :
    (linkMetaclass c x keyword).imprint = x.imprint := by
  unfold linkMetaclass
  split
  · exact x.addMarker_imprint c.symbol _
  · rfl

theorem linkClass_imprint (x : Extraction) (c : ClassFact) : (x.linkClass c).imprint = x.imprint := by
  unfold linkClass
  dsimp only
  rw [proj_foldl imprint (linkMetaclass_imprint c), proj_foldl imprint (linkBase_imprint c),
    addDecorators_imprint]

theorem markDefaultMethod_imprint (x : Extraction) (f : FunctionFact) :
    (x.markDefaultMethod f).imprint = x.imprint := by
  unfold markDefaultMethod
  split
  · split
    · rfl
    · exact x.updateSymbol_imprint f.symbol fun _ => rfl
  · rfl

theorem markTypeParameter_imprint (x : Extraction) (item : ScopeId × String × Tree) :
    (x.markTypeParameter item).imprint = x.imprint := by
  unfold markTypeParameter
  dsimp only
  split
  · split
    · exact x.updateSymbol_imprint _ fun _ => rfl
    · rfl
  · rfl

/-- Nothing is recorded while classes are related. -/
theorem withBases_imprint (x : Extraction) : x.withBases.imprint = x.withImports.imprint := by
  unfold withBases linkClasses
  dsimp only
  rw [proj_foldl imprint markTypeParameter_imprint, proj_foldl imprint, proj_foldl imprint,
    proj_foldl imprint linkClass_imprint]
  · exact fun y f => addDecorators_imprint ..
  · intro y c
    split
    · exact proj_foldl imprint markDefaultMethod_imprint _ _
    · rfl

end Extraction

end Pseudonym
