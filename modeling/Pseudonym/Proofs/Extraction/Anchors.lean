import Pseudonym.Proofs.Extraction.Places

/-!
# Files that changes reach

Only the modules of the project itself may be changed; those of its libraries are read along. A use
is recorded only where it may be changed, and a symbol that is declared in a library is not part of
the program text. Each function of the extraction keeps this up (`Anchored`), so that whatever can be
renamed or replaced by its literal occurs in files that may be changed and nowhere else
(`Gathered.editable_resolve`).
-/

namespace Pseudonym

open Files Python Python.Tree

/-- A symbol under its declared name whose uses lie in some files, and whose declaration does so too
if it is part of the program text. -/
structure Symbol.Anchored (E : Path → Prop) (s : Symbol) : Prop where
  named : s.name = s.declaredName
  uses : ∀ r ∈ s.references, E r.span.file
  declared : s.isPhysical = true → ∀ p, s.declaration = some p → E p.file

theorem Symbol.Anchored.of_mem_spans {E : Path → Prop} {s : Symbol} (h : s.Anchored E)
    (hphysical : s.isPhysical = true) {p : Span} (hp : p ∈ s.spans) : E p.file := by
  rcases List.mem_append.1 hp with hp | hp
  · exact h.declared hphysical p (Option.mem_toList.1 hp)
  · obtain ⟨r, hr, rfl⟩ := List.mem_map.1 hp
    exact h.uses r hr

namespace SourceModule

/-- A place that a node was found at lies in its module. -/
def Owns (m : SourceModule) (span : Option Span) : Prop := ∀ p, span = some p → p.file = m.path

variable {m : SourceModule}

theorem owns_of_within {span : Option Span} (h : ∀ p, span = some p → p.Within [m]) :
    m.Owns span := by
  intro p hp
  obtain ⟨k, hk, hpath, -⟩ := h p hp
  rw [← hpath, List.mem_singleton.1 hk]

theorem owns_span? (line start stop : Int) : m.Owns (m.span? line start stop) :=
  owns_of_within fun _ hp => span?_within hp

theorem owns_nodeSpan? (t : Tree) : m.Owns (m.nodeSpan? t) := owns_span? _ _ _

theorem owns_headSpan? (t : Tree) (name : String) : m.Owns (m.headSpan? t name) :=
  owns_span? _ _ _

theorem owns_tailSpan? (t : Tree) (name : String) : m.Owns (m.tailSpan? t name) :=
  owns_span? _ _ _

theorem owns_searchSpan? (lead : Source.Lead) (name : String) (line bytes lastLine : Nat) :
    m.Owns (m.searchSpan? lead name line bytes lastLine) :=
  owns_of_within fun _ hp => searchSpan?_within hp

/-- If a module may be changed, its file is one of some files. -/
def Allowed (E : Path → Prop) (m : SourceModule) : Prop := m.editable = true → E m.path

end SourceModule

namespace Extraction

/-- All symbols are anchored in some files. -/
def Anchored (E : Path → Prop) (x : Extraction) : Prop := ∀ s ∈ x.graph.symbols, s.Anchored E

namespace Anchored

variable {E : Path → Prop} {x : Extraction} {m : SourceModule}

/-! ## Symbols and uses -/

theorem updateSymbol (h : Anchored E x) (id : SymbolId) {f : Symbol → Symbol}
    (hf : ∀ s, s.Anchored E → (f s).Anchored E) : Anchored E (x.updateSymbol id f) := by
  intro t ht
  obtain ⟨s, hs, rfl⟩ := List.mem_map.1 ht
  split
  · exact hf s (h s hs)
  · exact h s hs

theorem markDynamic (h : Anchored E x) (id : SymbolId) : Anchored E (x.markDynamic id) :=
  h.updateSymbol id fun _ hs => ⟨hs.named, hs.uses, hs.declared⟩

theorem markAllDynamic (h : Anchored E x) (ids : List SymbolId) :
    Anchored E (x.markAllDynamic ids) :=
  keep_foldl (Anchored E) (fun _ id hy => hy.markDynamic id) ids h

theorem addReference (h : Anchored E x) (hm : m.Allowed E) (id : SymbolId) {span : Option Span}
    (hspan : m.Owns span) (scope : Option ScopeId) (binds : Bool) :
    Anchored E (x.addReference m id span scope binds) := by
  unfold Extraction.addReference
  split
  · split
    · exact h.markDynamic id
    · exact h
  · next heditable =>
      have hfile : E m.path := hm (by simpa using heditable)
      split
      · exact h.updateSymbol id fun s hs => ⟨hs.named, hs.uses, fun hphysical => by cases hphysical⟩
      · next p =>
          refine h.updateSymbol id fun s hs => ?_
          unfold Symbol.addReference
          split
          · exact hs
          · refine ⟨hs.named, fun r hr => ?_, hs.declared⟩
            rcases List.mem_append.1 hr with hr | hr
            · exact hs.uses r hr
            · rw [List.mem_singleton.1 hr, hspan p rfl]
              exact hfile

theorem addSymbol {g g' : Graph} {s : Symbol} (hadd : g.addSymbol s = .ok g')
    (hg : ∀ t ∈ g.symbols, t.Anchored E) (hs : s.Anchored E) : ∀ t ∈ g'.symbols, t.Anchored E := by
  unfold Graph.addSymbol at hadd
  split at hadd
  · cases hadd
  · obtain rfl := Except.ok.inj hadd
    intro t ht
    rcases List.mem_append.1 ht with ht | ht
    · exact hg t ht
    · exact List.mem_singleton.1 ht ▸ hs

theorem newSymbol (h : Anchored E x) (hm : m.Allowed E) (scope : ScopeId) (name : String)
    (kind : SymbolKind) {span : Option Span} (hspan : m.Owns span) (canonical : Bool) :
    Anchored E (x.newSymbol m scope name kind span canonical).2 := by
  unfold Extraction.newSymbol
  dsimp only
  generalize (if x.graph.contains _ then _ else _) = id
  intro s hs
  dsimp only at hs
  split at hs
  · next hadd =>
      refine addSymbol hadd h ⟨rfl, fun r hr => (by cases hr), fun hphysical p hp => ?_⟩ s hs
      rw [hspan p hp]
      exact hm (Bool.and_eq_true_iff.1 hphysical).1
  · exact h s hs

theorem bind (h : Anchored E x) (hm : m.Allowed E) (scope : ScopeId) (name : String)
    (kind : SymbolKind) {span : Option Span} (hspan : m.Owns span) (occurrence : ScopeId) :
    Anchored E (x.bind m scope name kind span occurrence).2 := by
  unfold Extraction.bind
  split
  · next id _ =>
      dsimp only
      split
      · exact h
      · have hbound : Anchored E { x with bindings := id :: x.bindings } := h
        exact hbound.addReference hm id hspan (some occurrence) false
  · exact h.newSymbol hm scope name kind hspan true

/-! ## Names that a scope binds -/

theorem bindWalrus (h : Anchored E x) {d : Declaring} (hm : d.module.Allowed E) (name : String)
    {span : Option Span} (hspan : d.module.Owns span) : Anchored E (x.bindWalrus d name span) := by
  unfold Extraction.bindWalrus
  dsimp only
  split
  · exact h.bind hm _ name .variable hspan d.scope
  · exact h.bind hm _ name .variable hspan d.scope

theorem declareVisit {d : Declaring} (hm : d.module.Allowed E)
    {state : Extraction × List NestedScope} (h : Anchored E state.1) (v : Visit) :
    Anchored E (declareVisit d state v).1 := by
  have hbind : ∀ (name : String) (kind : SymbolKind) {span : Option Span}, d.module.Owns span →
      Anchored E (state.1.bindHere d name kind span).2 := fun name kind _ hspan =>
    h.bind hm _ name kind hspan d.scope
  unfold Extraction.declareVisit
  dsimp only
  split
  case h_7 => exact h.bindWalrus hm _ (SourceModule.owns_nodeSpan? _)
  case h_14 =>
    split
    · split <;> exact h
    · exact h
  all_goals
    first
    | exact hbind _ _ (SourceModule.owns_searchSpan? _ _ _ _ _)
    | exact hbind _ _ (SourceModule.owns_nodeSpan? _)
    | exact hbind _ _ (SourceModule.owns_tailSpan? _ _)
    | exact h

theorem declareRegion (h : Anchored E x) {r : Region} (hm : r.module.Allowed E) :
    Anchored E (x.declareRegion r).1 :=
  keep_foldl (fun state : Extraction × List NestedScope => Anchored E state.1)
    (fun _ v hstate => declareVisit hm hstate v) _ h

/-! ## Opening scopes -/

theorem opened (h : Anchored E x) (m : SourceModule) (parent : ScopeId) (n : NestedScope) :
    Anchored E (x.opened m parent n).2 := by
  have hid : (x.scopeIdFor parent n.node).2.graph = x.graph := by
    have hunique : ∀ (y : Extraction) (id : ScopeId), (y.uniqueScope id).2.graph = y.graph := by
      intro y id
      unfold uniqueScope
      split <;> rfl
    unfold scopeIdFor
    dsimp only
    split <;> exact hunique ..
  unfold Extraction.opened Graph.addScope
  intro s hs
  dsimp only at hs
  rw [hid] at hs
  split at hs
  · next hadd =>
      split at hadd
      · cases hadd
      · obtain rfl := Except.ok.inj hadd
        exact h s hs
  · exact h s hs

theorem declareParameter {s : Signature} (hm : s.module.Allowed E)
    {state : Extraction × Option SymbolId} (h : Anchored E state.1) (item : Tree × Nat) :
    Anchored E (declareParameter s state item).1 := by
  unfold Extraction.declareParameter
  dsimp only
  split
  · next name _ _ _ =>
      have hbound := h.bind hm s.scope name .variable
        (SourceModule.owns_headSpan? item.1 name) s.scope
      split
      · exact hbound.updateSymbol _ fun _ hs => ⟨hs.named, hs.uses, hs.declared⟩
      · split
        · exact Anchored.updateSymbol hbound _ fun _ hs => ⟨hs.named, hs.uses, hs.declared⟩
        · exact hbound
  · exact h

theorem declareParameters (h : Anchored E x) (hm : m.Allowed E) (parent scope : ScopeId)
    (node : Tree) (owner : Option SymbolId) :
    Anchored E (x.declareParameters m parent scope node owner) := by
  have hfold : ∀ receiverType function, Anchored E ((node.all .parameter).zipIdx.foldl
      (Extraction.declareParameter ⟨m, scope, receiverType, function⟩) (x, none)).1 :=
    fun receiverType function =>
      keep_foldl (fun state : Extraction × Option SymbolId => Anchored E state.1)
        (fun _ item hstate => declareParameter hm hstate item) _ h
  have htyped : ∀ {y : Extraction} (id : SymbolId) (types : List String), Anchored E y →
      Anchored E (y.updateSymbol id fun s => { s with parameterTypes := types }) :=
    fun id _ hy => hy.updateSymbol id fun _ hs => ⟨hs.named, hs.uses, hs.declared⟩
  unfold Extraction.declareParameters
  dsimp only
  split
  · split
    · split
      · exact htyped _ _ (hfold _ _)
      · exact hfold _ _
    · split
      · exact htyped _ _ (hfold _ _)
      · exact hfold _ _
  · split
    · exact htyped _ _ (hfold _ _)
    · exact hfold _ _

theorem openScope (h : Anchored E x) (hm : m.Allowed E) (parent : ScopeId) (n : NestedScope) :
    Anchored E (x.openScope m parent n).1 := by
  have hopened := h.opened m parent n
  rw [openScope_eq_furnish]
  unfold furnish
  dsimp only
  split
  · exact hopened
  · exact hopened.declareParameters hm _ _ _ _
  · exact hopened.declareParameters hm _ _ _ _
  · exact hopened

theorem openScopes (hm : m.Allowed E) (parent : ScopeId) : ∀ (ns : List NestedScope)
    {x : Extraction}, Anchored E x → Anchored E (openScopes m parent ns x).1
  | [], _, h => h
  | n :: ns, _, h => openScopes hm parent ns (h.openScope hm parent n)

theorem round (h : Anchored E x) {r : Region} (hm : r.module.Allowed E) :
    Anchored E (x.round r).1 := by
  have hstart : Anchored E { x with regions := x.regions ++ [r] } := h
  exact openScopes hm r.scope _ (hstart.declareRegion hm)

theorem declareRegions : ∀ (rounds : Nat) {queue : List Region} {x : Extraction},
    Anchored E x → (∀ r ∈ queue, r.module.Allowed E) → Anchored E (declareRegions rounds queue x)
  | 0, _, _, h, _ => h
  | _ + 1, [], _, h, _ => h
  | rounds + 1, r :: queue, x, h, hqueue => by
      have hr := hqueue r List.mem_cons_self
      rw [declareRegions_succ_cons]
      refine declareRegions rounds (h.round hr) fun q hq => ?_
      rcases List.mem_append.1 hq with hq | hq
      · exact hqueue q (List.mem_cons_of_mem _ hq)
      · rw [openScopes_module q hq]
        exact hr

end Anchored

variable {E : Path → Prop} {x : Extraction} {ms : List SourceModule}

theorem Gathered.anchored (h : Gathered ms x) (hms : ∀ m ∈ ms, m.Allowed E) : Anchored E x := by
  induction h with
  | nil =>
      intro s hs
      cases hs
  | @add ms m x y _ hadd ih =>
      have hx := ih fun k hk => hms k (List.mem_append_left _ hk)
      obtain ⟨-, g, hscope, rfl⟩ := addRead_eq_ok hadd
      obtain ⟨-, rfl⟩ := Graph.addScope_eq_ok hscope
      refine Anchored.declareRegions _ hx fun r hr => ?_
      obtain rfl := List.mem_singleton.1 hr
      exact hms m (List.mem_append_right _ (List.mem_singleton_self m))

namespace Anchored

variable {m : SourceModule}

/-! ## Imports -/

theorem bindImport (h : Anchored E x) (hm : m.Allowed E) (scope : ScopeId) (name : String)
    {span : Option Span} (hspan : m.Owns span) :
    Anchored E (x.bindImport m scope name span).2 := by
  unfold Extraction.bindImport
  split
  · next id _ =>
      have hshared : Anchored E (x.updateSymbol id fun s => { s with isCanonical := false }) :=
        h.updateSymbol id fun _ hs => ⟨hs.named, hs.uses, hs.declared⟩
      exact addReference (x := { x.updateSymbol id _ with bindings := id :: _ }) hshared hm id hspan
        (some scope) false
  · exact h.newSymbol hm scope name .variable hspan false

theorem bindSymbol (h : Anchored E x) {item : PendingImport} (hm : item.module.Allowed E)
    (name : String) (asName : Option String) {span : Option Span} (hspan : item.module.Owns span)
    (target : SymbolId) : Anchored E (x.bindSymbol item name asName span target) := by
  have hkept : Anchored E (x.keepNamed target) := h
  have hname := SourceModule.owns_headSpan? (m := item.module) item.importedName name
  unfold Extraction.bindSymbol
  dsimp only
  split
  · exact (hkept.addReference hm target hname none false).bindImport hm item.scope _ hspan
  · split
    · next existing _ =>
        exact ((hkept.markDynamic existing).markDynamic target).addReference hm target hname none
          false
    · exact hkept.addReference hm target hname (some item.scope) true

theorem linkFrom (h : Anchored E x) {item : PendingImport} (hm : item.module.Allowed E)
    {name : String} {asName module : Option String} {final : Bool} {y : Extraction}
    (hlink : x.linkFrom item name asName module final = some y) : Anchored E y := by
  have hbound : ∀ (bound : String) {span : Option Span}, item.module.Owns span →
      Anchored E (x.bindImport item.module item.scope bound span).2 :=
    fun bound _ hspan => h.bindImport hm item.scope bound hspan
  have hhead := SourceModule.owns_headSpan? (m := item.module) item.importedName name
  have htail := SourceModule.owns_tailSpan? (m := item.module) item.importedName
  -- The name that is bound stands at the end if it is a new one.
  cases asName
  all_goals
    unfold Extraction.linkFrom at hlink
    dsimp only at hlink
    split at hlink
    · obtain rfl := Option.some.inj hlink
      first | exact hbound _ hhead | exact hbound _ (htail _)
    · split at hlink
      · obtain rfl := Option.some.inj hlink
        first | exact hbound _ hhead | exact hbound _ (htail _)
      · split at hlink
        · obtain rfl := Option.some.inj hlink
          first | exact h.bindSymbol hm _ _ hhead _ | exact h.bindSymbol hm _ _ (htail _) _
        · split at hlink
          · obtain rfl := Option.some.inj hlink
            first | exact hbound _ hhead | exact hbound _ (htail _)
          · split at hlink
            · obtain rfl := Option.some.inj hlink
              first | exact hbound _ hhead | exact hbound _ (htail _)
            · cases hlink

theorem linkImport (h : Anchored E x) {item : PendingImport} (hm : item.module.Allowed E)
    {final : Bool} {y : Extraction} (hlink : x.linkImport item final = some y) : Anchored E y := by
  unfold Extraction.linkImport at hlink
  dsimp only at hlink
  split at hlink
  · obtain rfl := Option.some.inj hlink
    exact h.bindImport hm item.scope _ (SourceModule.owns_tailSpan? _ _)
  · obtain rfl := Option.some.inj hlink
    exact h.bindImport hm item.scope _ (SourceModule.owns_headSpan? _ _)
  · split at hlink
    · split at hlink
      · obtain rfl := Option.some.inj hlink
        split <;> exact h
      · obtain rfl := Option.some.inj hlink
        exact h
    · exact h.linkFrom hm hlink
  · obtain rfl := Option.some.inj hlink
    exact h

/-! ## Classes -/

theorem addMarker (h : Anchored E x) (id : SymbolId) (marker : Option String) :
    Anchored E (x.addMarker id marker) :=
  h.updateSymbol id fun _ hs => ⟨hs.named, hs.uses, hs.declared⟩

theorem addDecorators (h : Anchored E x) (id : SymbolId) (scope : ScopeId)
    (decorators : List Tree) : Anchored E (x.addDecorators id scope decorators) :=
  keep_foldl (Anchored E) (fun _ _ hy => hy.addMarker id _) decorators h

theorem linkBase (c : ClassFact) (h : Anchored E x) (base : Tree) :
    Anchored E (linkBase c x base) := by
  unfold Extraction.linkBase
  dsimp only
  split
  · split
    · intro s hs
      rw [Graph.addSupertype_symbols] at hs
      exact h s hs
    · split
      · exact h
      · exact h.addMarker c.symbol _
  · split
    · exact h
    · exact h.addMarker c.symbol _
  · split
    · exact h
    · exact h.addMarker c.symbol _

theorem linkMetaclass (c : ClassFact) (h : Anchored E x) (keyword : Tree) :
    Anchored E (linkMetaclass c x keyword) := by
  unfold Extraction.linkMetaclass
  split
  · exact h.addMarker c.symbol _
  · exact h

theorem linkClass (h : Anchored E x) (c : ClassFact) : Anchored E (x.linkClass c) := by
  have hdecorated := h.addDecorators c.symbol c.outerScope (c.node.all .decorator)
  have hbases := keep_foldl (Anchored E) (fun _ base hy => linkBase c hy base)
    (c.node.all .base) hdecorated
  exact keep_foldl (Anchored E) (fun _ keyword hy => linkMetaclass c hy keyword) _ hbases

theorem markDefaultMethod (h : Anchored E x) (f : FunctionFact) :
    Anchored E (x.markDefaultMethod f) := by
  unfold Extraction.markDefaultMethod
  split
  · split
    · exact h
    · exact h.updateSymbol f.symbol fun _ hs => ⟨hs.named, hs.uses, hs.declared⟩
  · exact h

theorem markTypeParameter (h : Anchored E x) (item : ScopeId × String × Tree) :
    Anchored E (x.markTypeParameter item) := by
  unfold Extraction.markTypeParameter
  dsimp only
  split
  · split
    · exact h.updateSymbol _ fun _ hs => ⟨hs.named, hs.uses, hs.declared⟩
    · exact h
  · exact h

theorem linkClasses (h : Anchored E x) : Anchored E x.linkClasses := by
  have hclasses := keep_foldl (Anchored E) (fun _ c hy => hy.linkClass c) x.classes h
  have hfunctions := keep_foldl (Anchored E) (fun _ (f : FunctionFact) hy =>
    hy.addDecorators f.symbol f.outerScope (f.node.all .decorator))
    (x.classes.foldl Extraction.linkClass x).functions hclasses
  refine keep_foldl (Anchored E) (fun y c hy => ?_) _ hfunctions
  split
  · exact keep_foldl (Anchored E) (fun _ f hz => hz.markDefaultMethod f) _ hy
  · exact hy

/-! ## Fields and overrides -/

theorem declareField (h : Anchored E x) {c : ClassFact} (hm : c.module.Allowed E)
    (receiver : String) (t : Tree) : Anchored E (declareField c receiver x t) := by
  unfold Extraction.declareField
  split
  · next name _ =>
      split
      · exact h
      · exact (h.newSymbol hm c.bodyScope name .variable (SourceModule.owns_tailSpan? t name)
          true).updateSymbol _ fun _ hs => ⟨hs.named, hs.uses, hs.declared⟩
  · exact h

theorem declareFields (h : Anchored E x) (hclasses : ∀ c ∈ x.classes, c.module.Allowed E) :
    Anchored E x.declareFields := by
  refine keep_foldl_mem (Anchored E) (fun y c hc hy => ?_) h
  have hm := hclasses c ((List.mergeSort_perm _ _).subset hc)
  refine keep_foldl (Anchored E) (fun z f hz => ?_) _ hy
  unfold declareMethodFields
  split
  · exact keep_foldl (Anchored E) (fun _ t hu => hu.declareField hm _ t) _ hz
  · exact hz

theorem addOverride (h : Anchored E x) (member overridden : SymbolId) :
    Anchored E { x with graph := x.graph.addOverride member overridden } := by
  unfold Graph.addOverride
  split
  · exact h
  · have hmarked : Anchored E (x.updateSymbol member fun s => { s with isOverride := true }) :=
      h.updateSymbol member fun _ hs => ⟨hs.named, hs.uses, hs.declared⟩
    exact hmarked

theorem placeholder (h : Anchored E x) (type : SymbolId) (member : Symbol) :
    Anchored E (x.placeholder type member).2 := by
  unfold Extraction.placeholder
  dsimp only
  cases hscope : x.graph.addScope { id := externalScope, kind := .external } with
  | ok g =>
      obtain ⟨-, rfl⟩ := Graph.addScope_eq_ok hscope
      dsimp only
      split
      · next hadd =>
          exact addSymbol hadd h ⟨rfl, fun r hr => (by cases hr), fun hphysical => (by cases hphysical)⟩
      · exact h
  | error cause =>
      dsimp only
      split
      · next hadd =>
          exact addSymbol hadd h ⟨rfl, fun r hr => (by cases hr), fun hphysical => (by cases hphysical)⟩
      · exact h

theorem linkOverride (member : Symbol) {state : Extraction × Bool} (h : Anchored E state.1)
    (base : SymbolId) : Anchored E (linkOverride member state base).1 := by
  unfold Extraction.linkOverride
  dsimp only
  split
  · split
    · exact h
    · exact h.addOverride _ _
  · exact h

theorem linkMember (h : Anchored E x) (c : ClassFact) (member : Symbol) :
    Anchored E (linkMember c x member) := by
  unfold Extraction.linkMember
  dsimp only
  split
  · exact h
  · have hlinked := keep_foldl (fun state : Extraction × Bool => Anchored E state.1)
      (fun _ base hstate => linkOverride member hstate base) (x.graph.supertypes c.symbol)
      (s := (x, false)) h
    split
    · exact (hlinked.placeholder c.symbol member).addOverride _ _
    · exact hlinked

theorem linkOverrides (h : Anchored E x) : Anchored E x.linkOverrides := by
  have hmembers : Anchored E (x.classes.foldl
      (fun x c => (x.graph.membersOfScope c.bodyScope).foldl (Extraction.linkMember c) x) x) :=
    keep_foldl (Anchored E) (fun _ c hy =>
      keep_foldl (Anchored E) (fun _ s hz => hz.linkMember c s) _ hy) _ h
  refine keep_foldl (Anchored E) (fun y s hy => ?_) _ hmembers
  split
  · exact hy.markAllDynamic _
  · exact hy

/-! ## Uses -/

theorem visitName (h : Anchored E x) (hm : m.Allowed E) (scope : ScopeId) (t : Tree) (id : String)
    (context : Context) (inText : Bool) : Anchored E (x.visitName m scope t id context inText) := by
  unfold Extraction.visitName
  split
  · split <;> exact h
  · next symbol _ =>
      dsimp only
      split
      · exact h
      · split
        · exact h
        · have hkept : Anchored E (x.keepNamed symbol) := h
          split
          · exact h.addReference hm symbol (SourceModule.owns_nodeSpan? t) (some scope) false
          · exact hkept.addReference hm symbol (SourceModule.owns_nodeSpan? t) (some scope) false

theorem visitAttribute (h : Anchored E x) (hm : m.Allowed E) (scope : ScopeId) (t : Tree)
    (name : String) : Anchored E (x.visitAttribute m scope t name) := by
  unfold Extraction.visitAttribute
  split
  · next id _ =>
      have hkept : Anchored E (x.keepNamed id) := h
      exact hkept.addReference hm id (SourceModule.owns_tailSpan? t name) none false
  · exact h
  · exact h

theorem visitKeyword (hm : m.Allowed E) (parameters : Option (List SymbolId)) (h : Anchored E x)
    (keyword : Tree) : Anchored E (visitKeyword m parameters x keyword) := by
  unfold Extraction.visitKeyword
  split
  · exact h.markAllDynamic _
  · split
    · exact h.addReference hm _ (SourceModule.owns_headSpan? _ _) none false
    · exact h
  · exact h

theorem visitCall (h : Anchored E x) (hm : m.Allowed E) (scope : ScopeId) (call : Tree) :
    Anchored E (x.visitCall m scope call) := by
  unfold Extraction.visitCall
  split
  · exact h
  · next function _ =>
      have hcall : Anchored E (x.visitDynamicCall scope call function) := by
        unfold visitDynamicCall
        split
        · split <;> exact h
        · exact h
      dsimp only
      split
      · exact hcall
      · exact keep_foldl (Anchored E) (fun _ k hy => visitKeyword hm _ hy k) _ hcall

theorem visitDeclared (hm : m.Allowed E) (scope : ScopeId) (t : Tree) (keyword : String)
    (symbolOf : Extraction → String → Option SymbolId) (h : Anchored E x) (name : String) :
    Anchored E (visitDeclared m scope t keyword symbolOf x name) := by
  unfold Extraction.visitDeclared
  split
  · exact h
  · next id _ =>
      have hkept : Anchored E (x.keepNamed id) := h
      exact hkept.addReference hm id (SourceModule.owns_searchSpan? _ _ _ _ _) (some scope) false

theorem visit (hm : m.Allowed E) (scope : ScopeId) (h : Anchored E x) (v : Visit) :
    Anchored E (visit m scope x v) := by
  unfold Extraction.visit
  dsimp only
  split
  · exact h.visitName hm scope _ _ _ _
  · exact h.visitAttribute hm scope _ _
  · exact h.visitCall hm scope _
  · exact keep_foldl (Anchored E) (fun _ n hy => visitDeclared hm scope _ _ _ hy n) _ h
  · exact keep_foldl (Anchored E) (fun _ n hy => visitDeclared hm scope _ _ _ hy n) _ h
  all_goals exact h

theorem collectRegion (h : Anchored E x) {r : Region} (hm : r.module.Allowed E) :
    Anchored E (x.collectRegion r) :=
  keep_foldl (Anchored E) (fun _ v hy => visit hm r.scope hy v) _ h

/-! ## The last phases -/

theorem markDynamicSymbols (h : Anchored E x) : Anchored E x.markDynamicSymbols := by
  have hmarked : Anchored E { x with graph := (x.graph.markDynamic x.dynamicNames false).2 } := by
    intro t ht
    obtain ⟨s, hs, rfl⟩ := List.mem_map.1 ht
    split
    · exact ⟨(h s hs).named, (h s hs).uses, (h s hs).declared⟩
    · exact h s hs
  have hparameters := hmarked.markAllDynamic
    (((x.parameters.filter fun p => x.dynamicParameters.contains p.1).map (·.2)))
  have hscopes : ∀ y : Extraction, Anchored E y → ∀ (scope : ScopeId) (p : Symbol → Bool),
      Anchored E (y.markScope scope p) := fun y hy _ _ => hy.markAllDynamic _
  unfold Extraction.markDynamicSymbols
  refine keep_foldl (Anchored E) (fun y _ hy => hscopes y hy _ _) _ ?_
  exact keep_foldl (Anchored E) (fun y _ hy => hscopes y hy _ _) _ hparameters

theorem checkSpans (h : Anchored E x) : Anchored E x.checkSpans := by
  intro t ht
  obtain ⟨s, hs, rfl⟩ := List.mem_map.1 ht
  exact ⟨(h s hs).named, (h s hs).uses, fun hphysical =>
    (h s hs).declared (Bool.and_eq_true_iff.1 hphysical).1⟩

end Anchored

/-! ## Whole programs -/

/-- What a program consists of when it is resolved: no id was given twice, nothing was renamed, and
what can be renamed in the text or has a literal occurs only in some files. -/
structure Editable (E : Path → Prop) (g : Graph) : Prop where
  symbolIds_nodup : g.symbolIds.Nodup
  named : ∀ s ∈ g.symbols, s.isRenamed = false
  files : ∀ s ∈ g.symbols, s.isPhysical = true → ∀ p ∈ s.spans, E p.file
  physical_of_literal : ∀ s ∈ g.symbols, s.literal.isSome = true → s.isPhysical = true

/-- A change to a symbol that keeps its name and its occurrences. -/
theorem Editable.updateSymbol (h : Editable E x.graph) (id : SymbolId) {f : Symbol → Symbol}
    (hf : ∀ s, (f s).id = s.id ∧ (f s).isRenamed = s.isRenamed ∧ (f s).spans = s.spans ∧
      (f s).isPhysical = s.isPhysical)
    (hliteral : ∀ s ∈ x.graph.symbols, s.id = id → (f s).literal.isSome = true →
      s.isPhysical = true) : Editable E (x.updateSymbol id f).graph := by
  have hcases : ∀ t ∈ (x.updateSymbol id f).graph.symbols, ∃ s ∈ x.graph.symbols,
      t.isRenamed = s.isRenamed ∧ t.spans = s.spans ∧ t.isPhysical = s.isPhysical ∧
        (t.literal.isSome = true → s.isPhysical = true) := by
    intro t ht
    obtain ⟨s, hs, rfl⟩ := List.mem_map.1 ht
    refine ⟨s, hs, ?_⟩
    split
    · next hid => exact ⟨(hf s).2.1, (hf s).2.2.1, (hf s).2.2.2, hliteral s hs hid⟩
    · exact ⟨rfl, rfl, rfl, h.physical_of_literal s hs⟩
  refine ⟨?_, fun t ht => ?_, fun t ht => ?_, fun t ht => ?_⟩
  · exact (Graph.updateSymbol_symbolIds fun s => (hf s).1).symm ▸ h.symbolIds_nodup
  all_goals obtain ⟨s, hs, hrenamed, hspans, hphysical, hsome⟩ := hcases t ht
  · exact hrenamed ▸ h.named s hs
  · rw [hspans, hphysical]
    exact h.files s hs
  · exact hphysical ▸ hsome

theorem Editable.findConstant (h : Editable E x.graph)
    (item : SourceModule × String × Tree) : Editable E (x.findConstant item).graph := by
  unfold Extraction.findConstant
  dsimp only
  split
  · exact h
  · next s hs =>
      split
      · exact h
      · next husable =>
          split
          · next literal _ =>
              split
              · -- Only the symbol that was looked at has its id.
                have hphysical : s.isPhysical = true := by
                  simp only [Bool.not_eq_true, Bool.not_eq_false', Bool.and_eq_true] at husable
                  tauto
                obtain ⟨id, -, hfound⟩ := Option.bind_eq_some_iff.1 hs
                have hsmem : s ∈ x.graph.symbols := List.mem_of_find?_eq_some hfound
                have hsymbol : ∀ t ∈ x.graph.symbols, t.id = s.id → t = s := fun t ht hid =>
                  List.inj_on_of_nodup_map h.symbolIds_nodup ht hsmem hid
                exact h.updateSymbol s.id (fun _ => ⟨rfl, rfl, rfl, rfl⟩)
                  fun t ht hid _ => hsymbol t ht hid ▸ hphysical
              · exact h
          · exact h

theorem Editable.forgetRoots {g : Graph} (h : Editable E g) : Editable E g.forgetRoots :=
  ⟨h.symbolIds_nodup, h.named, h.files, h.physical_of_literal⟩

theorem Gathered.anchored_withUses (h : Gathered ms x) (hms : ∀ m ∈ ms, m.Allowed E) :
    Anchored E x.withUses := by
  have himports : Anchored E x.withImports := by
    obtain ⟨left, hleft⟩ := withImports_induction
      (motive := fun y left => (∀ i ∈ left, i.module.Allowed E) ∧ Anchored E y)
      (fun {y z before after item final} hlink hold => by
        have hitem := hold.1 item (List.mem_append_right _ List.mem_cons_self)
        refine ⟨fun i hi => hold.1 i ?_, hold.2.linkImport hitem hlink⟩
        rcases List.mem_append.1 hi with hi | hi
        · exact List.mem_append_left _ hi
        · exact List.mem_append_right _ (List.mem_cons_of_mem _ hi))
      ⟨fun i hi => hms _ (h.housed.imports i hi), h.anchored hms⟩
    exact hleft.2
  have hbases : Anchored E x.withBases :=
    keep_foldl (Anchored E) (fun _ item hy => hy.markTypeParameter item) _ himports.linkClasses
  have hclasses := (h.housed.of_notes x.withBases_notes).classes
  have hoverrides : Anchored E x.withOverrides :=
    (hbases.declareFields fun c hc => hms _ (hclasses c hc)).linkOverrides
  have hregions := (h.housed.of_notes x.withOverrides_notes).regions
  exact keep_foldl_mem (Anchored E) (fun _ r hr hy => hy.collectRegion (hms _ (hregions r hr)))
    hoverrides

/-- **Changes reach only files that may be changed.** -/
theorem Gathered.editable_resolve (h : Gathered ms x) (hms : ∀ m ∈ ms, m.Allowed E) :
    Editable E x.resolve.graph := by
  have hanchored : Anchored E x.withMarks.checkSpans :=
    (h.anchored_withUses hms).markDynamicSymbols.checkSpans
  have hmarks : Placed ms x.withMarks :=
    h.placed_withUses.of_imprint (markDynamicSymbols_imprint _)
  have htidy : x.withMarks.checkSpans.Tidy := (hmarks.of_imprint (checkSpans_imprint _)).1
  have hchecked : Editable E x.withMarks.checkSpans.graph :=
    { symbolIds_nodup := htidy.1
      named := fun s hs => by simp [Symbol.isRenamed, (hanchored s hs).named]
      files := fun s hs hphysical p hp => (hanchored s hs).of_mem_spans hphysical hp
      physical_of_literal := fun s hs hliteral => by simp [htidy.2 s hs] at hliteral }
  have hconstants : Editable E x.withConstants.graph :=
    keep_foldl (fun y : Extraction => Editable E y.graph) (fun _ item hy => hy.findConstant item) _
      hchecked
  rw [resolve_eq h.resolved_eq]
  exact hconstants.forgetRoots

end Extraction

end Pseudonym
