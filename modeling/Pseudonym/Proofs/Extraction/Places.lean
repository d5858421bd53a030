import Pseudonym.Proofs.Extraction.Dynamic
import Pseudonym.Proofs.Extraction.Marks

/-!
# Where uses are recorded

Fields and uses make marks at the places of the nodes they are met in (`declareField_traces`,
`visit_traces`); the other phases of a resolution make none. So every mark lies on a line of one of
the modules and does not pass its end, whatever the modules are called (`Gathered.placed_withUses`).
-/

namespace Pseudonym

open Files Python Python.Tree

/-! ## The places of a node -/

namespace SourceModule

variable (m : SourceModule)

/-- Where a call names a parameter. -/
def keywordPlaces (keyword : Tree) : List Span :=
  match keyword.label with
  | .keyword (some name) => (m.headSpan? keyword name).toList
  | _ => []

/-- Where a `global` or `nonlocal` statement has a name. -/
def declaredPlaces (t : Tree) (keyword name : String) : List Span :=
  (m.searchSpan? .nothing name t.range.start.line (t.range.start.column + keyword.length)
    t.range.stop.line).toList

/-- Where a node uses names. -/
def usePlaces (t : Tree) : List Span :=
  match t.label with
  | .name .. => (m.nodeSpan? t).toList
  | .attribute name _ => (m.tailSpan? t name).toList
  | .call => (t.all .keyword).flatMap m.keywordPlaces
  | .globalNames names => names.flatMap (m.declaredPlaces t "global")
  | .nonlocalNames names => names.flatMap (m.declaredPlaces t "nonlocal")
  | _ => []

/-- Where a node assigns an attribute. -/
def fieldPlaces (t : Tree) : List Span :=
  match t.label with
  | .attribute name .store => (m.tailSpan? t name).toList
  | _ => []

end SourceModule

/-! ## Places within a text -/

/-- A span lies on a line of one of some modules and ends where the line does or before. -/
def Span.Within (ms : List SourceModule) (p : Span) : Prop :=
  ∃ m ∈ ms, m.path = p.file ∧ ∃ cs, m.line? p.line = some cs ∧ p.endColumn ≤ cs.length

theorem Span.Within.of_mem {m : SourceModule} {ms : List SourceModule} {p : Span}
    (h : p.Within [m]) (hm : m ∈ ms) : p.Within ms := by
  obtain ⟨k, hk, hpath, hline⟩ := h
  exact ⟨k, List.mem_singleton.1 hk ▸ hm, hpath, hline⟩

namespace Source

theorem charsBefore_le_length : ∀ (cs : List Char) (bytes : Nat),
    charsBefore cs bytes ≤ cs.length
  | [], _ => Nat.le_refl _
  | c :: cs, bytes => by
      have hrest := charsBefore_le_length cs (bytes - c.utf8Size)
      rw [charsBefore]
      split
      · exact Nat.zero_le _
      · rw [List.length_cons]
        omega

theorem charColumn_le_length (cs : List Char) (bytes : Int) : charColumn cs bytes ≤ cs.length :=
  charsBefore_le_length ..

theorem takeFront?_eq_some {front cs rest : List Char} (h : takeFront? front cs = some rest) :
    cs = front ++ rest := by
  induction front generalizing cs with
  | nil => exact Option.some.inj h
  | cons f front ih =>
      cases cs with
      | nil => cases h
      | cons c cs =>
          rw [takeFront?] at h
          split at h
          · next heq => rw [heq, ih h, List.cons_append]
          · cases h

theorem length_le_of_nameEndsAt {name cs : List Char} (h : nameEndsAt name cs = true) :
    name.length ≤ cs.length := by
  unfold nameEndsAt at h
  split at h
  · next hfront => simp [takeFront?_eq_some hfront]
  · next hfront => simp [takeFront?_eq_some hfront]
  · cases h

/-- A name behind its lead ends before the line does. -/
theorem Lead.offset?_le {lead : Lead} {name cs : List Char} {previous : Option Char} {n : Nat}
    (h : lead.offset? name previous cs = some n) : n + name.length ≤ cs.length := by
  -- Blanks, and then the name.
  have hblanks : ∀ rest : List Char,
      nameEndsAt name (rest.drop (rest.takeWhile Text.isBlank).length) = true →
      (rest.takeWhile Text.isBlank).length + name.length ≤ rest.length := by
    intro rest hends
    have hname := length_le_of_nameEndsAt hends
    have hlength := congrArg List.length (List.takeWhile_append_dropWhile (p := Text.isBlank)
      (l := rest))
    rw [List.length_append] at hlength
    rw [List.length_drop] at hname
    omega
  unfold Lead.offset? at h
  cases lead with
  | words choices =>
      dsimp only at h
      split at h
      · cases h
      · obtain ⟨word, -, hword⟩ := List.exists_of_findSome?_eq_some h
        obtain ⟨rest, hrest, hword⟩ := Option.bind_eq_some_iff.1 hword
        split at hword
        · next hends =>
            obtain rfl := Option.some.inj hword
            have hlength := hblanks rest hends.2
            rw [takeFront?_eq_some hrest, List.length_append, String.length_toList]
            omega
        · cases hword
  | stars =>
      obtain ⟨rest, hrest, hstars⟩ := Option.bind_eq_some_iff.1 h
      dsimp only at hstars
      split at hstars
      · next hends =>
          obtain rfl := Option.some.inj hstars
          have hlength := hblanks rest hends
          rw [takeFront?_eq_some hrest, List.length_append]
          simp only [List.length_cons, List.length_nil]
          omega
      · cases hstars
  | nothing =>
      dsimp only at h
      split at h
      · cases h
      · split at h
        · next hends =>
            obtain rfl := Option.some.inj h
            simpa using length_le_of_nameEndsAt hends
        · cases h

theorem findName_le (lead : Lead) (name : List Char) (start : Nat) :
    ∀ (cs : List Char) (column : Nat) (previous : Option Char) {found : Nat},
    findName lead name start column previous cs = some found →
    found + name.length ≤ column + cs.length := by
  have hhere : ∀ (cs : List Char) (column : Nat) (previous : Option Char) {found : Nat},
      (if start ≤ column then (lead.offset? name previous cs).map (column + ·) else none) =
        some found → found + name.length ≤ column + cs.length := by
    intro cs column previous found h
    split at h
    · obtain ⟨n, hn, rfl⟩ := Option.map_eq_some_iff.1 h
      have hoffset := Lead.offset?_le hn
      omega
    · cases h
  intro cs
  induction cs with
  | nil =>
      intro column previous found h
      unfold findName at h
      dsimp only at h
      split at h
      · next hfound =>
          obtain rfl := Option.some.inj h
          exact hhere [] column previous hfound
      · cases h
      · next hcons => cases hcons
  | cons c cs ih =>
      intro column previous found h
      unfold findName at h
      dsimp only at h
      split at h
      · next hfound =>
          obtain rfl := Option.some.inj h
          exact hhere (c :: cs) column previous hfound
      · next hnil => cases hnil
      · next hcons =>
          obtain ⟨rfl, rfl⟩ := List.cons.inj hcons
          have hrest := ih _ _ h
          rw [List.length_cons]
          omega

end Source

namespace SourceModule

variable {m : SourceModule}

theorem span?_within {line start stop : Int} {p : Span} (h : m.span? line start stop = some p) :
    p.Within [m] := by
  unfold span? at h
  split at h
  · next cs hcs =>
      split at h
      · cases h
      · obtain rfl := Option.some.inj h
        refine ⟨m, List.mem_singleton_self m, rfl, cs, ?_, Source.charColumn_le_length ..⟩
        have hpos : 1 ≤ line := by
          by_contra hneg
          simp [line?, hneg] at hcs
        rwa [Int.toNat_of_nonneg (by omega)]
  · cases h

theorem searchSpan?_within {lead : Source.Lead} {name : String} {line bytes lastLine : Nat}
    {p : Span} (h : m.searchSpan? lead name line bytes lastLine = some p) : p.Within [m] := by
  obtain ⟨number, -, hnumber⟩ := List.exists_of_findSome?_eq_some h
  obtain ⟨cs, hcs, hcolumn⟩ := Option.bind_eq_some_iff.1 hnumber
  obtain ⟨column, hfound, rfl⟩ := Option.map_eq_some_iff.1 hcolumn
  have hle := Source.findName_le _ _ _ _ _ _ hfound
  rw [String.length_toList, Nat.zero_add] at hle
  exact ⟨m, List.mem_singleton_self m, rfl, cs, hcs, hle⟩

theorem within_of_mem_parameterPlaces {t : Tree} {p : Span} (h : p ∈ m.parameterPlaces t) :
    p.Within [m] := by
  unfold parameterPlaces at h
  split at h
  · exact span?_within (Option.mem_toList.1 h)
  · cases h

theorem within_of_mem_importPlaces {statement t : Tree} {p : Span}
    (h : p ∈ m.importPlaces statement t) : p.Within [m] := by
  unfold importPlaces at h
  split at h
  · exact span?_within (Option.mem_toList.1 h)
  · exact span?_within (Option.mem_toList.1 h)
  · rcases List.mem_append.1 h with h | h
    · exact span?_within (Option.mem_toList.1 h)
    · obtain ⟨asName, -, hspan⟩ := Option.bind_eq_some_iff.1 (Option.mem_toList.1 h)
      exact span?_within hspan
  · cases h

theorem within_of_mem_bindingPlaces {t : Tree} {p : Span} (h : p ∈ m.bindingPlaces t) :
    p.Within [m] := by
  unfold bindingPlaces at h
  dsimp only at h
  split at h
  all_goals
    first
    | cases h
    | exact span?_within (Option.mem_toList.1 h)
    | exact searchSpan?_within (Option.mem_toList.1 h)

theorem within_of_mem_declaringPlaces {t : Tree} {p : Span} (h : p ∈ m.declaringPlaces t) :
    p.Within [m] := by
  rcases List.mem_append.1 h with h | h
  · rcases List.mem_append.1 h with h | h
    · exact within_of_mem_bindingPlaces h
    · unfold signaturePlaces at h
      split at h
      · obtain ⟨u, -, hu⟩ := List.mem_flatMap.1 h
        exact within_of_mem_parameterPlaces hu
      · obtain ⟨u, -, hu⟩ := List.mem_flatMap.1 h
        exact within_of_mem_parameterPlaces hu
      · cases h
  · unfold statementPlaces at h
    split at h
    · obtain ⟨u, -, hu⟩ := List.mem_flatMap.1 h
      exact within_of_mem_importPlaces hu
    · obtain ⟨u, -, hu⟩ := List.mem_flatMap.1 h
      exact within_of_mem_importPlaces hu
    · cases h

theorem within_of_mem_fieldPlaces {t : Tree} {p : Span} (h : p ∈ m.fieldPlaces t) :
    p.Within [m] := by
  unfold fieldPlaces at h
  split at h
  · exact span?_within (Option.mem_toList.1 h)
  · cases h

theorem within_of_mem_usePlaces {t : Tree} {p : Span} (h : p ∈ m.usePlaces t) : p.Within [m] := by
  unfold usePlaces at h
  split at h
  · exact span?_within (Option.mem_toList.1 h)
  · exact span?_within (Option.mem_toList.1 h)
  · obtain ⟨k, -, hk⟩ := List.mem_flatMap.1 h
    unfold keywordPlaces at hk
    split at hk
    · exact span?_within (Option.mem_toList.1 hk)
    · cases hk
  · obtain ⟨name, -, hname⟩ := List.mem_flatMap.1 h
    exact searchSpan?_within (Option.mem_toList.1 hname)
  · obtain ⟨name, -, hname⟩ := List.mem_flatMap.1 h
    exact searchSpan?_within (Option.mem_toList.1 hname)
  · cases h

end SourceModule

namespace Extraction

variable (x : Extraction)

/-! ## Fields -/

theorem declareField_traces (c : ClassFact) (receiver : String) (t : Tree) :
    Traces x (declareField c receiver x t) (c.module.fieldPlaces t) := by
  unfold declareField
  split
  · next name hfield =>
      have hplaces : c.module.fieldPlaces t = (c.module.tailSpan? t name).toList := by
        unfold assignedField? at hfield
        split at hfield
        · next heq _ =>
            split at hfield
            · split at hfield
              · obtain rfl := Option.some.inj hfield
                simp only [SourceModule.fieldPlaces, heq]
              · cases hfield
            · cases hfield
        · cases hfield
      rw [hplaces]
      split
      · exact (Traces.refl x).mono (List.nil_sublist _).subperm
      · exact (x.newSymbol_traces c.module c.bodyScope name .variable
          (c.module.tailSpan? t name) true).of_imprint_right
            (updateSymbol_imprint _ _ fun _ => rfl)
  · exact (Traces.refl x).mono (List.nil_sublist _).subperm

/-! ## Overrides -/

theorem addScope_imprint {c : Scope} {g : Graph} (h : x.graph.addScope c = .ok g) :
    ({ x with graph := g } : Extraction).imprint = x.imprint := by
  obtain ⟨-, rfl⟩ := Graph.addScope_eq_ok h
  rfl

theorem addOverride_imprint (member overridden : SymbolId) :
    ({ x with graph := x.graph.addOverride member overridden } : Extraction).imprint =
      x.imprint := by
  unfold Graph.addOverride
  split
  · rfl
  · exact updateSymbol_imprint _ member (f := fun s => { s with isOverride := true })
      fun _ => rfl

/-- What stands for a member outside the program has no place. -/
theorem placeholder_traces (type : SymbolId) (member : Symbol) :
    Traces x (x.placeholder type member).2 [] := by
  unfold placeholder
  dsimp only
  cases hscope : x.graph.addScope { id := externalScope, kind := .external } with
  | ok g =>
      have himprint := x.addScope_imprint hscope
      dsimp only
      split
      · next hadd =>
          exact (addSymbol_traces { x with graph := g } rfl rfl hadd).of_imprint_left himprint
      · exact Traces.of_imprint himprint
  | error cause =>
      dsimp only
      split
      · next hadd => exact x.addSymbol_traces rfl rfl hadd
      · exact Traces.refl x

theorem linkOverride_imprint (member : Symbol) (state : Extraction × Bool) (base : SymbolId) :
    (linkOverride member state base).1.imprint = state.1.imprint := by
  unfold linkOverride
  dsimp only
  split
  · split
    · rfl
    · exact addOverride_imprint ..
  · rfl

theorem linkMember_traces (c : ClassFact) (member : Symbol) :
    Traces x (linkMember c x member) [] := by
  have hlink : ∀ bases : List SymbolId,
      (bases.foldl (linkOverride member) (x, false)).1.imprint = x.imprint := fun bases =>
    proj_foldl (fun state : Extraction × Bool => state.1.imprint) (linkOverride_imprint member)
      bases (x, false)
  unfold linkMember
  dsimp only
  split
  · exact Traces.refl x
  · split
    · exact ((placeholder_traces ..).of_imprint_left (hlink _)).of_imprint_right
        (addOverride_imprint ..)
    · exact Traces.of_imprint (hlink _)

/-- A fold whose rounds record nothing records nothing. -/
theorem traces_foldl_nil {α : Type} {f : Extraction → α → Extraction}
    (h : ∀ y a, Traces y (f y a) []) (as : List α) : Traces x (as.foldl f x) [] := by
  have hfold := Traces.foldl (fun y => y) (fun _ => []) h as x
  rwa [List.flatMap_eq_nil_iff.2 fun _ _ => rfl] at hfold

theorem linkOverrides_traces : Traces x x.linkOverrides [] := by
  have hmembers : Traces x (x.classes.foldl
      (fun x c => (x.graph.membersOfScope c.bodyScope).foldl (linkMember c) x) x) [] :=
    x.traces_foldl_nil (fun y c => y.traces_foldl_nil (fun z s => z.linkMember_traces c s) _) _
  refine hmembers.of_imprint_right (proj_foldl imprint (fun y s => ?_) _ _)
  split
  · exact y.markAllDynamic_imprint _
  · rfl

/-! ## Uses -/

theorem visitName_traces (m : SourceModule) (scope : ScopeId) (t : Tree) (id : String)
    (context : Context) (inText : Bool) :
    Traces x (x.visitName m scope t id context inText) (m.nodeSpan? t).toList := by
  have hnone : Traces x x (m.nodeSpan? t).toList :=
    (Traces.refl x).mono (List.nil_sublist _).subperm
  unfold visitName
  split
  · split
    · exact hnone
    · exact hnone
  · next symbol _ =>
      dsimp only
      split
      · exact hnone
      · split
        · exact hnone
        · split
          · exact addReference_traces ..
          · exact (addReference_traces ..).of_imprint_left (x.keepNamed_imprint symbol)

theorem visitAttribute_traces (m : SourceModule) (scope : ScopeId) (t : Tree) (name : String) :
    Traces x (x.visitAttribute m scope t name) (m.tailSpan? t name).toList := by
  unfold visitAttribute
  split
  · next id _ => exact (addReference_traces ..).of_imprint_left (x.keepNamed_imprint id)
  · exact (Traces.refl x).mono (List.nil_sublist _).subperm
  · exact (Traces.refl x).mono (List.nil_sublist _).subperm

theorem visitDynamicCall_imprint (scope : ScopeId) (call function : Tree) :
    (x.visitDynamicCall scope call function).imprint = x.imprint := by
  unfold visitDynamicCall
  split
  · split <;> rfl
  · rfl

theorem visitKeyword_traces (m : SourceModule) (parameters : Option (List SymbolId))
    (keyword : Tree) :
    Traces x (visitKeyword m parameters x keyword) (m.keywordPlaces keyword) := by
  unfold visitKeyword
  split
  · exact (Traces.of_imprint (x.markAllDynamic_imprint _)).mono (List.nil_sublist _).subperm
  · next name heq =>
      simp only [SourceModule.keywordPlaces, heq]
      split
      · exact addReference_traces ..
      · exact (Traces.refl x).mono (List.nil_sublist _).subperm
  · exact (Traces.refl x).mono (List.nil_sublist _).subperm

theorem visitCall_traces (m : SourceModule) (scope : ScopeId) (call : Tree) :
    Traces x (x.visitCall m scope call) ((call.all .keyword).flatMap m.keywordPlaces) := by
  unfold visitCall
  split
  · exact (Traces.refl x).mono (List.nil_sublist _).subperm
  · next function _ =>
      have hcall := x.visitDynamicCall_imprint scope call function
      dsimp only
      split
      · exact (Traces.of_imprint hcall).mono (List.nil_sublist _).subperm
      · exact (Traces.foldl (fun y => y) m.keywordPlaces
          (fun y k => y.visitKeyword_traces m _ k) _ _).of_imprint_left hcall

theorem visitDeclared_traces (m : SourceModule) (scope : ScopeId) (t : Tree) (keyword : String)
    (symbolOf : Extraction → String → Option SymbolId) (name : String) :
    Traces x (visitDeclared m scope t keyword symbolOf x name)
      (m.declaredPlaces t keyword name) := by
  unfold visitDeclared
  split
  · exact (Traces.refl x).mono (List.nil_sublist _).subperm
  · next id _ => exact (addReference_traces ..).of_imprint_left (x.keepNamed_imprint id)

/-- A visit records uses at the places of its node. -/
theorem visit_traces (m : SourceModule) (scope : ScopeId) (v : Visit) :
    Traces x (visit m scope x v) (m.usePlaces v.node) := by
  unfold visit
  dsimp only
  split
  case h_1 heq =>
    simp only [SourceModule.usePlaces, heq]
    exact visitName_traces ..
  case h_2 heq =>
    simp only [SourceModule.usePlaces, heq]
    exact visitAttribute_traces ..
  case h_3 heq =>
    simp only [SourceModule.usePlaces, heq]
    exact visitCall_traces ..
  case h_4 heq =>
    simp only [SourceModule.usePlaces, heq]
    exact Traces.foldl (fun y => y) (m.declaredPlaces v.node "global")
      (fun y n => y.visitDeclared_traces m scope v.node "global" _ n) _ x
  case h_5 heq =>
    simp only [SourceModule.usePlaces, heq]
    exact Traces.foldl (fun y => y) (m.declaredPlaces v.node "nonlocal")
      (fun y n => y.visitDeclared_traces m scope v.node "nonlocal" _ n) _ x
  all_goals exact (Traces.refl x).mono (List.nil_sublist _).subperm

theorem collectRegion_traces (r : Region) :
    Traces x (x.collectRegion r) (r.read.flatMap r.module.usePlaces) := by
  rw [Region.read, ← map_node_walkAll r.inText, List.flatMap_map]
  exact Traces.foldl (fun y => y) _ (fun y v => y.visit_traces r.module r.scope v) _ x

/-! ## The last phases -/

theorem markDynamicSymbols_imprint : x.markDynamicSymbols.imprint = x.imprint := by
  have hmark : ({ x with graph := (x.graph.markDynamic x.dynamicNames false).2 } :
      Extraction).imprint = x.imprint := by
    simp only [imprint, Graph.markDynamic, List.map_map]
    refine Prod.ext (List.map_congr_left fun s _ => ?_) rfl
    rw [Function.comp]
    split <;> rfl
  unfold markDynamicSymbols
  refine (proj_foldl imprint (fun y n => y.markAllDynamic_imprint _) _ _).trans ?_
  refine (proj_foldl imprint (fun y s => y.markAllDynamic_imprint _) _ _).trans ?_
  exact (markAllDynamic_imprint _ _).trans hmark

theorem checkSpans_imprint : x.checkSpans.imprint = x.imprint := by
  simp only [checkSpans, imprint, List.map_map]
  rfl

/-! ## Modules of regions, imports and classes -/

theorem bind_notes (m : SourceModule) (scope : ScopeId) (name : String) (kind : SymbolKind)
    (span : Option Span) (occurrence : ScopeId) :
    (x.bind m scope name kind span occurrence).2.notes = x.notes := by
  unfold bind
  split
  · dsimp only
    split
    · rfl
    · exact addReference_notes ..
  · rfl

/-- The classes and the functions that were met, and the parameters. -/
def facts (x : Extraction) : List ClassFact × List FunctionFact × List (String × SymbolId) :=
  (x.classes, x.functions, x.parameters)

theorem bind_facts (m : SourceModule) (scope : ScopeId) (name : String) (kind : SymbolKind)
    (span : Option Span) (occurrence : ScopeId) :
    (x.bind m scope name kind span occurrence).2.facts = x.facts :=
  (congrArg facts (x.bind_notes m scope name kind span occurrence) :)

theorem bindWalrus_facts (d : Declaring) (name : String) (span : Option Span) :
    (x.bindWalrus d name span).facts = x.facts := by
  unfold bindWalrus
  dsimp only
  split
  · exact bind_facts ..
  · exact bind_facts ..

theorem declareVisit_facts (d : Declaring) (state : Extraction × List NestedScope) (v : Visit) :
    (declareVisit d state v).1.facts = state.1.facts := by
  unfold declareVisit
  dsimp only
  split
  case h_7 => exact bindWalrus_facts ..
  case h_14 =>
    split
    · split <;> rfl
    · rfl
  all_goals first | exact bind_facts .. | rfl

theorem declareRegion_facts (r : Region) : (x.declareRegion r).1.facts = x.facts :=
  proj_foldl (fun state : Extraction × List NestedScope => state.1.facts) (declareVisit_facts _) _ _

theorem declareParameter_classes (s : Signature) (state : Extraction × Option SymbolId)
    (item : Tree × Nat) : (declareParameter s state item).1.classes = state.1.classes := by
  unfold declareParameter
  dsimp only
  have hbind : ∀ m scope name kind span occurrence,
      (state.1.bind m scope name kind span occurrence).2.classes = state.1.classes :=
    fun m scope name kind span occurrence =>
      congrArg Prod.fst (state.1.bind_facts m scope name kind span occurrence)
  split
  · split
    · exact hbind ..
    · split <;> exact hbind ..
  · rfl

theorem declareParameters_classes (m : SourceModule) (parent scope : ScopeId) (node : Tree)
    (owner : Option SymbolId) :
    (x.declareParameters m parent scope node owner).classes = x.classes := by
  have hfold : ∀ s, ((node.all .parameter).zipIdx.foldl (declareParameter s) (x, none)).1.classes =
      x.classes := fun s =>
    proj_foldl (fun state : Extraction × Option SymbolId => state.1.classes)
      (declareParameter_classes s) _ (x, none)
  unfold declareParameters
  dsimp only
  split
  · split
    · split <;> exact hfold _
    · split <;> exact hfold _
  · split <;> exact hfold _

theorem uniqueScope_facts (id : ScopeId) : (x.uniqueScope id).2.facts = x.facts := by
  unfold uniqueScope
  split <;> rfl

theorem opened_facts (m : SourceModule) (parent : ScopeId) (n : NestedScope) :
    (x.opened m parent n).2.facts = x.facts := by
  have hid : (x.scopeIdFor parent n.node).2.facts = x.facts := by
    unfold scopeIdFor
    dsimp only
    split <;> exact uniqueScope_facts ..
  exact hid

/-- Opening a scope notes at most a class of the module. -/
theorem openScope_classes (m : SourceModule) (parent : ScopeId) (n : NestedScope) :
    ∀ c ∈ (x.openScope m parent n).1.classes, c ∈ x.classes ∨ c.module = m := by
  have hopened : (x.opened m parent n).2.classes = x.classes :=
    congrArg Prod.fst (x.opened_facts m parent n)
  rw [openScope_eq_furnish]
  unfold furnish
  intro c hc
  dsimp only at hc
  split at hc
  · rcases List.mem_append.1 hc with hc | hc
    · exact .inl (hopened ▸ hc)
    · exact .inr (List.mem_singleton.1 hc ▸ rfl)
  · rw [declareParameters_classes, hopened] at hc
    exact .inl hc
  · rw [declareParameters_classes, hopened] at hc
    exact .inl hc
  · exact .inl (hopened ▸ hc)

theorem openScopes_classes (m : SourceModule) (parent : ScopeId) : ∀ (ns : List NestedScope)
    (x : Extraction), ∀ c ∈ (openScopes m parent ns x).1.classes, c ∈ x.classes ∨ c.module = m
  | [], _, _, hc => .inl hc
  | n :: ns, x, c, hc => by
      rcases openScopes_classes m parent ns _ c hc with hc | hc
      · exact x.openScope_classes m parent n c hc
      · exact .inr hc

/-- What was noted belongs to some modules. -/
structure Housed (ms : List SourceModule) (x : Extraction) : Prop where
  regions : ∀ r ∈ x.regions, r.module ∈ ms
  imports : ∀ i ∈ x.pendingImports, i.module ∈ ms
  classes : ∀ c ∈ x.classes, c.module ∈ ms

variable {x} {ms : List SourceModule}

theorem Housed.round (h : Housed ms x) {r : Region} (hr : r.module ∈ ms) :
    Housed ms (x.round r).1 ∧ ∀ q ∈ (x.round r).2, q.module ∈ ms := by
  have himports : (x.round r).1.pendingImports = _ :=
    (congrArg Extraction.pendingImports (x.round_setting r) :)
  refine ⟨⟨fun q hq => ?_, fun i hi => ?_, fun c hc => ?_⟩, fun q hq => ?_⟩
  · rw [round_regions] at hq
    rcases List.mem_append.1 hq with hq | hq
    · exact h.regions q hq
    · exact List.mem_singleton.1 hq ▸ hr
  · rw [himports] at hi
    rcases List.mem_append.1 hi with hi | hi
    · exact h.imports i hi
    · obtain ⟨t, -, hi⟩ := List.mem_flatMap.1 hi
      unfold importsAt at hi
      split at hi
      · obtain ⟨a, -, rfl⟩ := List.mem_map.1 hi
        exact hr
      · obtain ⟨a, -, rfl⟩ := List.mem_map.1 hi
        exact hr
      · cases hi
  · have hregion : ({ x with regions := x.regions ++ [r] }.declareRegion r).1.classes =
        x.classes :=
      congrArg Prod.fst (declareRegion_facts _ r)
    rcases openScopes_classes r.module r.scope _ _ c hc with hc | hc
    · exact h.classes c (hregion ▸ hc)
    · exact hc ▸ hr
  · exact openScopes_module q hq ▸ hr

theorem Housed.declareRegions : ∀ (rounds : Nat) {queue : List Region} {x : Extraction},
    Housed ms x → (∀ r ∈ queue, r.module ∈ ms) →
    Housed ms (declareRegions rounds queue x)
  | 0, _, _, h, _ => h
  | _ + 1, [], _, h, _ => h
  | rounds + 1, r :: queue, x, h, hqueue => by
      obtain ⟨hround, hopened⟩ := h.round (hqueue r List.mem_cons_self)
      rw [declareRegions_succ_cons]
      refine Housed.declareRegions rounds hround fun q hq => ?_
      rcases List.mem_append.1 hq with hq | hq
      · exact hqueue q (List.mem_cons_of_mem _ hq)
      · exact hopened q hq

theorem Housed.mono {ms' : List SourceModule} (h : Housed ms x) (hsub : ms ⊆ ms') :
    Housed ms' x :=
  ⟨fun r hr => hsub (h.regions r hr), fun i hi => hsub (h.imports i hi),
    fun c hc => hsub (h.classes c hc)⟩

/-- What a program notes belongs to its modules. -/
theorem Gathered.housed (h : Gathered ms x) : Housed ms x := by
  induction h with
  | nil => exact ⟨by simp, by simp, by simp⟩
  | @add ms m x y _ hadd ih =>
      obtain ⟨-, g, -, rfl⟩ := addRead_eq_ok hadd
      have hold := ih.mono (List.subset_append_left ms [m])
      refine Housed.declareRegions _ ⟨hold.regions, hold.imports, hold.classes⟩ fun r hr => ?_
      obtain rfl := List.mem_singleton.1 hr
      exact List.mem_append_right _ (List.mem_singleton_self m)

theorem Housed.of_notes {y : Extraction} (h : Housed ms x) (hnotes : y.notes = x.notes) :
    Housed ms y := by
  have hregions : y.regions = x.regions := (congrArg Extraction.regions hnotes :)
  have himports : y.pendingImports = x.pendingImports :=
    (congrArg Extraction.pendingImports hnotes :)
  have hclasses : y.classes = x.classes := (congrArg Extraction.classes hnotes :)
  exact ⟨hregions ▸ h.regions, himports ▸ h.imports, hclasses ▸ h.classes⟩

/-! ## Places lie in texts -/

/-- An extraction in order whose marks all lie in the texts of some modules. -/
def Placed (ms : List SourceModule) (x : Extraction) : Prop :=
  x.Tidy ∧ ∀ mark ∈ x.marks, mark.1.Within ms

theorem Placed.records {y : Extraction} {places : List Span} (h : Placed ms x)
    (hrecords : Records x y places) (hplaces : ∀ p ∈ places, p.Within ms) : Placed ms y := by
  refine ⟨hrecords.2.2 h.1, fun mark hmark => ?_⟩
  rcases hrecords.place_mem hmark with hmark | hplace
  · exact h.2 mark hmark
  · exact hplaces _ hplace

theorem Placed.of_imprint {y : Extraction} (h : Placed ms x) (himprint : y.imprint = x.imprint) :
    Placed ms y :=
  h.records (Records.of_imprint himprint) (by simp)

theorem Gathered.placed_withImports (h : Gathered ms x) : Placed ms x.withImports := by
  obtain ⟨left, ⟨made, hmade, hplaces⟩, htidy⟩ := h.booked_withImports
  refine ⟨htidy, fun mark hmark => ?_⟩
  have hplace := hplaces.subset (List.mem_append_left _ (List.mem_map_of_mem (hmade hmark)))
  obtain ⟨r, hr, hplace⟩ := List.mem_flatMap.1 hplace
  obtain ⟨t, -, hplace⟩ := List.mem_flatMap.1 hplace
  exact (SourceModule.within_of_mem_declaringPlaces hplace).of_mem (h.housed.regions r hr)

theorem Placed.declareFields (h : Placed ms x) (hclasses : ∀ c ∈ x.classes, c.module ∈ ms) :
    Placed ms x.declareFields := by
  refine keep_foldl_mem (Placed ms) (fun y c hc hy => ?_) h
  have hmodule := hclasses c ((List.mergeSort_perm _ _).subset hc)
  refine keep_foldl (Placed ms) (fun z f hz => ?_) _ hy
  unfold declareMethodFields
  split
  · exact keep_foldl (Placed ms) (fun u t hu => hu.records (u.declareField_traces c _ t).1
      fun p hp => (SourceModule.within_of_mem_fieldPlaces hp).of_mem hmodule) _ hz
  · exact hz

/-- **Every mark of a program lies in the text of one of its modules.** -/
theorem Gathered.placed_withUses (h : Gathered ms x) : Placed ms x.withUses := by
  have hbases := h.placed_withImports.of_imprint x.withBases_imprint
  have hfields : Placed ms x.withFields :=
    hbases.declareFields (h.housed.of_notes x.withBases_notes).classes
  have hoverrides : Placed ms x.withOverrides :=
    hfields.records (linkOverrides_traces _).1 (by simp)
  refine keep_foldl_mem (Placed ms) (fun y r hr hy => ?_) hoverrides
  refine hy.records (y.collectRegion_traces r).1 fun p hp => ?_
  obtain ⟨t, -, hp⟩ := List.mem_flatMap.1 hp
  exact (SourceModule.within_of_mem_usePlaces hp).of_mem
    ((h.housed.of_notes x.withOverrides_notes).regions r hr)

end Extraction

end Pseudonym
