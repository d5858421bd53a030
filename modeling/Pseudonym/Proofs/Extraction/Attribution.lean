import Pseudonym.Proofs.Extraction.Keywords
import Pseudonym.Proofs.Extraction.Overriding

/-!
# Which symbol a place belongs to

A name that is bound is met twice: it is declared while its module is added, and it is looked up when
uses are recorded. Both times its place is recorded, so it belongs to one symbol only if the look-up
finds what was declared. The same goes for a field that a method assigns. It does so unless a scope
binds a name for another scope and has one of its own on the way (`not_eq_of_mem_spans_shelf`), a
class is defined again, or the name of the object means something else where the field is assigned.
All other places belong to one symbol (`eq_of_mem_spans`).

## Proof shape

Places of different nodes are different (`Apart`), and a node is met in one region, so two symbols of
a place have it from the same node (`Gathered.site_unique`). What is left is that a node has the same
symbol in each phase: names are declared (`Gathered.recorded`) and stay declared
(`Gathered.declared?_withOverrides`), fields are assigned (`Gathered.mem_marks_withOverrides`), and
the last phase looks both up (`Gathered.mem_marks_withUses`).
-/

namespace Pseudonym

open Python Python.Tree

/-! ## The places of a program -/

namespace SourceModule

/-- Where a node has names. A name that is bound stands at the place at which it is looked up. -/
def places (m : SourceModule) (t : Tree) : List Span :=
  match t.label with
  | .name .. => (m.nodeSpan? t).toList
  | _ => m.declaringPlaces t ++ m.usePlaces t

variable {m : SourceModule} {t : Tree} {p : Span}

theorem declaringPlaces_sublist : (m.declaringPlaces t).Sublist (m.places t) := by
  unfold places
  split
  · next name context heq =>
      simp only [declaringPlaces, signaturePlaces, statementPlaces, heq, List.append_nil]
      unfold bindingPlaces
      cases context <;> simp [heq]
  · exact List.sublist_append_left ..

theorem usePlaces_sublist : (m.usePlaces t).Sublist (m.places t) := by
  unfold places
  split
  · next heq =>
      simp only [usePlaces, heq]
      exact List.Sublist.refl _
  · exact List.sublist_append_right ..

theorem mem_usePlaces_of_mem_fieldPlaces (h : p ∈ m.fieldPlaces t) : p ∈ m.usePlaces t := by
  unfold fieldPlaces at h
  split at h
  · next heq =>
      rw [usePlaces, heq]
      exact h
  · cases h

/-- What declares a name and uses one at the same place is a name that is bound. -/
theorem exists_name_of_mem (h : (m.places t).Nodup) (hdeclared : p ∈ m.declaringPlaces t)
    (hused : p ∈ m.usePlaces t) :
    ∃ name context, t.label = .name name context ∧ context ≠ .load ∧ m.nodeSpan? t = some p := by
  unfold places at h
  split at h
  · next name context heq =>
      refine ⟨name, context, heq, ?_, ?_⟩
      · rintro rfl
        simp [declaringPlaces, bindingPlaces, signaturePlaces, statementPlaces, heq] at hdeclared
      · simp only [usePlaces, heq] at hused
        exact Option.mem_toList.1 hused
  · exact absurd rfl ((List.nodup_append.1 h).2.2 p hdeclared p hused)

end SourceModule

/-- Every name of a program stands at a place of its own. -/
def Apart (ms : List SourceModule) : Prop :=
  (ms.flatMap fun m => m.tree.nodes.flatMap m.places).Nodup

instance (ms : List SourceModule) : Decidable (Apart ms) :=
  inferInstanceAs (Decidable (ms.flatMap fun m => m.tree.nodes.flatMap m.places).Nodup)

/-- In lists that have nothing in common, something stands in one of them only. -/
theorem eq_of_mem_of_mem {α β : Type} {f : α → List β} {as : List α} (h : (as.flatMap f).Nodup)
    {a b : α} (ha : a ∈ as) (hb : b ∈ as) {p : β} (hpa : p ∈ f a) (hpb : p ∈ f b) : a = b := by
  by_contra hne
  have hsymm : Std.Symm (Function.onFun List.Disjoint f) := ⟨fun _ _ hd => List.Disjoint.symm hd⟩
  exact (List.nodup_flatMap.1 h).2.forall ha hb hne hpa hpb

/-- The same for lists of lists. -/
theorem eq_of_mem_of_mem_of_mem {α β γ : Type} {g : α → List β} {f : α → β → List γ} {as : List α}
    (h : (as.flatMap fun a => (g a).flatMap (f a)).Nodup) {a a' : α} (ha : a ∈ as) (ha' : a' ∈ as)
    {b b' : β} (hb : b ∈ g a) (hb' : b' ∈ g a') {p : γ} (hp : p ∈ f a b) (hp' : p ∈ f a' b') :
    a = a' ∧ b = b' := by
  obtain rfl := eq_of_mem_of_mem h ha ha' (List.mem_flatMap.2 ⟨b, hb, hp⟩)
    (List.mem_flatMap.2 ⟨b', hb', hp'⟩)
  exact ⟨rfl, eq_of_mem_of_mem ((List.nodup_flatMap.1 h).1 a ha) hb hb' hp hp'⟩

namespace Extraction

variable {x y : Extraction} {ms : List SourceModule}

/-- The regions of a module meet every node of it at most once. -/
theorem Declares.met_subperm_nodes {m : SourceModule} (hmodule : IsModule m.tree)
    {rs : List Region} (h : Declares [bodyRegion m] x rs y) :
    (rs.flatMap Region.met).Subperm m.tree.nodes := by
  -- The nodes of the body are nodes of the tree.
  have hbody : ((roots [bodyRegion m]).flatMap nodes).Sublist m.tree.nodes := by
    rw [roots_bodyRegion, nodes_eq m.tree]
    exact ((List.filter_sublist.map _).flatMap nodes).cons _
  exact (h.met_subperm (grammatical_bodyRegion hmodule)).trans hbody.subperm

/-- Regions meet every node of their modules at most once. -/
theorem Gathered.places_subperm (h : Gathered ms x) (hms : ∀ m ∈ ms, IsModule m.tree) :
    (x.regions.flatMap fun r => r.met.flatMap r.module.places).Subperm
      (ms.flatMap fun m => m.tree.nodes.flatMap m.places) := by
  induction h with
  | nil => exact List.Subperm.refl _
  | @add ms m x y _ hadd ih =>
      obtain ⟨-, g, -, rfl⟩ := addRead_eq_ok hadd
      have hmodule := hms m (List.mem_append_right _ (List.mem_singleton_self m))
      obtain ⟨rs, hrounds⟩ := declares_of_pending_le (m.tree.size + 1) (x.entered m g)
        (grammatical_bodyRegion hmodule) (pending_bodyRegion_le hmodule)
      have hown : ∀ r ∈ rs, r.module = m :=
        hrounds.module_eq fun r hr => List.mem_singleton.1 hr ▸ rfl
      rw [hrounds.regions_eq, List.flatMap_append, List.flatMap_append, List.flatMap_singleton]
      refine (ih fun k hk => hms k (List.mem_append_left _ hk)).append ?_
      have hplaces : (rs.flatMap fun r => r.met.flatMap r.module.places) =
          (rs.flatMap Region.met).flatMap m.places := by
        rw [List.flatMap_assoc]
        exact List.flatMap_congr fun r hr => by rw [hown r hr]
      rw [hplaces]
      exact subperm_flatMap (hrounds.met_subperm_nodes hmodule) m.places

section

variable (h : Gathered ms x) (hms : ∀ m ∈ ms, IsModule m.tree) (hapart : Apart ms)
include h hms hapart

theorem Gathered.places_nodup :
    (x.regions.flatMap fun r => r.met.flatMap r.module.places).Nodup :=
  nodup_of_subperm (h.places_subperm hms) hapart

/-- A place belongs to one node of one region. -/
theorem Gathered.site_unique {r q : Region} (hr : r ∈ x.regions) (hq : q ∈ x.regions) {t u : Tree}
    (ht : t ∈ r.met) (hu : u ∈ q.met) {p : Span} (hp : p ∈ r.module.places t)
    (hp' : p ∈ q.module.places u) : r = q ∧ t = u :=
  eq_of_mem_of_mem_of_mem (h.places_nodup hms hapart) hr hq ht hu hp hp'

/-- A node has a place once. -/
theorem Gathered.places_nodup_of_mem {r : Region} (hr : r ∈ x.regions) {t : Tree}
    (ht : t ∈ r.met) : (r.module.places t).Nodup :=
  (List.nodup_flatMap.1 ((List.nodup_flatMap.1 (h.places_nodup hms hapart)).1 r hr)).1 t ht

end

end Extraction

/-! ## Names that a region binds -/

namespace Region

/-- The names that a region declares as those of its module. -/
def globals (r : Region) : List String :=
  r.met.flatMap fun t => match t.label with
    | .globalNames names => names
    | _ => []

/-- The names that a region declares as those of a function around it. -/
def nonlocals (r : Region) : List String :=
  r.met.flatMap fun t => match t.label with
    | .nonlocalNames names => names
    | _ => []

/-- A name is bound for another scope than that of its region: it is declared so, or an assignment
inside an expression binds it in a comprehension. -/
def BindsElsewhere (comprehensions : List ScopeId) (r : Region) (name : String)
    (context : Context) : Prop :=
  name ∈ r.globals ∨ name ∈ r.nonlocals ∨ context = .walrus ∧ r.scope ∈ comprehensions

theorem BindsElsewhere.mono {comprehensions comprehensions' : List ScopeId} {r : Region}
    {name : String} {context : Context} (h : r.BindsElsewhere comprehensions name context)
    (hsub : comprehensions ⊆ comprehensions') : r.BindsElsewhere comprehensions' name context :=
  h.imp_right fun h => h.imp_right fun h => ⟨h.1, hsub h.2⟩

theorem read_sublist (r : Region) : r.read.Sublist r.met := by
  have hroots : (undocumented r.roots).Sublist r.roots := by
    cases r.roots with
    | nil => exact List.Sublist.refl _
    | cons t ts =>
        rw [undocumented]
        split
        · exact List.sublist_cons_self t ts
        · exact List.Sublist.refl _
  rw [r.met_eq]
  exact (hroots.flatMap (walk false)).map (·.node)

end Region

namespace Extraction

variable {x y : Extraction} {ms : List SourceModule}

theorem declareRegion_def (x : Extraction) (r : Region) :
    x.declareRegion r = (walkAll r.inText r.roots).foldl
      (declareVisit ⟨r.module, r.scope, r.globals, r.nonlocals⟩) (x, []) := by
  have hmet : ∀ f : Tree → List String,
      (walkAll r.inText r.roots).flatMap (fun v => f v.node) = r.met.flatMap f :=
    fun f => (List.flatMap_map Visit.node f _).symm
  have hglobals := hmet fun t => match t.label with
    | .globalNames names => names
    | _ => []
  have hnonlocals := hmet fun t => match t.label with
    | .nonlocalNames names => names
    | _ => []
  exact congrArg₂ (fun globals nonlocals => (walkAll r.inText r.roots).foldl
    (declareVisit ⟨r.module, r.scope, globals, nonlocals⟩) (x, [])) hglobals hnonlocals

/-- Marks, declarations and comprehensions are kept. -/
structure Keeps (x y : Extraction) : Prop where
  marks : x.marks ⊆ y.marks
  index : x.index ⊆ y.index
  comprehensions : x.comprehensions ⊆ y.comprehensions

theorem bind_comprehensions (x : Extraction) (m : SourceModule) (scope : ScopeId) (name : String)
    (kind : SymbolKind) (span : Option Span) (occurrence : ScopeId) :
    (x.bind m scope name kind span occurrence).2.comprehensions = x.comprehensions :=
  (congrArg Extraction.comprehensions (x.bind_notes m scope name kind span occurrence) :)

theorem declareVisit_comprehensions (d : Declaring) (state : Extraction × List NestedScope)
    (v : Visit) : (declareVisit d state v).1.comprehensions = state.1.comprehensions := by
  unfold declareVisit
  dsimp only
  split
  case h_7 =>
    unfold bindWalrus
    dsimp only
    split <;> exact bind_comprehensions ..
  case h_14 =>
    split
    · split <;> rfl
    · rfl
  all_goals first | exact bind_comprehensions .. | rfl

theorem declareRegion_comprehensions (x : Extraction) (r : Region) :
    (x.declareRegion r).1.comprehensions = x.comprehensions :=
  proj_foldl (fun state : Extraction × List NestedScope => state.1.comprehensions)
    (declareVisit_comprehensions _) _ _

theorem declareParameter_comprehensions (s : Signature) (state : Extraction × Option SymbolId)
    (item : Tree × Nat) :
    (declareParameter s state item).1.comprehensions = state.1.comprehensions := by
  unfold declareParameter
  dsimp only
  split
  · split
    · exact bind_comprehensions ..
    · split <;> exact bind_comprehensions ..
  · rfl

theorem declareParameters_comprehensions (x : Extraction) (m : SourceModule)
    (parent scope : ScopeId) (node : Tree) (owner : Option SymbolId) :
    (x.declareParameters m parent scope node owner).comprehensions = x.comprehensions := by
  have hfold : ∀ s, ((node.all .parameter).zipIdx.foldl (declareParameter s)
      (x, none)).1.comprehensions = x.comprehensions := fun s =>
    proj_foldl (fun state : Extraction × Option SymbolId => state.1.comprehensions)
      (declareParameter_comprehensions s) _ (x, none)
  unfold declareParameters
  dsimp only
  split
  · split
    · split <;> exact hfold _
    · split <;> exact hfold _
  · split <;> exact hfold _

theorem openScope_comprehensions (x : Extraction) (m : SourceModule) (parent : ScopeId)
    (n : NestedScope) : x.comprehensions ⊆ (x.openScope m parent n).1.comprehensions := by
  have hunique : ∀ (y : Extraction) (id : ScopeId),
      (y.uniqueScope id).2.comprehensions = y.comprehensions := by
    intro y id
    unfold uniqueScope
    split <;> rfl
  have hid : (x.scopeIdFor parent n.node).2.comprehensions = x.comprehensions := by
    unfold scopeIdFor
    dsimp only
    split <;> exact hunique _ _
  have hopened : x.comprehensions ⊆ (x.opened m parent n).2.comprehensions := by
    unfold opened
    dsimp only
    split
    · exact hid ▸ List.subset_cons_self _ _
    · exact hid ▸ List.Subset.refl _
  rw [openScope_eq_furnish]
  unfold furnish
  dsimp only
  split
  · exact hopened
  · exact (declareParameters_comprehensions ..).symm ▸ hopened
  · exact (declareParameters_comprehensions ..).symm ▸ hopened
  · exact hopened

theorem openScopes_comprehensions (m : SourceModule) (parent : ScopeId) :
    ∀ (ns : List NestedScope) (x : Extraction),
    x.comprehensions ⊆ (openScopes m parent ns x).1.comprehensions
  | [], _ => List.Subset.refl _
  | n :: ns, x =>
      List.Subset.trans (x.openScope_comprehensions m parent n)
        (openScopes_comprehensions m parent ns _)

/-- A name that is bound in a scope is declared there, and its place is recorded. -/
theorem bind_recorded (hx : Registered x) {m : SourceModule} (heditable : m.editable = true)
    {scope : ScopeId} (hscope : x.graph.ScopeIn (some m.path) scope) {name : String}
    (hname : Plain name) (kind : SymbolKind) (span : Span) (occurrence : ScopeId) :
    ∃ id, (x.bind m scope name kind (some span) occurrence).2.Declared scope name id ∧
      (span, id) ∈ (x.bind m scope name kind (some span) occurrence).2.marks := by
  unfold bind
  split
  · next id hdeclared =>
      obtain ⟨s, hs, hid, -, -⟩ := hx.symbol_of_declared? hdeclared
      have hindex := mem_index_of_declared? hdeclared
      dsimp only
      split
      · next heq =>
          obtain ⟨t, ht, htdeclared⟩ := Option.bind_eq_some_iff.1 heq.symm
          obtain ⟨htmem, htid⟩ := hx.wellFormed.symbol?_eq_some.1 ht
          refine ⟨id, hindex, mem_marks.2 ⟨t, htmem, htid, ?_⟩⟩
          simp [Symbol.spans, htdeclared]
      · refine ⟨id, ?_, ?_⟩
        · exact (addReference_traces { x with bindings := id :: x.bindings } ..).2.1 hindex
        · rw [addReference, if_neg (by simp [heditable])]
          exact (mem_marks_addReference _).2 (.inr ⟨rfl, Graph.mem_symbolIds.2 ⟨s, hs, hid⟩⟩)
  · obtain ⟨id, counter, -, -, -, -, heq⟩ :=
      hx.newSymbol_eq m hscope.mem hname kind (some span) true
    rw [heq]
    refine ⟨id, List.mem_cons_self, mem_marks.2 ⟨_, List.mem_append_right _
      (List.mem_singleton_self _), rfl, ?_⟩⟩
    simp [Symbol.spans, makeSymbol]

/-- The names that a region binds are declared, in its own scope unless they are bound for another
one, and the places at which it binds them are recorded. -/
def Recorded (r : Region) (x : Extraction) : Prop :=
  ∀ t ∈ r.met, ∀ name context, t.label = .name name context → context ≠ .load →
    ∀ span, r.module.nodeSpan? t = some span →
      ∃ target id, x.Declared target name id ∧ (span, id) ∈ x.marks ∧
        (target = r.scope ∨ r.BindsElsewhere x.comprehensions name context)

theorem Recorded.keep {r : Region} (h : Recorded r x) (hkeeps : Keeps x y) : Recorded r y := by
  intro t ht name context hlabel hload span hspan
  obtain ⟨target, id, hdeclared, hmark, htarget⟩ := h t ht name context hlabel hload span hspan
  exact ⟨target, id, hkeeps.index hdeclared, hkeeps.marks hmark,
    htarget.imp_right fun helsewhere => helsewhere.mono hkeeps.comprehensions⟩

theorem declareVisit_keeps (d : Declaring) (state : Extraction × List NestedScope) (v : Visit) :
    Keeps state.1 (declareVisit d state v).1 where
  marks := (declareVisit_traces state.1 d state.2 v).1.1
  index := (declareVisit_traces state.1 d state.2 v).2.1
  comprehensions := declareVisit_comprehensions d state v ▸ List.Subset.refl _

/-- Outside comprehensions an assignment inside an expression belongs to its scope. -/
theorem walrusScope_eq_self {scope : ScopeId} (h : scope ∉ x.comprehensions) :
    x.walrusScope scope = scope := by
  unfold walrusScope
  dsimp only
  rw [List.find?_cons_of_pos (by simpa using h)]
  rfl

/-- A name that a region binds is recorded when its node is met. -/
theorem declareVisit_recorded (hx : Registered x) {r : Region}
    (heditable : r.module.editable = true)
    (hd : Declaring.Known x ⟨r.module, r.scope, r.globals, r.nonlocals⟩)
    (nested : List NestedScope) {v : Visit} (hv : Spelled v.node) {name : String}
    {context : Context} (hlabel : v.node.label = .name name context) (hload : context ≠ .load)
    {span : Span} (hspan : r.module.nodeSpan? v.node = some span) {y : Extraction}
    (hy : (declareVisit ⟨r.module, r.scope, r.globals, r.nonlocals⟩ (x, nested) v).1 = y) :
    ∃ target id, y.Declared target name id ∧ (span, id) ∈ y.marks ∧
      (target = r.scope ∨ r.BindsElsewhere x.comprehensions name context) := by
  have hname : Plain name := hv.label (by rw [hlabel]; exact List.mem_singleton_self _)
  let d : Declaring := ⟨r.module, r.scope, r.globals, r.nonlocals⟩
  have hbound : ∀ target occurrence, x.graph.ScopeIn (some r.module.path) target →
      (target = r.scope ∨ r.BindsElsewhere x.comprehensions name context) →
      y = (x.bind r.module target name .variable (some span) occurrence).2 →
      ∃ target id, y.Declared target name id ∧ (span, id) ∈ y.marks ∧
        (target = r.scope ∨ r.BindsElsewhere x.comprehensions name context) := by
    rintro target occurrence hscope htarget rfl
    obtain ⟨id, hdeclared, hmark⟩ :=
      bind_recorded hx heditable hscope hname .variable span occurrence
    exact ⟨target, id, hdeclared, hmark, htarget⟩
  have hscope := bindingScope_in hx hd name
  have htarget : x.bindingScope d name = r.scope ∨
      r.BindsElsewhere x.comprehensions name context := by
    unfold bindingScope
    split
    · next hglobal => exact .inr (.inl (List.contains_iff_mem.1 hglobal))
    · split
      · next hnonlocal => exact .inr (.inr (.inl (List.contains_iff_mem.1 hnonlocal)))
      · exact .inl rfl
  unfold declareVisit at hy
  cases context with
  | load => exact absurd rfl hload
  | store =>
      simp only [hlabel, hspan] at hy
      exact hbound _ _ hscope htarget hy.symm
  | delete =>
      simp only [hlabel, hspan] at hy
      exact hbound _ _ hscope htarget hy.symm
  | walrus =>
      simp only [hlabel, hspan, bindWalrus] at hy
      split at hy
      · exact hbound _ _ hscope htarget hy.symm
      · next hother =>
          refine hbound _ _ (walrusScope_in hx hd.scope_in) (.inr ?_) hy.symm
          refine .inr (.inr ⟨rfl, ?_⟩)
          by_contra hplain
          exact hother (walrusScope_eq_self hplain)

/-- Declaring the names of a region records those that it binds. -/
theorem declareRegion_recorded (hx : Registered x) {r : Region} (hr : r.Known x)
    (heditable : r.module.editable = true) : Recorded r (x.declareRegion r).1 := by
  intro t ht name context hlabel hload span hspan
  obtain ⟨v, hv, rfl⟩ := List.mem_map.1 ht
  let d : Declaring := ⟨r.module, r.scope, r.globals, r.nonlocals⟩
  have hnode : ∀ w ∈ walkAll r.inText r.roots,
      w.node ∈ r.module.tree.nodes ∧ Spelled w.node := by
    intro w hw
    have hmet : w.node ∈ met r.roots := r.met_eq ▸ List.mem_map_of_mem hw
    obtain ⟨root, hroot, hnode⟩ := mem_met.1 hmet
    exact ⟨nodes_subset (hr.roots_mem root hroot) (mem_nodes_of_mem_met_singleton hnode),
      spelled_of_mem_met hr.spelled hmet⟩
  rw [declareRegion_comprehensions, declareRegion_def]
  refine foldl_of_step
    (fun state : Extraction × List NestedScope => Registered state.1 ∧ d.Known state.1 ∧
      (∀ n ∈ state.2, n.Known state.1 d.module) ∧ state.1.comprehensions = x.comprehensions)
    (fun state => ∃ target id, state.1.Declared target name id ∧ (span, id) ∈ state.1.marks ∧
      (target = r.scope ∨ r.BindsElsewhere x.comprehensions name context))
    (fun state w hstate => ?_) (fun state hstate => ?_) (fun state w hw hstate => ?_)
    ⟨hx, ⟨hr.scope_in, hr.module_in⟩, by simp, rfl⟩ hv
  · obtain ⟨target, id, hdeclared, hmark, htarget⟩ := hstate
    have hkeeps := declareVisit_keeps d state w
    exact ⟨target, id, hkeeps.index hdeclared, hkeeps.marks hmark, htarget⟩
  · obtain ⟨hregistered, hd, -, hcomprehensions⟩ := hstate
    rw [← hcomprehensions]
    exact declareVisit_recorded hregistered heditable hd state.2 (hnode v hv).2 hlabel hload
      hspan rfl
  · obtain ⟨hregistered, hd, hnested, hcomprehensions⟩ := hstate
    obtain ⟨hsteps, hlisted⟩ :=
      declareVisit_steps hregistered hd hnested (hnode w hw).1 (hnode w hw).2
    have hgrows := hregistered.grows hsteps
    exact ⟨hregistered.steps hsteps, ⟨hgrows.scopeIn hd.scope_in, hgrows.scopeIn hd.module_in⟩,
      hlisted, (declareVisit_comprehensions d state w).trans hcomprehensions⟩

theorem round_keeps (hx : Registered x) (hresolved : x.resolved = false) {r : Region}
    (hr : r.Known x) : Keeps x (x.round r).1 where
  marks := (x.round_records r).1
  index := (hx.grows (round_steps hx hresolved hr).1).index.subset
  comprehensions := by
    have hscopes := openScopes_comprehensions r.module r.scope
      ({ x with regions := x.regions ++ [r] }.declareRegion r).2
      ({ x with regions := x.regions ++ [r] }.declareRegion r).1
    rwa [declareRegion_comprehensions] at hscopes

/-- A round records the names that its region binds for itself. -/
theorem round_recorded (hx : Registered x) (hresolved : x.resolved = false) {r : Region}
    (hr : r.Known x) (heditable : r.module.editable = true) : Recorded r (x.round r).1 := by
  have hnoted : Step x { x with regions := x.regions ++ [r] } := .of_ground rfl
  have hknown := hr.of_grows (hnoted.grows hx)
  obtain ⟨hdeclared, hnested⟩ := declareRegion_steps (hx.step hnoted) hknown
  have hbefore : Steps x _ := .head hnoted hdeclared
  have hgrows := hx.grows hbefore
  have hopened := openScopes_steps (hx.steps hbefore) (hgrows.resolved.trans hresolved)
    (hr.of_grows hgrows).module_mem (hgrows.scopeIn hr.module_in) (hgrows.scopeIn hr.scope_in)
    hnested
  refine (declareRegion_recorded (hx.step hnoted) hknown heditable).keep ⟨?_, ?_, ?_⟩
  · exact (openScopes_records r.module r.scope _ _).1
  · exact ((hx.steps hbefore).grows hopened.1).index.subset
  · exact openScopes_comprehensions r.module r.scope _ _

/-- Every region that was walked through is recorded, if its module may be changed. -/
def Recording (x : Extraction) : Prop :=
  ∀ r ∈ x.regions, r.module.editable = true → Recorded r x

theorem Recording.declareRegions : ∀ (rounds : Nat) {queue : List Region} {x : Extraction},
    Recording x → Registered x → x.resolved = false → (∀ r ∈ queue, r.Known x) →
    Recording (declareRegions rounds queue x)
  | 0, _, _, h, _, _, _ => h
  | _ + 1, [], _, h, _, _, _ => h
  | rounds + 1, r :: queue, x, h, hx, hresolved, hqueue => by
      have hr := hqueue r List.mem_cons_self
      obtain ⟨hround, hopened⟩ := round_steps hx hresolved hr
      have hgrows := hx.grows hround
      rw [declareRegions_succ_cons]
      refine Recording.declareRegions rounds (fun q hq heditable => ?_) (hx.steps hround)
        (hgrows.resolved.trans hresolved) fun q hq => ?_
      · rw [round_regions] at hq
        rcases List.mem_append.1 hq with hq | hq
        · exact (h q hq heditable).keep (round_keeps hx hresolved hr)
        · obtain rfl := List.mem_singleton.1 hq
          exact round_recorded hx hresolved hr heditable
      · rcases List.mem_append.1 hq with hq | hq
        · exact (hqueue q (List.mem_cons_of_mem _ hq)).of_grows hgrows
        · exact hopened q hq

/-- **The names that a scope binds for itself are declared in it, and recorded where they are
bound.** -/
theorem Gathered.recorded (h : Gathered ms x) (hms : ∀ m ∈ ms, Legible m) : Recording x := by
  induction h with
  | nil => exact fun r hr => absurd hr List.not_mem_nil
  | @add ms m x y hbefore hadd ih =>
      have hlegible : ∀ k ∈ ms, Legible k := fun k hk => hms k (List.mem_append_left _ hk)
      have hm := hms m (List.mem_append_right _ (List.mem_singleton_self m))
      obtain ⟨hresolved, g, hscope, rfl⟩ := addRead_eq_ok hadd
      have hentered := (hbefore.registered hlegible).entered hresolved hm.1 hscope
      have hknown := bodyRegion_known hm hscope
      obtain ⟨-, rfl⟩ := Graph.addScope_eq_ok hscope
      refine Recording.declareRegions _ (fun r hr heditable => ?_) hentered hresolved fun r hr => ?_
      · exact (ih hlegible r hr heditable).keep
          ⟨List.Subset.refl _, List.Subset.refl _, List.Subset.refl _⟩
      · obtain rfl := List.mem_singleton.1 hr
        exact hknown

/-! ## Declarations stay what they are -/

/-- A class is known by another body than this one: it is defined again. -/
def Superseded (x : Extraction) (c : ClassFact) : Prop :=
  (x.graph.ownedScope c.symbol).map (·.id) ≠ some c.bodyScope

variable {scope : ScopeId} {name : String} {id : SymbolId}

theorem declared?_of_index (hindex : y.index = x.index) : y.declared? = x.declared? := by
  funext scope name
  rw [declared?, declared?, hindex]

/-- A new declaration of another name hides nothing. -/
theorem declared?_of_cons {entry : (ScopeId × String) × SymbolId}
    (hindex : y.index = entry :: x.index) (hkey : entry.1 ≠ (scope, name)) :
    y.declared? scope name = x.declared? scope name := by
  rw [declared?, declared?, hindex, valueOf?, valueOf?,
    List.find?_cons_of_neg (by simpa using hkey)]

/-- An import declares no name that is declared. -/
theorem linkImport_declared? (hx : Registered x) {item : PendingImport} {final : Bool}
    (hlink : x.linkImport item final = some y) (h : x.declared? scope name = some id) :
    y.declared? scope name = some id := by
  rcases linkImport_tied hx hlink with hties | ⟨bound, -, hties⟩
  · rw [declared?_of_index (congrArg Prod.fst hties)]
    exact h
  · cases hties with
    | keep hties =>
        rw [declared?_of_index (congrArg Prod.fst hties)]
        exact h
    | declare hfree new hties =>
        rw [declared?_of_cons (congrArg Prod.fst hties)]
        · exact h
        · intro heq
          obtain ⟨rfl, rfl⟩ := Prod.mk.inj heq
          rw [hfree] at h
          cases h
    | take _ _ _ hties =>
        rw [declared?_of_index (congrArg Prod.fst hties)]
        exact h

theorem declared?_withImports (hx : Registered x) (h : x.declared? scope name = some id) :
    x.withImports.declared? scope name = some id := by
  obtain ⟨-, hleft⟩ := linkImports_induction (x := x)
    (motive := fun y _ => y.declared? scope name = some id)
    (fun hy _ _ _ hlink hold => linkImport_declared? hy hlink hold) hx h
  exact hleft

/-- Fields hide no name of the body of a class that is known by this body. -/
theorem declareField_declared? {c : ClassFact} {receiver : String} {t : Tree}
    (howned : c.bodyScope = scope → (x.graph.ownedScope c.symbol).map (·.id) = some scope)
    (h : x.declared? scope name = some id) :
    (declareField c receiver x t).declared? scope name = some id := by
  rcases declareField_ties c receiver x t with hties | ⟨field, -, hfree, new, hties⟩
  · rw [declared?_of_index (congrArg Prod.fst hties)]
    exact h
  · rw [declared?_of_cons (congrArg Prod.fst hties)]
    · exact h
    · intro heq
      obtain ⟨hbody, rfl⟩ := Prod.mk.inj heq
      rw [declared?_of_classMember?_none hfree (howned hbody)] at h
      cases h

/-- The body of a class belongs to one symbol. -/
theorem symbol_eq_of_bodyScope_eq (hx : Registered x) {c d : ClassFact} (hc : c ∈ x.classes)
    (hd : d ∈ x.classes) (hbody : c.bodyScope = d.bodyScope) : c.symbol = d.symbol := by
  obtain ⟨a, ha, haid, -, haowner, -⟩ := (hx.classes c hc).body
  obtain ⟨b, hb, hbid, -, hbowner, -⟩ := (hx.classes d hd).body
  have hsame : some a = some b := by
    rw [← hx.wellFormed.scope?_id ha, ← hx.wellFormed.scope?_id hb, haid, hbid, hbody]
  obtain rfl := Option.some.inj hsame
  exact Option.some.inj (haowner.symm.trans hbowner)

/-- A class that is not defined again is known by its body as long as no scope is opened. -/
theorem ownedScope_of_not_superseded {c : ClassFact} (hsole : ¬ x.Superseded c)
    (hgrows : Grows { x with resolved := true } y) :
    (y.graph.ownedScope c.symbol).map (·.id) = some c.bodyScope := by
  rw [ownedScope_of_frames (hgrows.frames rfl)]
  exact not_not.1 hsole

theorem declared?_withFields (hx : Registered x)
    (hsole : ∀ c ∈ x.classes, c.bodyScope = scope → ¬ x.Superseded c)
    (h : x.withBases.declared? scope name = some id) :
    x.withFields.declared? scope name = some id :=
  withFields_induction (motive := fun y => y.declared? scope name = some id)
    (fun _ hgrows hc _ _ hdeclared => declareField_declared?
      (fun hbody => hbody ▸ ownedScope_of_not_superseded (hsole _ hc hbody) hgrows) hdeclared)
    hx h

/-- **A name that is declared while modules are added is the same in the end**, unless it belongs to
the body of a class that is defined again. -/
theorem Gathered.declared?_withOverrides (h : Gathered ms x) (hms : ∀ m ∈ ms, Legible m)
    (hdeclared : x.Declared scope name id)
    (hsole : ∀ c ∈ x.classes, c.bodyScope = scope → ¬ x.Superseded c) :
    x.withOverrides.declared? scope name = some id := by
  have hx := h.registered hms
  have hfound : x.declared? scope name = some id := by
    cases hfind : x.declared? scope name with
    | none => exact absurd hdeclared (declared?_eq_none.1 hfind id)
    | some other =>
        rw [h.declared_unique hms other id (mem_index_of_declared? hfind) hdeclared]
  have hbases : x.withBases.declared? scope name = some id := by
    rw [declared?_of_index (congrArg Prod.fst x.withBases_ties)]
    exact declared?_withImports hx hfound
  have hindex : x.withOverrides.index = x.withFields.index :=
    (h.registered_withFields hms).linking.beside.index
  rw [declared?_of_index hindex]
  exact declared?_withFields hx hsole hbases

/-! ## What the last walk records -/

theorem mem_marks_of_addReference {m : SourceModule} {span : Option Span} {at? : Option ScopeId}
    {binds : Bool} {mark : Span × SymbolId}
    (hmark : mark ∈ (x.addReference m id span at? binds).marks) :
    mark ∈ x.marks ∨ m.editable = true ∧ mark.2 = id := by
  unfold addReference at hmark
  split at hmark
  · left
    split at hmark
    · rwa [marks, x.markDynamic_imprint] at hmark
    · exact hmark
  · next heditable =>
      split at hmark
      · left
        have himprint := x.updateSymbol_imprint id (f := fun s => { s with isPhysical := false })
          fun _ => rfl
        rwa [marks, himprint] at hmark
      · rcases (mem_marks_addReference x).1 hmark with hold | ⟨rfl, -⟩
        · exact .inl hold
        · exact .inr ⟨by simpa using heditable, rfl⟩

/-- A name is recorded for what it is looked up as. -/
theorem mem_marks_of_visitName {m : SourceModule} {t : Tree} {context : Context} {inText : Bool}
    {mark : Span × SymbolId}
    (hmark : mark ∈ (x.visitName m scope t name context inText).marks) :
    mark ∈ x.marks ∨ m.editable = true ∧ x.resolveName scope name = some mark.2 := by
  unfold visitName at hmark
  split at hmark
  · split at hmark <;> exact .inl hmark
  · next symbol hsymbol =>
      dsimp only at hmark
      split at hmark
      · exact .inl hmark
      · split at hmark
        · exact .inl hmark
        · have hused : mark ∈ x.marks ∨ m.editable = true ∧ mark.2 = symbol := by
            split at hmark
            · exact mem_marks_of_addReference hmark
            · exact mem_marks_of_addReference (x := x.keepNamed symbol) hmark
          rcases hused with hold | ⟨heditable, heq⟩
          · exact .inl hold
          · exact .inr ⟨heditable, heq ▸ hsymbol⟩

/-- An attribute is recorded for what it denotes. -/
theorem mem_marks_of_visitAttribute {m : SourceModule} {t : Tree} {mark : Span × SymbolId}
    (hmark : mark ∈ (x.visitAttribute m scope t name).marks) :
    mark ∈ x.marks ∨ x.resolveAttribute scope t = .symbol mark.2 := by
  unfold visitAttribute at hmark
  split at hmark
  · next symbol hsymbol =>
      rcases mem_marks_of_addReference (x := x.keepNamed symbol) hmark with hold | ⟨-, heq⟩
      · exact .inl hold
      · exact .inr (heq ▸ hsymbol)
  · exact .inl hmark
  · exact .inl hmark

/-- A place in a region belongs to a symbol for a use of it: names are recorded for what they are
looked up as, and attributes for what they denote. -/
structure UsedAt (x : Extraction) (m : SourceModule) (scope : ScopeId) (t : Tree)
    (mark : Span × SymbolId) : Prop where
  place : mark.1 ∈ m.usePlaces t
  found : ∀ name context, t.label = .name name context →
    m.editable = true ∧ x.resolveName scope name = some mark.2
  denotes : ∀ name context, t.label = .attribute name context →
    x.resolveAttribute scope t = .symbol mark.2

/-- Marks that a node makes are for uses. -/
theorem mem_marks_of_visit {m : SourceModule} {v : Visit} {mark : Span × SymbolId}
    (hmark : mark ∈ (visit m scope x v).marks) :
    mark ∈ x.marks ∨ x.UsedAt m scope v.node mark := by
  by_cases hold : mark ∈ x.marks
  · exact .inl hold
  · refine .inr ⟨((x.visit_traces m scope v).1.place_mem hmark).resolve_left hold,
      fun name context hlabel => ?_, fun name context hlabel => ?_⟩
    · unfold visit at hmark
      simp only [hlabel] at hmark
      exact (mem_marks_of_visitName hmark).resolve_left hold
    · unfold visit at hmark
      simp only [hlabel] at hmark
      exact (mem_marks_of_visitAttribute hmark).resolve_left hold

theorem UsedAt.of_outline {m : SourceModule} {t : Tree} {mark : Span × SymbolId}
    (h : x.UsedAt m scope t mark) (houtline : y.outline = x.outline) : y.UsedAt m scope t mark where
  place := h.place
  found := fun name context hlabel => by
    rw [← resolveName_outline, houtline, resolveName_outline]
    exact h.found name context hlabel
  denotes := fun name context hlabel => by
    rw [← resolveAttribute_outline, houtline, resolveAttribute_outline]
    exact h.denotes name context hlabel

/-- **What is recorded after overrides are linked is used**, as the resolved program has it. -/
theorem Gathered.mem_marks_withUses (h : Gathered ms x) {mark : Span × SymbolId}
    (hmark : mark ∈ x.withUses.marks) :
    mark ∈ x.withOverrides.marks ∨
      ∃ r ∈ x.regions, ∃ t ∈ r.met, x.resolve.UsedAt r.module r.scope t mark := by
  have hregions : x.withOverrides.regions = x.regions :=
    (congrArg Extraction.regions x.withOverrides_notes :)
  let I (y : Extraction) : Prop := y.settled = x.withOverrides.settled ∧
    ∀ mark ∈ y.marks, mark ∈ x.withOverrides.marks ∨
      ∃ r ∈ x.regions, ∃ t ∈ r.met, x.resolve.UsedAt r.module r.scope t mark
  have hall : I x.withUses := by
    refine keep_foldl_mem I (fun y r hr hy => ?_) ⟨rfl, fun _ => .inl⟩
    refine keep_foldl_mem I (fun z v hv hz => ⟨(z.visit_settled ..).trans hz.1, ?_⟩) hy
    intro mark hmark
    rcases mem_marks_of_visit hmark with hold | hused
    · exact hz.2 mark hold
    · refine .inr ⟨r, hregions ▸ hr, v.node, r.read_subset ?_, hused.of_outline ?_⟩
      · rw [Region.read, ← map_node_walkAll r.inText]
        exact List.mem_map_of_mem hv
      · exact (resolve_outline h.resolved_eq).trans (outline_eq_of_settled hz.1).symm
  exact hall.2 mark hmark

/-! ## What the assignment of fields records -/

theorem label_of_assignedField? {receiver : String} {t : Tree} {field : String}
    (h : assignedField? receiver t = some field) :
    ∃ value context, t.label = .attribute field .store ∧ t.get? .value = some value ∧
      value.label = .name receiver context := by
  unfold assignedField? at h
  split at h
  · next heq hvalue =>
      split at h
      · next hname =>
          split at h
          · next hreceiver =>
              obtain rfl := Option.some.inj h
              exact ⟨_, _, heq, hvalue, hreceiver ▸ hname⟩
          · cases h
      · cases h
  · cases h

/-- A new symbol is found under its name. -/
theorem newSymbol_declared? (m : SourceModule) (scope : ScopeId) (name : String)
    (kind : SymbolKind) (span : Option Span) (canonical : Bool) :
    (x.newSymbol m scope name kind span canonical).2.declared? scope name =
      some (x.newSymbol m scope name kind span canonical).1 := by
  simp [newSymbol, declared?, valueOf?]

/-- A mark that a new symbol makes is its own. -/
theorem mem_marks_of_newSymbol (hx : Registered x) {m : SourceModule}
    (hscope : scope ∈ x.graph.scopeIds) (hname : Plain name) {kind : SymbolKind}
    {span : Option Span} {canonical : Bool} {mark : Span × SymbolId}
    (hmark : mark ∈ (x.newSymbol m scope name kind span canonical).2.marks) :
    mark ∈ x.marks ∨ mark.2 = (x.newSymbol m scope name kind span canonical).1 := by
  obtain ⟨id, counter, -, -, -, -, heq⟩ := hx.newSymbol_eq m hscope hname kind span canonical
  rw [heq] at hmark ⊢
  obtain ⟨s, hs, hid, hspan⟩ := mem_marks.1 hmark
  rcases List.mem_append.1 hs with hs | hs
  · exact .inl (mem_marks.2 ⟨s, hs, hid, hspan⟩)
  · obtain rfl := List.mem_singleton.1 hs
    exact .inr hid.symm

/-- A mark that the declaration of a field makes is for the field. -/
theorem mem_marks_of_declareField (hx : Registered x) {c : ClassFact}
    (hbody : c.bodyScope ∈ x.graph.scopeIds) {receiver : String} {t : Tree} (ht : Spelled t)
    {mark : Span × SymbolId} (hmark : mark ∈ (declareField c receiver x t).marks) :
    mark ∈ x.marks ∨ ∃ field, assignedField? receiver t = some field ∧
      mark.1 ∈ c.module.fieldPlaces t ∧
      (declareField c receiver x t).declared? c.bodyScope field = some mark.2 := by
  by_cases hold : mark ∈ x.marks
  · exact .inl hold
  have hplace := ((x.declareField_traces c receiver t).1.place_mem hmark).resolve_left hold
  refine .inr ?_
  cases hfield : assignedField? receiver t with
  | none =>
      simp only [declareField, hfield] at hmark
      exact absurd hmark hold
  | some field =>
      refine ⟨field, rfl, hplace, ?_⟩
      unfold declareField at hmark ⊢
      simp only [hfield] at hmark ⊢
      split at hmark
      · exact absurd hmark hold
      · next hnone =>
          rw [if_neg hnone]
          have himprint : ∀ u : Extraction, ∀ id, (u.updateSymbol id fun s =>
              { s with isConstant := false }).imprint = u.imprint :=
            fun u id => u.updateSymbol_imprint id fun _ => rfl
          rw [marks, himprint] at hmark
          rw [(mem_marks_of_newSymbol hx hbody (plain_of_assignedField? ht hfield)
            hmark).resolve_left hold]
          exact newSymbol_declared? ..

/-- A place belongs to a field that a method assigns there; the field is found in the body of its
class, unless the class is defined again. -/
def AssignedAt (x y : Extraction) (mark : Span × SymbolId) : Prop :=
  ∃ c ∈ x.classes, ∃ t field, x.AssignsAt c t field ∧ mark.1 ∈ c.module.fieldPlaces t ∧
    (¬ x.Superseded c → y.declared? c.bodyScope field = some mark.2)

/-- **What is recorded after imports are linked, and before uses are, is assigned by methods.** -/
theorem Gathered.mem_marks_withOverrides (h : Gathered ms x) (hms : ∀ m ∈ ms, Legible m)
    {mark : Span × SymbolId} (hmark : mark ∈ x.withOverrides.marks) :
    mark ∈ x.withImports.marks ∨ x.AssignedAt x.withOverrides mark := by
  have hx := h.registered hms
  have hfields : ∀ mark ∈ x.withFields.marks,
      mark ∈ x.withBases.marks ∨ x.AssignedAt x.withFields mark := by
    refine withFields_induction (motive := fun y => ∀ mark ∈ y.marks,
      mark ∈ x.withBases.marks ∨ x.AssignedAt y mark)
      (fun {y c receiver t} hy hgrows hc ht hassigns hold mark hmark => ?_) hx fun _ => .inl
    have hbody := hy.bodyScope_mem (hgrows.classes hc)
    rcases mem_marks_of_declareField hy hbody ht hmark with hbefore | ⟨field, hfield, hplace, hnew⟩
    · rcases hold mark hbefore with hbase | ⟨d, hd, u, other, hother, hplace, hfound⟩
      · exact .inl hbase
      refine .inr ⟨d, hd, u, other, hother, hplace, fun hsole => ?_⟩
      refine declareField_declared? (fun heq => ?_) (hfound hsole)
      rw [symbol_eq_of_bodyScope_eq hx hc hd heq]
      exact ownedScope_of_not_superseded hsole hgrows
    · exact .inr ⟨c, hc, t, field, hassigns field hfield, hplace, fun _ => hnew⟩
  have himprint : x.withBases.marks = x.withImports.marks := by
    rw [marks, x.withBases_imprint, ← marks]
  have hindex : x.withOverrides.index = x.withFields.index :=
    (h.registered_withFields hms).linking.beside.index
  have hbefore : mark ∈ x.withFields.marks :=
    (x.withFields.linkOverrides_traces.1.place_mem hmark).resolve_right List.not_mem_nil
  rw [← himprint]
  rcases hfields mark hbefore with hbase | ⟨c, hc, t, field, hassigns, hplace, hfound⟩
  · exact .inl hbase
  · refine .inr ⟨c, hc, t, field, hassigns, hplace, fun hsole => ?_⟩
    rw [declared?_of_index hindex]
    exact hfound hsole

/-! ## Places belong to one symbol -/

/-- What an attribute is of, looked up in a scope, is a class or an object of it. -/
def Receives (x : Extraction) (scope : ScopeId) (c : ClassFact) (t : Tree) : Prop :=
  ∃ value s, t.get? .value = some value ∧ x.resolveExpr scope false value = some (.symbol s) ∧
    x.ownerType? s = some c.symbol

/-- A place may belong to several symbols, for one of two reasons. -/
inductive Shareable (x : Extraction) (p : Span) : Prop
  /-- A name is bound there that is looked up as something else: the scope binds it for another one,
  or is the body of a class that is defined again. -/
  | bound {r : Region} (hr : r ∈ x.regions) {t : Tree} (ht : t ∈ r.met) {name : String}
      {context : Context} (hlabel : t.label = .name name context) (hload : context ≠ .load)
      (hplace : r.module.nodeSpan? t = some p) {target : ScopeId} {id : SymbolId}
      (hdeclared : x.Declared target name id) (hmark : (p, id) ∈ x.marks)
      (hother : x.resolve.resolveName r.scope name ≠ some id)
      (hreason : r.BindsElsewhere x.comprehensions name context ∨
        ∃ c ∈ x.classes, c.bodyScope = r.scope ∧ x.Superseded c)
  /-- A method assigns a field there, and its class is defined again, or the name of the object means
  something else at this place. -/
  | assigned {c : ClassFact} (hc : c ∈ x.classes) {t : Tree} {field : String}
      (hassigns : x.AssignsAt c t field) (hplace : p ∈ c.module.fieldPlaces t)
      (hreason : x.Superseded c ∨
        ∀ r ∈ x.regions, r.module = c.module → t ∈ r.met → ¬ x.resolve.Receives r.scope c t)

/-- In marks at different places a place has one symbol. -/
theorem eq_of_places_nodup {made : List (Span × SymbolId)} (h : (made.map Prod.fst).Nodup)
    {p : Span} {i j : SymbolId} (hi : (p, i) ∈ made) (hj : (p, j) ∈ made) : i = j :=
  (Prod.mk.inj (List.inj_on_of_nodup_map h hi hj rfl)).2

/-- A place is declared by a node that a region meets. -/
theorem Gathered.exists_declaring (h : Gathered ms x) {mark : Span × SymbolId}
    (hmark : mark ∈ x.withImports.marks) :
    ∃ r ∈ x.regions, ∃ t ∈ r.met, mark.1 ∈ r.module.declaringPlaces t := by
  obtain ⟨left, ⟨made, hmade, hplaces⟩, -⟩ := h.booked_withImports
  have hplace := hplaces.subset (List.mem_append_left _ (List.mem_map_of_mem (hmade hmark)))
  obtain ⟨r, hr, hplace⟩ := List.mem_flatMap.1 hplace
  obtain ⟨t, ht, hplace⟩ := List.mem_flatMap.1 hplace
  exact ⟨r, hr, t, ht, hplace⟩

/-- A field of a class that is not defined again is found among its members. -/
theorem Gathered.classMember?_resolve (h : Gathered ms x) (hms : ∀ m ∈ ms, Legible m)
    {c : ClassFact} (hsole : ¬ x.Superseded c) {field : String} {id : SymbolId}
    (hfound : x.withOverrides.declared? c.bodyScope field = some id) :
    x.resolve.classMember? c.symbol field = some id := by
  have hx := h.registered hms
  have hfields : x.withFields.declared? c.bodyScope field = some id := by
    rw [← declared?_of_index (h.registered_withFields hms).linking.beside.index]
    exact hfound
  obtain ⟨b, hb, hbody⟩ := Option.map_eq_some_iff.1
    (ownedScope_of_not_superseded hsole (hx.begun.grows (withFields_steps hx)))
  rw [(h.beside_resolve hms).members, classMember?, List.findSome?_cons, hb, Option.bind_some,
    hbody, hfields]

/-- An attribute of an object is looked up among the members of its class. -/
theorem resolveAttribute_of_receives {c : ClassFact} {t : Tree} {receiver field : String}
    (hfield : assignedField? receiver t = some field) (hreceives : x.Receives scope c t)
    (hfound : x.classMember? c.symbol field = some id) :
    x.resolveAttribute scope t = .symbol id := by
  obtain ⟨value, context, hlabel, hvalue, hname⟩ := label_of_assignedField? hfield
  obtain ⟨value', s, hvalue', hresolved, howner⟩ := hreceives
  obtain rfl := Option.some.inj (hvalue.symm.trans hvalue')
  have hsuper : x.isSuperCall scope value = false := by simp [isSuperCall, hname]
  simp only [resolveAttribute, hlabel, hvalue, hsuper, hname, hresolved, memberTarget, howner,
    Option.bind_some, hfound, Bool.false_eq_true, if_false]

section

variable (h : Gathered ms x) (hms : ∀ m ∈ ms, IsModule m.tree) (hlegible : ∀ m ∈ ms, Legible m)
  (hapart : Apart ms)

include h hms hapart in
/-- Before fields are declared, a place belongs to one symbol. -/
theorem Gathered.declared_once {p : Span} {i j : SymbolId} (hi : (p, i) ∈ x.withImports.marks)
    (hj : (p, j) ∈ x.withImports.marks) : i = j := by
  obtain ⟨left, ⟨made, hmade, hplaces⟩, -⟩ := h.booked_withImports
  have hdeclaring : (declaringPlaces x.regions).Nodup :=
    (h.places_nodup hms hapart).sublist <| List.Sublist.flatMap_right _ fun r _ =>
      List.Sublist.flatMap_right _ fun _ _ => SourceModule.declaringPlaces_sublist
  exact eq_of_places_nodup (List.nodup_append.1 (nodup_of_subperm hplaces hdeclaring)).1
    (hmade hi) (hmade hj)

include h hms hapart in
/-- After overrides are linked, a place is used for one symbol. -/
theorem Gathered.used_once {p : Span} {i j : SymbolId} (hi : (p, i) ∈ x.withUses.marks)
    (hj : (p, j) ∈ x.withUses.marks) (hi' : (p, i) ∉ x.withOverrides.marks)
    (hj' : (p, j) ∉ x.withOverrides.marks) : i = j := by
  have htraces := Traces.foldl (fun y => y) (fun r : Region => r.read.flatMap r.module.usePlaces)
    (fun y r => y.collectRegion_traces r) x.withOverrides.regions x.withOverrides
  obtain ⟨⟨-, ⟨made, hmade, hplaces⟩, -⟩, -⟩ := htraces
  have hregions : x.withOverrides.regions = x.regions :=
    (congrArg Extraction.regions x.withOverrides_notes :)
  have husing : (x.withOverrides.regions.flatMap fun r =>
      r.read.flatMap r.module.usePlaces).Nodup := by
    rw [hregions]
    exact (h.places_nodup hms hapart).sublist <| List.Sublist.flatMap_right _ fun r _ =>
      (r.read_sublist.flatMap _).trans <| List.Sublist.flatMap_right _ fun _ _ =>
        SourceModule.usePlaces_sublist
  exact eq_of_places_nodup (nodup_of_subperm hplaces husing)
    ((List.mem_append.1 (hmade hi)).resolve_left hi')
    ((List.mem_append.1 (hmade hj)).resolve_left hj')

variable {p : Span} (hshare : ¬ Shareable x p)

include h hms hlegible hapart hshare in
/-- A name is used as the symbol that it was declared as. -/
theorem Gathered.eq_of_declared_of_used {i j : SymbolId} (hi : (p, i) ∈ x.withImports.marks)
    {r : Region} (hr : r ∈ x.regions) {t : Tree} (ht : t ∈ r.met)
    (hused : x.resolve.UsedAt r.module r.scope t (p, j)) : i = j := by
  -- The place is declared by the same node, which is a name.
  obtain ⟨q, hq, u, hu, hdeclared⟩ := h.exists_declaring hi
  obtain ⟨rfl, rfl⟩ := h.site_unique hms hapart hr hq ht hu
    (SourceModule.usePlaces_sublist.subset hused.place)
    (SourceModule.declaringPlaces_sublist.subset hdeclared)
  obtain ⟨name, context, hlabel, hload, hspan⟩ := SourceModule.exists_name_of_mem
    (h.places_nodup_of_mem hms hapart hr ht) hdeclared hused.place
  obtain ⟨heditable, hresolved⟩ := hused.found name context hlabel
  obtain ⟨target, id, hid, hmark, htarget⟩ :=
    h.recorded hlegible r hr heditable t ht name context hlabel hload p hspan
  have hkept : x.marks ⊆ x.withImports.marks := by
    obtain ⟨-, hkept⟩ := withImports_induction (x := x) (motive := fun y _ => x.marks ⊆ y.marks)
      (fun hlink hold => List.Subset.trans hold (linkImport_traces _ hlink).1.1)
      (List.Subset.refl _)
    exact hkept
  rw [h.declared_once hms hapart hi (hkept hmark)]
  refine Option.some.inj (Eq.trans (Eq.symm ?_) hresolved)
  by_contra hother
  refine hshare (.bound hr ht hlabel hload hspan hid hmark hother ?_)
  refine htarget.symm.imp_right fun hown => ?_
  subst hown
  -- The scope binds the name for itself, so it is found there unless a field hides it.
  by_contra hsole
  refine hother ?_
  have hfound := h.declared?_withOverrides hlegible hid fun c hc hbody hagain =>
    hsole ⟨c, hc, hbody, hagain⟩
  rw [← resolveName_outline, resolve_outline h.resolved_eq, resolveName_outline, resolveName,
    lookup, hfound]
  rfl

include h hlegible hshare in
/-- An attribute at which a field is assigned denotes it. -/
theorem Gathered.exists_resolveAttribute {i : SymbolId}
    (hi : x.AssignedAt x.withOverrides (p, i)) :
    ∃ r ∈ x.regions, ∃ t ∈ r.met, p ∈ r.module.usePlaces t ∧
      (∃ name, t.label = .attribute name .store) ∧
      x.resolve.resolveAttribute r.scope t = .symbol i := by
  obtain ⟨c, hc, t, field, hassigns, hplace, hfound⟩ := hi
  have hsole : ¬ x.Superseded c := fun hagain =>
    hshare (.assigned hc hassigns hplace (.inl hagain))
  obtain ⟨r, hr, hmodule, ht, hreceives⟩ : ∃ r ∈ x.regions, r.module = c.module ∧ t ∈ r.met ∧
      x.resolve.Receives r.scope c t := by
    by_contra hnone
    exact hshare (.assigned hc hassigns hplace (.inr fun r hr hmodule ht hreceives =>
      hnone ⟨r, hr, hmodule, ht, hreceives⟩))
  obtain ⟨_, _, _, _, _, _, hfield⟩ := hassigns
  obtain ⟨_, _, hlabel, _⟩ := label_of_assignedField? hfield
  exact ⟨r, hr, t, ht, hmodule ▸ SourceModule.mem_usePlaces_of_mem_fieldPlaces hplace,
    ⟨field, hlabel⟩, resolveAttribute_of_receives hfield hreceives
      (h.classMember?_resolve hlegible hsole (hfound hsole))⟩

include h hms hlegible hapart hshare in
/-- Fields are assigned where no name is declared. -/
theorem Gathered.not_assignedAt_of_declared {i j : SymbolId} (hi : (p, i) ∈ x.withImports.marks) :
    ¬ x.AssignedAt x.withOverrides (p, j) := by
  intro hj
  obtain ⟨r, hr, t, ht, hplace, ⟨field, hattribute⟩, -⟩ :=
    h.exists_resolveAttribute hlegible hshare hj
  obtain ⟨q, hq, u, hu, hdeclared⟩ := h.exists_declaring hi
  obtain ⟨rfl, rfl⟩ := h.site_unique hms hapart hr hq ht hu
    (SourceModule.usePlaces_sublist.subset hplace)
    (SourceModule.declaringPlaces_sublist.subset hdeclared)
  obtain ⟨name, context, hname, -⟩ := SourceModule.exists_name_of_mem
    (h.places_nodup_of_mem hms hapart hr ht) hdeclared hplace
  rw [hname] at hattribute
  cases hattribute

include h hms hlegible hapart hshare in
/-- A field is used as the symbol that it was declared as. -/
theorem Gathered.eq_of_assigned_of_used {i j : SymbolId}
    (hi : x.AssignedAt x.withOverrides (p, i)) {q : Region} (hq : q ∈ x.regions) {u : Tree}
    (hu : u ∈ q.met) (hplace : p ∈ q.module.usePlaces u)
    (hdenotes : ∀ name context, u.label = .attribute name context →
      x.resolve.resolveAttribute q.scope u = .symbol j) : i = j := by
  obtain ⟨r, hr, t, ht, hplace', ⟨field, hlabel⟩, hresolved⟩ :=
    h.exists_resolveAttribute hlegible hshare hi
  obtain ⟨rfl, rfl⟩ := h.site_unique hms hapart hr hq ht hu
    (SourceModule.usePlaces_sublist.subset hplace') (SourceModule.usePlaces_sublist.subset hplace)
  exact AttributeTarget.symbol.inj (hresolved.symm.trans (hdenotes field .store hlabel))

include h hms hlegible hapart hshare in
/-- Before uses are recorded, a place belongs to one symbol. -/
theorem Gathered.bound_once {i j : SymbolId} (hi : (p, i) ∈ x.withOverrides.marks)
    (hj : (p, j) ∈ x.withOverrides.marks) : i = j := by
  rcases h.mem_marks_withOverrides hlegible hi with hi | hi <;>
    rcases h.mem_marks_withOverrides hlegible hj with hj | hj
  · exact h.declared_once hms hapart hi hj
  · exact absurd hj (h.not_assignedAt_of_declared hms hlegible hapart hshare hi)
  · exact absurd hi (h.not_assignedAt_of_declared hms hlegible hapart hshare hj)
  · obtain ⟨r, hr, t, ht, hplace, -, hresolved⟩ := h.exists_resolveAttribute hlegible hshare hj
    exact h.eq_of_assigned_of_used hms hlegible hapart hshare hi hr ht hplace
      fun _ _ _ => hresolved

include h hms hlegible hapart hshare in
/-- What a place is recorded for before uses are recorded is what is used there. -/
theorem Gathered.eq_of_bound_of_used {i j : SymbolId} (hi : (p, i) ∈ x.withOverrides.marks)
    (hj : (p, j) ∈ x.withUses.marks) (hj' : (p, j) ∉ x.withOverrides.marks) : i = j := by
  obtain ⟨r, hr, t, ht, hused⟩ := (h.mem_marks_withUses hj).resolve_left hj'
  rcases h.mem_marks_withOverrides hlegible hi with hi | hi
  · exact h.eq_of_declared_of_used hms hlegible hapart hshare hi hr ht hused
  · exact h.eq_of_assigned_of_used hms hlegible hapart hshare hi hr ht hused.place hused.denotes

end

/-- What is in the spans of a symbol in the end was recorded for it. -/
theorem Gathered.mem_marks_of_mem_spans (h : Gathered ms x) {s : Symbol}
    (hs : s ∈ x.resolve.graph.symbols) {p : Span} (hp : p ∈ s.spans) :
    (p, s.id) ∈ x.withUses.marks := by
  have himprint : x.withMarks.imprint = x.withUses.imprint := markDynamicSymbols_imprint _
  obtain ⟨t, ht, hid, hspans, -⟩ := resolve_marked h.resolved_eq s hs
  rw [marks, ← himprint]
  exact mem_marks.2 ⟨t, ht, hid, hspans ▸ hp⟩

/-- **A place belongs to one symbol**, unless a name that is bound there, or the object of which a
method assigns a field there, is looked up as something else. -/
theorem eq_of_mem_spans {ms : List SourceModule} (h : Gathered ms x)
    (hms : ∀ m ∈ ms, IsModule m.tree ∧ Legible m) (hapart : Apart ms) :
    ∀ a ∈ x.resolve.graph.symbols, ∀ b ∈ x.resolve.graph.symbols, ∀ p ∈ a.spans, p ∈ b.spans →
      a = b ∨ Shareable x p := by
  intro a ha b hb p hpa hpb
  have hmodules : ∀ m ∈ ms, IsModule m.tree := fun m hm => (hms m hm).1
  have hlegible : ∀ m ∈ ms, Legible m := fun m hm => (hms m hm).2
  refine or_iff_not_imp_right.2 fun hshare => ?_
  refine (h.wellFormed_resolve hlegible).symbol_ext ha hb ?_
  have hmark := h.mem_marks_of_mem_spans ha hpa
  have hmark' := h.mem_marks_of_mem_spans hb hpb
  by_cases hi : (p, a.id) ∈ x.withOverrides.marks <;>
    by_cases hj : (p, b.id) ∈ x.withOverrides.marks
  · exact h.bound_once hmodules hlegible hapart hshare hi hj
  · exact h.eq_of_bound_of_used hmodules hlegible hapart hshare hi hmark' hj
  · exact (h.eq_of_bound_of_used hmodules hlegible hapart hshare hj hmark hi).symm
  · exact h.used_once hmodules hapart hmark hmark' hi hj

/-- A function that binds a name of its module. -/
def tallyText : String := "total = 0\ndef add():\n    global total\n    total = 1\n"

/-- The module with that function. -/
def tally : SourceModule where
  name := "tally"
  path := ⟨"", ["tally.py"]⟩
  source := tallyText
  tree := (Module.parse? tallyText).getD default

/-- Where the function binds the name. -/
def tallyPlace : Span := ⟨tally.path, 4, 4, 9⟩

/-- The place belongs to the name of the module only. -/
theorem eq_of_mem_spans_tally :
    ∃ x, Gathered [tally] x ∧ (IsModule tally.tree ∧ Legible tally) ∧ Apart [tally] ∧
      ∃ a ∈ x.resolve.graph.symbols, a.id = "tally::total" ∧ tallyPlace ∈ a.spans ∧
        ∀ b ∈ x.resolve.graph.symbols, tallyPlace ∈ b.spans → a = b := by
  have hmodule : IsModule tally.tree ∧ Legible tally := by decide +kernel
  have hapart : Apart [tally] := by decide +kernel
  obtain ⟨x, h, ⟨a, ha, hid, hplace⟩, hclasses, hfound⟩ : ∃ x, Gathered [tally] x ∧
      (∃ a ∈ x.resolve.graph.symbols, a.id = "tally::total" ∧ tallyPlace ∈ a.spans) ∧
      x.classes.length = 0 ∧
      ∀ r ∈ x.regions, ∀ t ∈ r.met, r.module.nodeSpan? t = some tallyPlace →
        ∀ e ∈ x.index, (tallyPlace, e.2) ∈ x.marks →
          x.resolve.resolveName r.scope e.1.2 = some e.2 :=
    exists_gathered (by decide +kernel)
  refine ⟨x, h, hmodule, hapart, a, ha, hid, hplace, fun b hb hplace' => ?_⟩
  refine (eq_of_mem_spans h (fun m hm => List.mem_singleton.1 hm ▸ hmodule) hapart a ha b hb
    tallyPlace hplace hplace').resolve_right ?_
  rintro (⟨hr, ht, -, -, hspan, hdeclared, hmark, hother, -⟩ | ⟨hc, -⟩)
  · exact hother (hfound _ hr _ ht hspan _ hdeclared hmark)
  · rw [List.eq_nil_of_length_eq_zero hclasses] at hc
    cases hc

/-- A function that binds a name of its module in a function that has a name of its own. -/
def shelfText : String :=
  "def outer():\n    size = 1\n\n    def inner():\n        global size\n        size = 2\n" ++
    "    return inner\n"

/-- The module with that function. -/
def shelf : SourceModule where
  name := "shelf"
  path := ⟨"", ["shelf.py"]⟩
  source := shelfText
  tree := (Module.parse? shelfText).getD default

/-- Where the inner function binds the name. -/
def shelfPlace : Span := ⟨shelf.path, 6, 8, 12⟩

/-- The place belongs to the name of the module, which is bound there, and to the name of the outer
function, which is found there. -/
theorem not_eq_of_mem_spans_shelf :
    (IsModule shelf.tree ∧ Legible shelf) ∧ Apart [shelf] ∧ ∃ x, Gathered [shelf] x ∧
      ∃ a ∈ x.resolve.graph.symbols, ∃ b ∈ x.resolve.graph.symbols,
        shelfPlace ∈ a.spans ∧ shelfPlace ∈ b.spans ∧ a ≠ b := by
  refine ⟨by decide +kernel, by decide +kernel, ?_⟩
  obtain ⟨x, h, a, ha, b, hb, hplace, hplace', hne⟩ : ∃ x, Gathered [shelf] x ∧
      ∃ a ∈ x.resolve.graph.symbols, ∃ b ∈ x.resolve.graph.symbols,
        shelfPlace ∈ a.spans ∧ shelfPlace ∈ b.spans ∧ a.id ≠ b.id :=
    exists_gathered (by decide +kernel)
  exact ⟨x, h, a, ha, b, hb, hplace, hplace', fun heq => hne (congrArg Symbol.id heq)⟩

end Extraction

end Pseudonym
