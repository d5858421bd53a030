import Mathlib
import Pseudonym.Proofs.Extraction.Phases
import Pseudonym.Proofs.Extraction.Regions
import Pseudonym.Proofs.Extraction.Registration
import Pseudonym.Proofs.Graph.Scopes

/-!
# An extraction takes elementary steps

Adding a module (`round_steps`) and linking a program (`withFields_steps`) are sequences of the steps
of `Step`. Each function has its own lemma, which says so for every state whose declarations are in
order.
-/

namespace Pseudonym

open Files Python Python.Tree Relation

/-- The scopes that a declaration can go to are registered. -/
structure Declaring.Known (x : Extraction) (d : Declaring) : Prop where
  scope_in : x.graph.ScopeIn (some d.module.path) d.scope
  module_in : x.graph.ScopeIn (some d.module.path) d.module.name

/-- The symbol of a scope that is to be opened is registered, and its node is a spelled one of the
module. -/
structure NestedScope.Known (x : Extraction) (m : SourceModule) (n : NestedScope) : Prop where
  owner_in : ∀ id ∈ n.owner, x.graph.SymbolIn (some m.path) id
  node_mem : n.node ∈ m.tree.nodes
  spelled : Spelled n.node

theorem NestedScope.Known.of_grows {x y : Extraction} {m : SourceModule} {n : NestedScope}
    (h : n.Known x m) (hgrows : x.Grows y) : n.Known y m :=
  ⟨fun id hid => hgrows.symbolIn (h.owner_in id hid), h.node_mem, h.spelled⟩

/-- The scopes of a region are registered, and its trees are spelled ones of its module. -/
structure Region.Known (x : Extraction) (r : Region) : Prop where
  module_mem : r.module ∈ x.modules
  scope_in : x.graph.ScopeIn (some r.module.path) r.scope
  module_in : x.graph.ScopeIn (some r.module.path) r.module.name
  roots_mem : ∀ t ∈ r.roots, t ∈ r.module.tree.nodes
  spelled : ∀ t ∈ r.roots, Spelled t

theorem Region.Known.of_grows {x y : Extraction} {r : Region} (h : r.Known x)
    (hgrows : x.Grows y) : r.Known y :=
  ⟨hgrows.modules ▸ h.module_mem, hgrows.scopeIn h.scope_in, hgrows.scopeIn h.module_in,
    h.roots_mem, h.spelled⟩

namespace Extraction

variable {x : Extraction}

/-! ## Sequences -/

/-- What a note must not touch. -/
def ground (x : Extraction) : Graph × List ((ScopeId × String) × SymbolId) × Nat ×
    List SourceModule × Bool × List ClassFact × List FunctionFact × List PendingImport :=
  (x.graph, x.index, x.counter, x.modules, x.resolved, x.classes, x.functions, x.pendingImports)

theorem Step.of_ground {y : Extraction} (h : y.ground = x.ground) : Step x y := by
  simp only [ground, Prod.mk.injEq] at h
  obtain ⟨hgraph, hindex, hcounter, hmodules, hresolved, hclasses, hfunctions, himports⟩ := h
  exact .note hgraph hindex (Nat.le_of_eq hcounter.symm) hmodules hresolved
    (hclasses ▸ List.Subset.refl _) (fun _ hc => .inl (hclasses ▸ hc)) (fun _ hf => .inl (hfunctions ▸ hf))
    (fun _ hi => .inl (himports ▸ hi))

/-- A fold makes steps if each of its rounds does; later rounds start from what earlier ones
declared. -/
theorem steps_foldl {α σ : Type} (π : σ → Extraction) {f : σ → α → σ} : ∀ {as : List α} {s : σ},
    Registered (π s) →
    (∀ t, Registered (π t) → Grows (π s) (π t) → ∀ a ∈ as, Steps (π t) (π (f t a))) →
    Steps (π s) (π (as.foldl f s))
  | [], _, _, _ => .refl
  | a :: as, s, hs, h => by
      have hfirst := h s hs (.refl _) a List.mem_cons_self
      refine hfirst.trans (steps_foldl π (hs.steps hfirst) fun t ht hgrows b hb => ?_)
      exact h t ht ((hs.grows hfirst).trans hgrows) b (List.mem_cons_of_mem _ hb)

theorem steps_foldl_self {α : Type} {f : Extraction → α → Extraction} {as : List α}
    (hx : Registered x)
    (h : ∀ y, Registered y → Grows x y → ∀ a ∈ as, Steps y (f y a)) : Steps x (as.foldl f x) :=
  steps_foldl (fun y => y) hx h

/-! ## Names that a scope binds -/

theorem markDynamic_step (x : Extraction) (id : SymbolId) : Step x (x.markDynamic id) :=
  .adjust id fun _ => rfl

theorem addReference_steps (x : Extraction) (m : SourceModule) (id : SymbolId)
    (span : Option Span) (scope : Option ScopeId) (binds : Bool) :
    Steps x (x.addReference m id span scope binds) := by
  unfold addReference
  split
  · split
    · exact .single (x.markDynamic_step id)
    · exact .refl
  · split
    · exact .single (.adjust id fun _ => rfl)
    · exact .single (.adjust id fun s => outline_addReference s _)

/-- A scope is of one file. -/
theorem Registered.file_eq (hx : Registered x) {file file' : Option Path} {id : ScopeId}
    (h : x.graph.ScopeIn file id) (h' : x.graph.ScopeIn file' id) : file = file' := by
  obtain ⟨c, hc, hid, rfl⟩ := h
  obtain ⟨d, hd, rfl, rfl⟩ := h'
  rw [List.inj_on_of_nodup_map hx.wellFormed.scopeIds_nodup hc hd hid]

/-- The scopes around a scope are of its file. -/
theorem Registered.ancestor_in (hx : Registered x) {file : Option Path} {id : ScopeId}
    (h : x.graph.ScopeIn file id) {c : Scope} (hc : c ∈ x.graph.ancestors id) :
    x.graph.ScopeIn file c.id := by
  have hparent : ∀ {i p : ScopeId}, p ∈ x.graph.parentIds i → x.graph.ScopeIn file i →
      x.graph.ScopeIn file p := by
    intro i p hp hi
    obtain ⟨d, hd, hdp⟩ := Graph.mem_parentIds.1 hp
    obtain ⟨hmem, rfl⟩ := hx.wellFormed.scope?_eq_some.1 hd
    rw [hx.file_eq hi ⟨d, hmem, rfl, rfl⟩]
    exact hx.parents d hmem p hdp
  obtain ⟨i, hi, hfound⟩ := List.mem_filterMap.1 hc
  rw [(hx.wellFormed.scope?_eq_some.1 hfound).2]
  obtain ⟨p, hp, -, hpath⟩ := mem_reach.1 hi
  clear hi hfound
  induction hpath with
  | refl => exact hparent hp h
  | tail _ hstep ih => exact hparent hstep.1 ih

theorem mem_index_of_declared? {scope : ScopeId} {name : String}
    {id : SymbolId} (h : x.declared? scope name = some id) : ((scope, name), id) ∈ x.index := by
  obtain ⟨e, he, rfl⟩ := Option.map_eq_some_iff.1 h
  have hkey : e.1 = (scope, name) := by simpa using List.find?_some he
  rw [← hkey]
  exact List.mem_of_find?_eq_some he

theorem Registered.symbol_of_declared? (hx : Registered x) {scope : ScopeId} {name : String}
    {id : SymbolId} (h : x.declared? scope name = some id) :
    ∃ s ∈ x.graph.symbols, s.id = id ∧ s.scope = some scope ∧ s.declaredName = name :=
  hx.indexed _ (mem_index_of_declared? h)

/-- What is declared in a scope is of its file. -/
theorem Registered.symbolIn_of_declared? (hx : Registered x) {file : Option Path} {scope : ScopeId}
    (hscope : x.graph.ScopeIn file scope) {name : String} {id : SymbolId}
    (h : x.declared? scope name = some id) : x.graph.SymbolIn file id := by
  obtain ⟨s, hs, hid, hhome, -⟩ := hx.symbol_of_declared? h
  obtain ⟨home, hin, heq, -⟩ := hx.listed s hs
  obtain rfl : home = scope := Option.some.inj (heq.symm.trans hhome)
  exact ⟨s, hs, hid, hx.file_eq hin hscope⟩

theorem bind_steps (m : SourceModule) {scope : ScopeId}
    (hscope : x.graph.ScopeIn (some m.path) scope) {name : String} (hname : Plain name) (kind : SymbolKind) (span : Option Span)
    (occurrence : ScopeId) :
    Steps x (x.bind m scope name kind span occurrence).2 := by
  unfold bind
  split
  · next id _ =>
      have hnote : Step x { x with bindings := id :: x.bindings } := .of_ground rfl
      dsimp only
      split
      · exact .single hnote
      · exact .head hnote (addReference_steps ..)
  · next hfree =>
      have hdeclare := Step.declare m hscope hname hfree kind span true
      exact .tail (.single hdeclare) (.of_ground rfl)

/-- What is bound is a symbol of the module. -/
theorem bind_in (hx : Registered x) (m : SourceModule) {scope : ScopeId}
    (hscope : x.graph.ScopeIn (some m.path) scope) {name : String} (hname : Plain name)
    (kind : SymbolKind) (span : Option Span) (occurrence : ScopeId) :
    (x.bind m scope name kind span occurrence).2.graph.SymbolIn (some m.path)
      (x.bind m scope name kind span occurrence).1 := by
  have hgrows := hx.grows (bind_steps m hscope hname kind span occurrence)
  unfold bind at hgrows ⊢
  split
  · next id hdeclared =>
      rw [hdeclared] at hgrows
      exact hgrows.symbolIn (hx.symbolIn_of_declared? hscope hdeclared)
  · obtain ⟨id, counter, -, -, -, -, heq⟩ := hx.newSymbol_eq m hscope.mem hname kind span true
    rw [heq]
    exact ⟨_, List.mem_append_right _ (List.mem_singleton_self _), rfl, rfl⟩

theorem bindingScope_in (hx : Registered x) {d : Declaring} (hd : d.Known x) (name : String) :
    x.graph.ScopeIn (some d.module.path) (x.bindingScope d name) := by
  unfold bindingScope
  split
  · exact hd.module_in
  · split
    · cases hfind : x.nonlocalScope? d.scope name with
      | none => exact hd.scope_in
      | some scope =>
          obtain ⟨c, hc, rfl⟩ := Option.map_eq_some_iff.1 hfind
          exact hx.ancestor_in hd.scope_in (List.mem_of_find?_eq_some hc)
    · exact hd.scope_in

theorem walrusScope_in (hx : Registered x) {file : Option Path} {scope : ScopeId}
    (h : x.graph.ScopeIn file scope) : x.graph.ScopeIn file (x.walrusScope scope) := by
  unfold walrusScope
  dsimp only
  cases hfind : (scope :: (x.graph.ancestors scope).map (·.id)).find?
      fun s => !x.comprehensions.contains s with
  | none => exact h
  | some found =>
      rcases List.mem_cons.1 (List.mem_of_find?_eq_some hfind) with rfl | hmem
      · exact h
      · obtain ⟨c, hc, rfl⟩ := List.mem_map.1 hmem
        exact hx.ancestor_in h hc

theorem bindHere_steps (hx : Registered x) {d : Declaring} (hd : d.Known x) {name : String}
    (hname : Plain name) (kind : SymbolKind) (span : Option Span) :
    Steps x (x.bindHere d name kind span).2 :=
  bind_steps d.module (bindingScope_in hx hd name) hname kind span d.scope

theorem bindWalrus_steps (hx : Registered x) {d : Declaring} (hd : d.Known x) {name : String}
    (hname : Plain name) (span : Option Span) : Steps x (x.bindWalrus d name span) := by
  unfold bindWalrus
  dsimp only
  split
  · exact bindHere_steps hx hd hname .variable span
  · exact bind_steps d.module (walrusScope_in hx hd.scope_in) hname .variable span d.scope

/-- Declaring what a node binds makes steps; a node that opens a scope is listed with its symbol. -/
theorem declareVisit_steps (hx : Registered x) {d : Declaring} (hd : d.Known x)
    {nested : List NestedScope} (hnested : ∀ n ∈ nested, n.Known x d.module) {v : Visit}
    (hmem : v.node ∈ d.module.tree.nodes) (hv : Spelled v.node) :
    Steps x (declareVisit d (x, nested) v).1 ∧
      ∀ n ∈ (declareVisit d (x, nested) v).2,
        n.Known (declareVisit d (x, nested) v).1 d.module := by
  -- Nodes that are listed: what was listed before, and the node.
  have hlist : ∀ {y : Extraction} (owner : Option SymbolId), Steps x y →
      (∀ id ∈ owner, y.graph.SymbolIn (some d.module.path) id) →
      ∀ n ∈ nested ++ [⟨v.node, v.inText, owner⟩], n.Known y d.module := by
    intro y owner hsteps howner n hn
    rcases List.mem_append.1 hn with hn | hn
    · exact (hnested n hn).of_grows (hx.grows hsteps)
    · obtain rfl := List.mem_singleton.1 hn
      exact ⟨howner, hmem, hv⟩
  have hkeep : ∀ {y : Extraction}, Steps x y → ∀ n ∈ nested, n.Known y d.module :=
    fun hsteps n hn => (hnested n hn).of_grows (hx.grows hsteps)
  have hdefined : ∀ (name : String) (kind : SymbolKind) (span : Option Span), Plain name →
      Steps x (x.bindHere d name kind span).2 ∧
        ∀ n ∈ nested ++ [⟨v.node, v.inText, some (x.bindHere d name kind span).1⟩],
          n.Known (x.bindHere d name kind span).2 d.module := by
    intro name kind span hname
    have hsteps := bindHere_steps hx hd hname kind span
    refine ⟨hsteps, hlist _ hsteps fun id hid => ?_⟩
    obtain rfl := Option.some.inj hid
    exact bind_in hx d.module (bindingScope_in hx hd name) hname kind span d.scope
  have hbound : ∀ (name : String) (span : Option Span), Plain name →
      Steps x (x.bindHere d name .variable span).2 ∧
        ∀ n ∈ nested, n.Known (x.bindHere d name .variable span).2 d.module := by
    intro name span hname
    have hsteps := bindHere_steps hx hd hname .variable span
    exact ⟨hsteps, hkeep hsteps⟩
  have himports : Steps x { x with
        pendingImports :=
          x.pendingImports ++
            (v.node.all .importedName).map fun a => ⟨d.module, d.scope, v.node, a⟩ } := by
    refine .single (.note rfl rfl (Nat.le_refl _) rfl rfl (List.Subset.refl _) (fun _ => .inl) (fun _ => .inl) ?_)
    intro i hi
    rcases List.mem_append.1 hi with hi | hi
    · exact .inl hi
    · obtain ⟨a, ha, rfl⟩ := List.mem_map.1 hi
      exact .inr ⟨hd.scope_in, hv.of_mem_nodes (mem_nodes_of_mem_all ha)⟩
  have hcall : ∀ item, Steps x { x with callAssignments := x.callAssignments ++ [item] } :=
    fun _ => .single (.of_ground rfl)
  unfold declareVisit
  dsimp only
  split
  case h_1 heq | h_2 heq =>
    exact hdefined _ _ _ (hv.label (by rw [heq]; exact List.mem_singleton_self _))
  case h_3 | h_4 => exact ⟨.refl, hlist none .refl (by simp)⟩
  case h_5 heq | h_6 heq =>
    exact hbound _ _ (hv.label (by rw [heq]; exact List.mem_singleton_self _))
  case h_7 heq =>
    have hsteps := bindWalrus_steps hx hd (hv.label (by rw [heq]; exact List.mem_singleton_self _))
      (d.module.nodeSpan? v.node)
    exact ⟨hsteps, hkeep hsteps⟩
  case h_8 | h_9 => exact ⟨himports, hkeep himports⟩
  case h_10 heq | h_11 heq | h_12 heq | h_13 heq =>
    exact hbound _ _ (hv.label (by rw [heq]; exact List.mem_singleton_self _))
  case h_14 =>
    split
    · split
      · exact ⟨hcall _, hkeep (hcall _)⟩
      · exact ⟨.refl, hnested⟩
    · exact ⟨.refl, hnested⟩
  case h_15 => exact ⟨.refl, hnested⟩

theorem foldl_declareVisit_steps {d : Declaring} : ∀ {vs : List Visit} {x : Extraction}
    {nested : List NestedScope}, Registered x → d.Known x →
    (∀ n ∈ nested, n.Known x d.module) →
    (∀ v ∈ vs, v.node ∈ d.module.tree.nodes ∧ Spelled v.node) →
    Steps x (vs.foldl (declareVisit d) (x, nested)).1 ∧
      ∀ n ∈ (vs.foldl (declareVisit d) (x, nested)).2,
        n.Known (vs.foldl (declareVisit d) (x, nested)).1 d.module
  | [], _, _, _, _, hnested, _ => ⟨.refl, hnested⟩
  | v :: vs, x, nested, hx, hd, hnested, hvs => by
      obtain ⟨hmem, hspelled⟩ := hvs v List.mem_cons_self
      obtain ⟨hsteps, hlisted⟩ := declareVisit_steps hx hd hnested hmem hspelled
      have hgrows := hx.grows hsteps
      obtain ⟨hrest, hall⟩ := foldl_declareVisit_steps (hx.steps hsteps)
        ⟨hgrows.scopeIn hd.scope_in, hgrows.scopeIn hd.module_in⟩ hlisted
        fun w hw => hvs w (List.mem_cons_of_mem _ hw)
      exact ⟨hsteps.trans hrest, hall⟩

theorem declareRegion_steps (hx : Registered x) {r : Region} (hr : r.Known x) :
    Steps x (x.declareRegion r).1 ∧
      ∀ n ∈ (x.declareRegion r).2, n.Known (x.declareRegion r).1 r.module := by
  refine foldl_declareVisit_steps hx ⟨hr.scope_in, hr.module_in⟩ (by simp) fun v hv => ?_
  have hmet : v.node ∈ met r.roots := by
    rw [← map_node_walkAll r.inText]
    exact List.mem_map_of_mem hv
  obtain ⟨root, hroot, hnode⟩ := mem_met.1 hmet
  exact ⟨nodes_subset (hr.roots_mem root hroot) (mem_nodes_of_mem_met_singleton hnode),
    spelled_of_mem_met hr.spelled hmet⟩

/-! ## Opening scopes -/

/-- The id for a scope is new. -/
theorem uniqueScope_fresh (hx : Registered x) {id : ScopeId} (hid : ∀ n, Numbered n id)
    (hinside : Inside id) :
    Step x (x.uniqueScope id).2 ∧ (x.uniqueScope id).1 ∉ x.graph.scopeIds ∧
      Numbered (x.uniqueScope id).2.counter (x.uniqueScope id).1 ∧ Inside (x.uniqueScope id).1 := by
  unfold uniqueScope
  split
  · next hnone =>
      refine ⟨.of_ground rfl, fun hmem => ?_, hid _, hinside⟩
      obtain ⟨c, hc, -⟩ := hx.wellFormed.exists_scope? hmem
      rw [hc] at hnone
      cases hnone
  · refine ⟨?_, fun hmem => (hx.scopeId _ hmem).1.ne rfl, .next id x.counter,
      inside_numbered hinside x.counter⟩
    exact .note rfl rfl (Nat.le_succ _) rfl rfl (List.Subset.refl _) (fun _ => .inl) (fun _ => .inl) (fun _ => .inl)

theorem scopeIdFor_fresh (hx : Registered x) {parent : ScopeId}
    (hparent : parent ∈ x.graph.scopeIds) {node : Tree} (hnode : Spelled node) :
    Steps x (x.scopeIdFor parent node).2 ∧
      (x.scopeIdFor parent node).1 ∉ (x.scopeIdFor parent node).2.graph.scopeIds ∧
      Numbered (x.scopeIdFor parent node).2.counter (x.scopeIdFor parent node).1 ∧
      Inside (x.scopeIdFor parent node).1 := by
  have hinside := (hx.scopeId _ hparent).2
  have hgraph : ∀ (y : Extraction) (id : ScopeId), (y.uniqueScope id).2.graph = y.graph := by
    intro y id
    unfold uniqueScope
    split <;> rfl
  have hnamed : ∀ {name : String} (c : Prop) [Decidable c], Plain name →
      (∀ n, Numbered n (if c then s!"{parent}:{name}" else s!"{parent}.{name}")) ∧
        Inside (if c then s!"{parent}:{name}" else s!"{parent}.{name}") := by
    intro name c _ hname
    split
    · exact ⟨fun _ => (numbered_nested parent hname).1, (inside_nested hinside name).1⟩
    · exact ⟨fun _ => (numbered_nested parent hname).2, (inside_nested hinside name).2⟩
  unfold scopeIdFor
  dsimp only
  split
  · next name heq =>
      have hname := hnamed (((x.graph.scope? parent).map (·.kind)).getD .module = .module)
        (hnode.label (by rw [heq]; exact List.mem_singleton_self _))
      obtain ⟨hstep, hfresh, hrest⟩ := uniqueScope_fresh hx hname.1 hname.2
      rw [hgraph]
      exact ⟨.single hstep, hfresh, hrest⟩
  · next name _ heq =>
      have hname := hnamed (((x.graph.scope? parent).map (·.kind)).getD .module = .module)
        (hnode.label (by rw [heq]; exact List.mem_singleton_self _))
      obtain ⟨hstep, hfresh, hrest⟩ := uniqueScope_fresh hx hname.1 hname.2
      rw [hgraph]
      exact ⟨.single hstep, hfresh, hrest⟩
  · have hnote : Step x { x with counter := x.counter + 1 } :=
      .note rfl rfl (Nat.le_succ _) rfl rfl (List.Subset.refl _) (fun _ => .inl) (fun _ => .inl) (fun _ => .inl)
    obtain ⟨hstep, hfresh, hrest⟩ := uniqueScope_fresh (hx.step hnote)
      (fun _ => numbered_anonymous parent node.label x.counter)
      (inside_anonymous hinside node.label x.counter)
    rw [hgraph]
    exact ⟨.head hnote (.single hstep), hfresh, hrest⟩

theorem declareParameter_steps {s : Signature}
    (hscope : x.graph.ScopeIn (some s.module.path) s.scope)
    (receiver : Option SymbolId) {item : Tree × Nat} (hitem : Spelled item.1) :
    Steps x (declareParameter s (x, receiver) item).1 := by
  unfold declareParameter
  dsimp only
  split
  · next name _ _ heq =>
      have hbind := bind_steps s.module hscope
        (hitem.label (by rw [heq]; exact List.mem_singleton_self _)) .variable
        (s.module.headSpan? item.1 name) s.scope
      generalize x.bind s.module s.scope name .variable (s.module.headSpan? item.1 name) s.scope =
        bound at hbind ⊢
      obtain ⟨id, y⟩ := bound
      have hnoted : Steps x { y with parameters := y.parameters ++ [(name, id)] } :=
        hbind.tail (.of_ground rfl)
      split
      · have hadjusted : Steps x (y.updateSymbol id fun p => { p with isSynthesized := true }) :=
          hbind.tail (.adjust id fun _ => rfl)
        exact hadjusted.tail (.of_ground rfl)
      · split
        · exact hnoted.tail (.adjust _ fun _ => rfl)
        · exact hnoted
  · exact .refl

/-- The receiver that is found is a symbol. -/
theorem declareParameter_receiver (hx : Registered x) {s : Signature}
    (hscope : x.graph.ScopeIn (some s.module.path) s.scope) {receiver : Option SymbolId}
    (hreceiver : ∀ id ∈ receiver, id ∈ x.graph.symbolIds) {item : Tree × Nat}
    (hitem : Spelled item.1) :
    ∀ id ∈ (declareParameter s (x, receiver) item).2,
      id ∈ (declareParameter s (x, receiver) item).1.graph.symbolIds := by
  have hgrows := hx.grows (declareParameter_steps hscope receiver hitem)
  have hcases : (declareParameter s (x, receiver) item).2 = receiver ∨
      ∃ id, (declareParameter s (x, receiver) item).2 = some id ∧
        id ∈ (declareParameter s (x, receiver) item).1.graph.symbolIds := by
    unfold declareParameter
    dsimp only
    split
    · next name _ _ heq =>
        have hbound := (bind_in hx s.module hscope
          (hitem.label (by rw [heq]; exact List.mem_singleton_self _)) .variable
          (s.module.headSpan? item.1 name) s.scope).mem
        split
        · refine .inr ⟨_, rfl, ?_⟩
          exact (Graph.updateSymbol_symbolIds (f := fun p => { p with isSynthesized := true })
            fun _ => rfl).symm ▸ hbound
        · split <;> exact .inl rfl
    · exact .inl rfl
  rcases hcases with hsame | ⟨id, hid, hmem⟩
  · rw [hsame]
    exact fun id hid => hgrows.symbolIds_subset (hreceiver id hid)
  · rw [hid]
    exact fun i hi => Option.some.inj hi ▸ hmem

/-- The class whose body a scope is belongs to the file of the scope. -/
theorem Registered.class_in (hx : Registered x) {file : Option Path} {scope : ScopeId}
    (hscope : x.graph.ScopeIn file scope) :
    ∀ id ∈ (x.graph.scope? scope).bind fun s => if s.kind = .type then s.owner else none,
      x.graph.SymbolIn file id := by
  intro id hid
  obtain ⟨c, hc, howner⟩ := Option.bind_eq_some_iff.1 hid
  obtain ⟨hmem, rfl⟩ := hx.wellFormed.scope?_eq_some.1 hc
  rw [hx.file_eq hscope ⟨c, hmem, rfl, rfl⟩]
  split at howner
  · exact hx.owners c hmem id howner
  · cases howner

theorem declareParameters_steps (hx : Registered x) {m : SourceModule} (hm : m ∈ x.modules)
    {parent : ScopeId} (hparent : x.graph.ScopeIn (some m.path) parent) {scope : ScopeId}
    (hscope : x.graph.ScopeIn (some m.path) scope) {node : Tree} (hmem : node ∈ m.tree.nodes)
    (hnode : Spelled node) (owner : Option SymbolId) :
    Steps x (x.declareParameters m parent scope node owner) := by
  have hspelled : ∀ item ∈ (node.all .parameter).zipIdx, Spelled item.1 := fun item hitem =>
    hnode.of_mem_nodes (mem_nodes_of_mem_all (List.fst_mem_of_mem_zipIdx hitem))
  -- The parameters are declared one by one.
  have hparameters : ∀ receiverType function,
      Steps x ((node.all .parameter).zipIdx.foldl
        (declareParameter ⟨m, scope, receiverType, function⟩) (x, none)).1 := by
    intro receiverType function
    refine steps_foldl (Prod.fst (β := Option SymbolId)) (s := (x, none)) hx ?_
    rintro ⟨y, receiver⟩ - hgrows item hitem
    exact declareParameter_steps (hgrows.scopeIn hscope) receiver (hspelled item hitem)
  have hreceiver : ∀ receiverType function,
      ∀ id ∈ ((node.all .parameter).zipIdx.foldl
          (declareParameter ⟨m, scope, receiverType, function⟩) (x, none)).2,
        id ∈ ((node.all .parameter).zipIdx.foldl
          (declareParameter ⟨m, scope, receiverType, function⟩) (x, none)).1.graph.symbolIds := by
    intro receiverType function
    refine (keep_foldl_mem (fun state : Extraction × Option SymbolId =>
      (Registered state.1 ∧ state.1.graph.ScopeIn (some m.path) scope) ∧
        ∀ id ∈ state.2, id ∈ state.1.graph.symbolIds) ?_ ⟨⟨hx, hscope⟩, by simp⟩).2
    rintro ⟨y, receiver⟩ item hitem ⟨⟨hy, hin⟩, hknown⟩
    have hsteps := declareParameter_steps (s := ⟨m, scope, receiverType, function⟩) hin receiver
      (hspelled item hitem)
    exact ⟨⟨hy.steps hsteps, (hy.grows hsteps).scopeIn hin⟩,
      declareParameter_receiver hy hin hknown (hspelled item hitem)⟩
  -- The function is noted last.
  have hnoted : ∀ {y : Extraction} (id : SymbolId) {receiver : Option SymbolId},
      (∀ id ∈ receiver, id ∈ y.graph.symbolIds) → Steps x y →
      Steps x { y with functions := y.functions ++ [⟨id, node, m, parent, scope,
        (x.graph.scope? parent).bind fun s => if s.kind = .type then s.owner else none,
        receiver⟩] } := by
    intro y id receiver hreceiver hy
    have hgrows := hx.grows hy
    refine hy.tail (.note rfl rfl (Nat.le_refl _) rfl rfl (List.Subset.refl _) (fun _ => .inl) ?_
      (fun _ => .inl))
    intro g hg
    rcases List.mem_append.1 hg with hg | hg
    · exact .inl hg
    · obtain rfl := List.mem_singleton.1 hg
      exact .inr ⟨hgrows.modules ▸ hm, hmem, hnode,
        fun o ho => hgrows.symbolIn (hx.class_in hparent o ho), hreceiver⟩
  have htyped : ∀ {y : Extraction} (id : SymbolId) (types : List String), Steps x y →
      Steps x (y.updateSymbol id fun s => { s with parameterTypes := types }) :=
    fun id _ hy => hy.tail (.adjust id fun _ => rfl)
  have hkept : ∀ {y : Extraction} (id : SymbolId) (types : List String) {i : SymbolId},
      i ∈ y.graph.symbolIds →
      i ∈ (y.updateSymbol id fun s => { s with parameterTypes := types }).graph.symbolIds := by
    intro y id types i hi
    exact (Graph.updateSymbol_symbolIds (f := fun s => { s with parameterTypes := types })
      fun _ => rfl).symm ▸ hi
  unfold declareParameters
  dsimp only
  split
  · split
    · split
      · exact hnoted _ (fun id hid => hkept _ _ (hreceiver _ _ id hid))
          (htyped _ _ (hparameters _ _))
      · exact hnoted _ (hreceiver _ _) (hparameters _ _)
    · split
      · exact htyped _ _ (hparameters _ _)
      · exact hparameters _ _
  · split
    · exact htyped _ _ (hparameters _ _)
    · exact hparameters _ _

/-- The scope of a node, without anything in it, and its id. -/
def opened (x : Extraction) (m : SourceModule) (parent : ScopeId) (n : NestedScope) :
    ScopeId × Extraction :=
  let kind : ScopeKind := if n.node.isClass then .type else .function
  let (id, x) := x.scopeIdFor parent n.node
  let graph := match x.graph.addScope
      { id, kind, parent := some parent, owner := n.owner, file := some m.path } with
    | .ok g => g
    | .error _ => x.graph
  (id, { x with
    graph
    qualifiers := (id, x.qualifierFor parent kind n.owner) :: x.qualifiers
    comprehensions := if n.node.isComprehension then id :: x.comprehensions else x.comprehensions })

/-- What is noted about a scope that is open. -/
def furnish (x : Extraction) (m : SourceModule) (parent id : ScopeId) (n : NestedScope) :
    Extraction :=
  match n.node.label, n.owner with
  | .classDef _, some owner =>
    { x with classes := x.classes ++ [⟨owner, n.node, m, parent, id⟩] }
  | .functionDef .., owner | .lambda, owner => x.declareParameters m parent id n.node owner
  | _, _ => x

theorem openScope_eq_furnish (x : Extraction) (m : SourceModule) (parent : ScopeId)
    (n : NestedScope) :
    x.openScope m parent n =
      ((x.opened m parent n).2.furnish m parent (x.opened m parent n).1 n,
        ⟨(x.opened m parent n).1, m, n.node.innerParts, n.inText⟩) := rfl

theorem opened_steps (hx : Registered x) (hresolved : x.resolved = false) {m : SourceModule}
    {parent : ScopeId} (hparent : x.graph.ScopeIn (some m.path) parent) {n : NestedScope}
    (hn : n.Known x m) :
    Steps x (x.opened m parent n).2 ∧
      ∃ c ∈ (x.opened m parent n).2.graph.scopes, c.id = (x.opened m parent n).1 ∧
        c.kind = (if n.node.isClass then .type else .function) ∧ c.owner = n.owner ∧
        c.file = some m.path := by
  obtain ⟨hstart, hfresh, hnumbered, hinside⟩ := scopeIdFor_fresh hx hparent.mem hn.spelled
  have hgrows := hx.grows hstart
  have hbegun : (x.scopeIdFor parent n.node).2.resolved = false :=
    hgrows.resolved.trans hresolved
  unfold opened
  generalize x.scopeIdFor parent n.node = made at hstart hfresh hnumbered hinside hgrows hbegun ⊢
  obtain ⟨id, y⟩ := made
  dsimp only at hstart hfresh hnumbered hinside hgrows hbegun ⊢
  have hadd := Graph.addScope_of_not_mem (g := y.graph)
    (c := { id, kind := if n.node.isClass then .type else .function, parent := some parent,
            owner := n.owner, file := some m.path }) hfresh
  rw [hadd]
  have hentered := hstart.tail (.enter hbegun hadd hnumbered hinside
    (fun p hp => Option.some.inj hp ▸ hgrows.scopeIn hparent)
    (fun o ho => hgrows.symbolIn (hn.owner_in o ho)) rfl)
  refine ⟨hentered.tail (.of_ground rfl), _, List.mem_append_right _ (List.mem_singleton_self _), ?_⟩
  exact ⟨rfl, rfl, rfl, rfl⟩

theorem furnish_steps (hx : Registered x) {m : SourceModule} (hm : m ∈ x.modules)
    {parent : ScopeId} (hparent : x.graph.ScopeIn (some m.path) parent) {n : NestedScope}
    (hn : n.Known x m) {c : Scope} (hc : c ∈ x.graph.scopes)
    (hkind : c.kind = if n.node.isClass then .type else .function) (howner : c.owner = n.owner)
    (hfile : c.file = some m.path) : Steps x (x.furnish m parent c.id n) := by
  have hparameters := declareParameters_steps hx hm hparent ⟨c, hc, rfl, hfile⟩ hn.node_mem
    hn.spelled n.owner
  unfold furnish
  split
  · next owner hlabel hsome =>
      have hclass : n.node.isClass = true := by simp [isClass, hlabel]
      have hknown : ClassFact.Known x ⟨owner, n.node, m, parent, c.id⟩ :=
        ⟨hn.owner_in owner hsome, c, hc, rfl, hkind.trans (if_pos hclass), howner.trans hsome, hfile⟩
      refine .single (.note rfl rfl (Nat.le_refl _) rfl rfl (List.subset_append_left _ _) (fun d hd => ?_)
        (fun _ => .inl) (fun _ => .inl))
      rcases List.mem_append.1 hd with hd | hd
      · exact .inl hd
      · exact .inr (List.mem_singleton.1 hd ▸ hknown)
  · exact hparameters
  · exact hparameters
  · exact .refl

/-- Opening a scope makes steps, and its region is known. -/
theorem openScope_steps (hx : Registered x) (hresolved : x.resolved = false) {m : SourceModule}
    (hm : m ∈ x.modules) (hname : x.graph.ScopeIn (some m.path) m.name) {parent : ScopeId}
    (hparent : x.graph.ScopeIn (some m.path) parent) {n : NestedScope} (hn : n.Known x m) :
    Steps x (x.openScope m parent n).1 ∧
      (x.openScope m parent n).2.Known (x.openScope m parent n).1 := by
  obtain ⟨hopened, c, hc, hid, hkind, howner, hfile⟩ := opened_steps hx hresolved hparent hn
  rw [openScope_eq_furnish]
  generalize x.opened m parent n = made at hopened hc hid ⊢
  obtain ⟨id, y⟩ := made
  obtain rfl : c.id = id := hid
  have hy := hx.steps hopened
  have hgrows := hx.grows hopened
  have hfurnish := furnish_steps hy (hgrows.modules ▸ hm) (hgrows.scopeIn hparent)
    (hn.of_grows hgrows) hc hkind howner hfile
  have hall := hopened.trans hfurnish
  have hgrows := hx.grows hall
  exact ⟨hall, hgrows.modules ▸ hm, (hy.grows hfurnish).scopeIn ⟨c, hc, rfl, hfile⟩,
    hgrows.scopeIn hname,
    fun t ht => nodes_subset hn.node_mem (mem_nodes_of_mem_innerParts ht),
    fun t ht => hn.spelled.of_mem_nodes (mem_nodes_of_mem_innerParts ht)⟩

theorem openScopes_steps {m : SourceModule} {parent : ScopeId} : ∀ {ns : List NestedScope}
    {x : Extraction}, Registered x → x.resolved = false → m ∈ x.modules →
    x.graph.ScopeIn (some m.path) m.name → x.graph.ScopeIn (some m.path) parent →
    (∀ n ∈ ns, n.Known x m) →
    Steps x (openScopes m parent ns x).1 ∧
      ∀ r ∈ (openScopes m parent ns x).2, r.Known (openScopes m parent ns x).1
  | [], _, _, _, _, _, _, _ => ⟨.refl, by simp [openScopes]⟩
  | n :: ns, x, hx, hresolved, hm, hname, hparent, hns => by
      obtain ⟨hfirst, hregion⟩ :=
        openScope_steps hx hresolved hm hname hparent (hns n List.mem_cons_self)
      have hgrows := hx.grows hfirst
      obtain ⟨hrest, hregions⟩ := openScopes_steps (hx.steps hfirst)
        (hgrows.resolved.trans hresolved) (hgrows.modules ▸ hm) (hgrows.scopeIn hname)
        (hgrows.scopeIn hparent)
        fun k hk => (hns k (List.mem_cons_of_mem _ hk)).of_grows hgrows
      refine ⟨hfirst.trans hrest, fun r hr => ?_⟩
      rcases List.mem_cons.1 hr with rfl | hr
      · exact hregion.of_grows ((hx.steps hfirst).grows hrest)
      · exact hregions r hr

/-- **A round makes steps, and the regions that it opens are known.** -/
theorem round_steps (hx : Registered x) (hresolved : x.resolved = false) {r : Region}
    (hr : r.Known x) : Steps x (x.round r).1 ∧ ∀ q ∈ (x.round r).2, q.Known (x.round r).1 := by
  have hnoted : Step x { x with regions := x.regions ++ [r] } := .of_ground rfl
  have hgrows := hnoted.grows hx
  obtain ⟨hdeclared, hnested⟩ := declareRegion_steps (hx.step hnoted) (hr.of_grows hgrows)
  have hbefore : Steps x _ := .head hnoted hdeclared
  have hgrows := hx.grows hbefore
  obtain ⟨hopened, hregions⟩ := openScopes_steps
    (hx.steps hbefore) (hgrows.resolved.trans hresolved) (hr.of_grows hgrows).module_mem
    (hgrows.scopeIn hr.module_in) (hgrows.scopeIn hr.scope_in) hnested
  exact ⟨hbefore.trans hopened, hregions⟩

theorem declareRegions_steps : ∀ (rounds : Nat) {queue : List Region} {x : Extraction},
    Registered x → x.resolved = false → (∀ r ∈ queue, r.Known x) →
    Steps x (declareRegions rounds queue x)
  | 0, _, _, _, _, _ => .refl
  | _ + 1, [], _, _, _, _ => .refl
  | rounds + 1, r :: queue, x, hx, hresolved, hqueue => by
      obtain ⟨hround, hopened⟩ := round_steps hx hresolved (hqueue r List.mem_cons_self)
      have hgrows := hx.grows hround
      rw [declareRegions_succ_cons]
      refine hround.trans (declareRegions_steps rounds (hx.steps hround)
        (hgrows.resolved.trans hresolved) fun q hq => ?_)
      rcases List.mem_append.1 hq with hq | hq
      · exact (hqueue q (List.mem_cons_of_mem _ hq)).of_grows hgrows
      · exact hopened q hq

/-! ## Imports -/

/-- What is looked up is a symbol of that name. -/
theorem Registered.symbol_of_lookup (hx : Registered x) {scope : ScopeId} {name : String}
    {id : SymbolId} (h : x.lookup scope name = some id) :
    ∃ s ∈ x.graph.symbols, s.id = id ∧ s.declaredName = name := by
  rcases Option.or_eq_some_iff.1 h with h | ⟨-, h⟩
  · obtain ⟨s, hs, hid, -, hname⟩ := hx.symbol_of_declared? h
    exact ⟨s, hs, hid, hname⟩
  · obtain ⟨s, hs, rfl⟩ := Option.map_eq_some_iff.1 h
    have hmem := (hx.wellFormed.mem_importedSymbols.1 (List.mem_of_find?_eq_some hs)).1
    exact ⟨s, hmem, rfl, by simpa using List.find?_some hs⟩

theorem bindImport_steps (m : SourceModule) {scope : ScopeId}
    (hscope : x.graph.ScopeIn (some m.path) scope) {name : String} (hname : Plain name)
    (span : Option Span) :
    Steps x (x.bindImport m scope name span).2 := by
  unfold bindImport
  split
  · next id _ =>
      have hadjusted : Steps x (x.updateSymbol id fun s => { s with isCanonical := false }) :=
        .single (.adjust id fun _ => rfl)
      have hnoted : Steps x
          { x.updateSymbol id fun s => { s with isCanonical := false } with
            bindings := id :: x.bindings } := hadjusted.tail (.of_ground rfl)
      exact hnoted.trans (addReference_steps ..)
  · next hfree =>
      have hdeclare := Step.declare m hscope hname hfree .variable span false
      exact .tail (.single hdeclare) (.of_ground rfl)

theorem bindSymbol_steps (hx : Registered x) (hresolved : x.resolved = true) {item : PendingImport}
    (hitem : item.Known x) (name : String) {asName : Option String}
    (hbound : ∀ bound ∈ asName, Plain bound) (span : Option Span) {target : SymbolId}
    (htarget : target ∈ x.graph.symbolIds) :
    Steps x (x.bindSymbol item name asName span target) := by
  have hkept : Step x (x.keepNamed target) := .of_ground rfl
  unfold bindSymbol
  dsimp only
  split
  · next bound =>
      have hused := ReflTransGen.head hkept (addReference_steps (x.keepNamed target) item.module
        target (item.module.headSpan? item.importedName name) none false)
      have hscope := (hx.grows hused).scopeIn hitem.scope_in
      exact (hused.trans (bindImport_steps item.module hscope (hbound bound rfl) span)).tail
        (.of_ground rfl)
  · split
    · next existing _ =>
        exact ((ReflTransGen.single hkept).tail (markDynamic_step _ existing)).tail
          (markDynamic_step _ target) |>.trans (addReference_steps ..)
    · have hused := ReflTransGen.head hkept (addReference_steps (x.keepNamed target) item.module
        target (item.module.headSpan? item.importedName name) (some item.scope) true)
      have hgrows := hx.grows hused
      exact hused.tail (.take (hgrows.resolved.trans hresolved) item.scope
        (hgrows.symbolIds_subset htarget))

theorem linkFrom_steps (hx : Registered x) (hresolved : x.resolved = true) {item : PendingImport}
    (hitem : item.Known x) {name : String} (hname : Plain name) {asName : Option String}
    (hbound : ∀ bound ∈ asName, Plain bound) {module : Option String} {final : Bool}
    {y : Extraction} (h : x.linkFrom item name asName module final = some y) : Steps x y := by
  have hplain : Plain (asName.getD name) := by
    cases asName with
    | none => exact hname
    | some bound => exact hbound bound rfl
  have hexternal : ∀ (span : Option Span) (qualname : String),
      Steps x (x.bindExternal item.module item.scope (asName.getD name) span qualname) :=
    fun span _ => (bindImport_steps item.module hitem.scope_in hplain span).tail (.of_ground rfl)
  unfold linkFrom at h
  dsimp only at h
  split at h
  · obtain rfl := Option.some.inj h
    exact hexternal _ _
  · next source =>
      split at h
      · obtain rfl := Option.some.inj h
        exact hexternal _ _
      · split at h
        · next target hlookup =>
            obtain rfl := Option.some.inj h
            split at hlookup
            · obtain ⟨s, hs, rfl, -⟩ := hx.symbol_of_lookup hlookup
              exact bindSymbol_steps hx hresolved hitem name hbound _
                (Graph.mem_symbolIds_of_mem hs)
            · cases hlookup
        · split at h
          · obtain rfl := Option.some.inj h
            exact (bindImport_steps item.module hitem.scope_in hplain _).tail (.of_ground rfl)
          · split at h
            · obtain rfl := Option.some.inj h
              exact (hexternal _ s!"{source}.{name}").tail (.of_ground rfl)
            · cases h

theorem plain_empty : Plain "" := by decide

theorem linkImport_steps (hx : Registered x) (hresolved : x.resolved = true) {item : PendingImport}
    (hitem : item.Known x) {final : Bool} {y : Extraction}
    (h : x.linkImport item final = some y) : Steps x y := by
  have hmodule : ∀ {bound : String} (span : Option Span) (target : String), Plain bound →
      Steps x (x.bindModule item.module item.scope bound span target) := fun span _ hbound =>
    (bindImport_steps item.module hitem.scope_in hbound span).tail (.of_ground rfl)
  unfold linkImport at h
  dsimp only at h
  split at h
  · next name asName _ heq =>
      obtain rfl := Option.some.inj h
      exact hmodule _ _ (hitem.spelled.label (by rw [heq]; simp [Label.names]))
  · next name _ heq =>
      obtain rfl := Option.some.inj h
      refine hmodule _ _ ?_
      cases hparts : name.splitOn "." with
      | nil => exact plain_empty
      | cons part parts => exact hitem.spelled.label (by rw [heq]; simp [Label.names, hparts])
  · next name asName _ heq =>
      split at h
      · split at h
        · obtain rfl := Option.some.inj h
          split
          · exact .single (.of_ground rfl)
          · exact .refl
        · obtain rfl := Option.some.inj h
          exact .refl
      · refine linkFrom_steps hx hresolved hitem (hitem.spelled.label ?_) (fun bound hbound => ?_) h
        · rw [heq]
          simp [Label.names]
        · refine hitem.spelled.label ?_
          rw [heq, Option.mem_def.1 hbound]
          simp [Label.names]
  · obtain rfl := Option.some.inj h
    exact .refl

/-- Links one import of a round, or leaves it for the next. -/
def linkOne (state : Extraction × List PendingImport) (item : PendingImport) :
    Extraction × List PendingImport :=
  match state.1.linkImport item false with
  | some x => (x, state.2)
  | none => (state.1, state.2 ++ [item])

theorem linkRound_eq (x : Extraction) (items : List PendingImport) :
    x.linkRound items = items.foldl linkOne (x, []) := rfl

theorem linkRound_steps (hx : Registered x) (hresolved : x.resolved = true)
    {items : List PendingImport} (hitems : ∀ i ∈ items, i.Known x) :
    Steps x (x.linkRound items).1 := by
  refine steps_foldl (Prod.fst (β := List PendingImport)) (s := (x, [])) hx ?_
  rintro ⟨y, left⟩ hy hgrows item hitem
  dsimp only
  split
  · next h =>
      exact linkImport_steps hy (hgrows.resolved.trans hresolved)
        (hgrows.known_import (hitems item hitem)) h
  · exact .refl

/-- What a round leaves was there. -/
theorem linkRound_left (x : Extraction) (items : List PendingImport) :
    (x.linkRound items).2 ⊆ items := by
  have hfold : ∀ (items left : List PendingImport) (x : Extraction),
      (items.foldl linkOne (x, left)).2 ⊆ left ++ items := by
    intro items
    induction items with
    | nil => intro left x; simp
    | cons item items ih =>
        intro left x
        rw [List.foldl_cons, linkOne]
        split
        · exact List.Subset.trans (ih left _) (List.append_subset.2
            ⟨List.subset_append_left _ _, List.Subset.trans (List.subset_cons_self _ _)
              (List.subset_append_right _ _)⟩)
        · refine List.Subset.trans (ih (left ++ [item]) x) ?_
          rw [List.append_assoc, List.singleton_append]
          exact List.Subset.refl _
  rw [linkRound_eq]
  exact hfold items [] x

theorem linkRounds_steps : ∀ (rounds : Nat) {items : List PendingImport} {x : Extraction},
    Registered x → x.resolved = true → (∀ i ∈ items, i.Known x) →
    Steps x (linkRounds rounds items x)
  | 0, _, _, _, _, _ => .refl
  | rounds + 1, items, x, hx, hresolved, hitems => by
      have hround := linkRound_steps hx hresolved hitems
      have hgrows := hx.grows hround
      have hleft : ∀ i ∈ (x.linkRound items).2, i.Known (x.linkRound items).1 := fun i hi =>
        hgrows.known_import (hitems i (x.linkRound_left items hi))
      have hstate := hgrows.resolved.trans hresolved
      rw [linkRounds]
      dsimp only
      split
      · exact hround.trans (linkRounds_steps rounds (hx.steps hround) hstate hleft)
      · refine hround.trans (steps_foldl_self (hx.steps hround) fun y hy hgrows item hitem => ?_)
        cases hlink : y.linkImport item true with
        | none => exact .refl
        | some z =>
            exact linkImport_steps hy (hgrows.resolved.trans hstate)
              (hgrows.known_import (hleft item hitem)) hlink

/-! ## Classes -/

theorem addMarker_step (x : Extraction) (id : SymbolId) (marker : Option String) :
    Step x (x.addMarker id marker) := .adjust id fun _ => rfl

theorem addDecorators_steps (hx : Registered x) (id : SymbolId) (scope : ScopeId)
    (decorators : List Tree) : Steps x (x.addDecorators id scope decorators) :=
  steps_foldl_self hx fun y _ _ _ _ => .single (y.addMarker_step id _)

theorem linkBase_steps {c : ClassFact} (hc : c.Known x) (base : Tree) :
    Steps x (linkBase c x base) := by
  have houtside : ∀ qualname : Option String, Steps x
      (if qualname = some "builtins.object" then x
      else
        { x.addMarker c.symbol qualname with
          externalBases := (x.addMarker c.symbol qualname).externalBases ++ [(c.symbol, qualname)] }) := by
    intro qualname
    split
    · exact .refl
    · exact (ReflTransGen.single (x.addMarker_step c.symbol qualname)).tail (.of_ground rfl)
  unfold linkBase
  dsimp only
  split
  · next id _ =>
      split
      · next hkind =>
          obtain ⟨s, hs, -⟩ := Option.map_eq_some_iff.1 hkind
          have hid : s.id = id := by simpa using List.find?_some hs
          exact .single (.derive hc.symbol_in.mem
            (Graph.mem_symbolIds.2 ⟨s, List.mem_of_find?_eq_some hs, hid⟩))
      · exact houtside none
  · exact houtside _
  · exact houtside none

theorem linkMetaclass_steps (x : Extraction) (c : ClassFact) (keyword : Tree) :
    Steps x (linkMetaclass c x keyword) := by
  unfold linkMetaclass
  split
  · exact .single (x.addMarker_step c.symbol _)
  · exact .refl

theorem linkClass_steps (hx : Registered x) {c : ClassFact} (hc : c.Known x) :
    Steps x (x.linkClass c) := by
  have hdecorated := addDecorators_steps hx c.symbol c.outerScope (c.node.all .decorator)
  have hbased : Steps x ((c.node.all .base).foldl (linkBase c)
      (x.addDecorators c.symbol c.outerScope (c.node.all .decorator))) :=
    hdecorated.trans (steps_foldl_self (hx.steps hdecorated) fun _ _ hgrows base _ =>
      linkBase_steps (hgrows.known ((hx.grows hdecorated).known hc)) base)
  exact hbased.trans (steps_foldl_self (hx.steps hbased) fun y _ _ keyword _ => y.linkMetaclass_steps c keyword)

theorem markDefaultMethod_steps (x : Extraction) (f : FunctionFact) :
    Steps x (x.markDefaultMethod f) := by
  unfold markDefaultMethod
  split
  · split
    · exact .refl
    · exact .single (.adjust f.symbol fun _ => rfl)
  · exact .refl

theorem linkClasses_steps (hx : Registered x) : Steps x x.linkClasses := by
  have hclasses : Steps x (x.classes.foldl linkClass x) :=
    steps_foldl_self hx fun _ hy hgrows c hc =>
      linkClass_steps hy (hgrows.known (hx.classes c hc))
  have hdecorated : Steps x ((x.classes.foldl linkClass x).functions.foldl
      (fun x f => x.addDecorators f.symbol f.outerScope (f.node.all .decorator))
      (x.classes.foldl linkClass x)) :=
    hclasses.trans (steps_foldl_self (hx.steps hclasses) fun _ hy _ f _ =>
      addDecorators_steps hy f.symbol f.outerScope _)
  refine hdecorated.trans (steps_foldl_self (hx.steps hdecorated) fun y hy _ c _ => ?_)
  split
  · exact steps_foldl_self hy fun z _ _ f _ => z.markDefaultMethod_steps f
  · exact .refl

theorem markTypeParameter_steps (x : Extraction) (item : ScopeId × String × Tree) :
    Steps x (x.markTypeParameter item) := by
  unfold markTypeParameter
  dsimp only
  split
  · split
    · exact .single (.adjust _ fun _ => rfl)
    · exact .refl
  · exact .refl

/-! ## Fields -/

theorem mem_nodes_of_mem_walkOutsideClasses {t u : Tree} (h : u ∈ walkOutsideClasses t) :
    u ∈ t.nodes := by
  rw [walkOutsideClasses] at h
  rcases List.mem_cons.1 h with rfl | h
  · exact mem_nodes_self u
  · split at h
    · simp at h
    · obtain ⟨⟨v, hv⟩, -, hu⟩ := List.mem_flatMap.1 h
      exact nodes_subset (mem_nodes_of_mem_children hv) (mem_nodes_of_mem_walkOutsideClasses hu)
termination_by sizeOf t
decreasing_by exact sizeOf_lt_of_mem_children hv

theorem plain_of_assignedField? {receiver : String} {t : Tree} (ht : Spelled t) {name : String}
    (h : assignedField? receiver t = some name) : Plain name := by
  unfold assignedField? at h
  split at h
  · next heq _ =>
      split at h
      · split at h
        · obtain rfl := Option.some.inj h
          exact ht.label (by rw [heq]; exact List.mem_singleton_self _)
        · cases h
      · cases h
  · cases h

theorem declareField_steps (hresolved : x.resolved = true) {c : ClassFact} (hc : c ∈ x.classes)
    (receiver : String) {t : Tree} (ht : Spelled t) : Steps x (declareField c receiver x t) := by
  unfold declareField
  split
  · next name hfield =>
      split
      · exact .refl
      · next hnone =>
          have hfree : x.classMember? c.symbol name = none := by simpa using hnone
          have hdeclared : Steps x (x.newSymbol c.module c.bodyScope name .variable
              (c.module.tailSpan? t name) true).2 :=
            .single (.field hresolved hc (plain_of_assignedField? ht hfield) hfree _)
          exact hdeclared.tail (.adjust _ fun _ => rfl)
  · exact .refl

theorem declareMethodFields_steps (hx : Registered x) (hresolved : x.resolved = true)
    {c : ClassFact} (hc : c ∈ x.classes) {f : FunctionFact} (hf : Spelled f.node) :
    Steps x (declareMethodFields c x f) := by
  unfold declareMethodFields
  split
  · refine steps_foldl_self hx fun y hy hgrows t ht => ?_
    obtain ⟨u, hu, htu⟩ := List.mem_flatMap.1 ht
    have hmem : t ∈ f.node.nodes :=
      nodes_subset (mem_nodes_of_mem_all hu) (mem_nodes_of_mem_walkOutsideClasses htu)
    exact declareField_steps (hgrows.resolved.trans hresolved) (hgrows.classes hc) _
      (hf.of_mem_nodes hmem)
  · exact .refl

theorem declareFields_steps (hx : Registered x) (hresolved : x.resolved = true) :
    Steps x x.declareFields := by
  refine steps_foldl_self hx fun y hy hgrows c hc => ?_
  have hmem : c ∈ x.classes := (List.mergeSort_perm _ _).subset hc
  have hstate := hgrows.resolved.trans hresolved
  refine steps_foldl_self hy fun z hz hgrows' f hf => ?_
  exact declareMethodFields_steps hz (hgrows'.resolved.trans hstate)
    (hgrows'.classes (hgrows.classes hmem)) (hy.functions f (List.mem_filter.1 hf).1).spelled

/-! ## Linking a program -/

/-- Nothing is linked when linking begins. -/
theorem Registered.begun (hx : Registered x) : Registered { x with resolved := true } :=
  { hx with
    untaken := fun h => by cases h
    classes := fun c hc => ⟨(hx.classes c hc).symbol_in, (hx.classes c hc).body⟩
    functions := fun f hf =>
      { hx.functions f hf with
        module_mem := (hx.functions f hf).module_mem
        owner_in := (hx.functions f hf).owner_in
        receiver_mem := (hx.functions f hf).receiver_mem }
    imports := fun i hi => ⟨(hx.imports i hi).scope_in, (hx.imports i hi).spelled⟩ }

theorem withImports_steps (hx : Registered x) :
    Steps { x with resolved := true } x.withImports :=
  linkRounds_steps _ hx.begun rfl hx.begun.imports

theorem withBases_steps_withImports (hx : Registered x) : Steps x.withImports x.withBases := by
  have himports := hx.begun.steps (withImports_steps hx)
  have hclasses := linkClasses_steps himports
  exact hclasses.trans (steps_foldl_self (himports.steps hclasses) fun y _ _ item _ =>
    y.markTypeParameter_steps item)

theorem withBases_steps (hx : Registered x) : Steps { x with resolved := true } x.withBases :=
  (withImports_steps hx).trans (withBases_steps_withImports hx)

/-- **Linking a program makes steps, until overrides are linked.** -/
theorem withFields_steps (hx : Registered x) : Steps { x with resolved := true } x.withFields := by
  have hbases := withBases_steps hx
  have hregistered := hx.begun.steps hbases
  exact hbases.trans (declareFields_steps hregistered (hx.begun.grows hbases).resolved)

end Extraction

end Pseudonym
