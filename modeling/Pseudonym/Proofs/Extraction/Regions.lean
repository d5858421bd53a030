import Pseudonym.Extraction.Declaration
import Pseudonym.Proofs.Python.Walk

/-!
# The scopes of a module

Adding a module opens its scopes round by round: the names of the first region in the queue are
declared, and regions for the scopes that its walk meets join the queue. Declaring names adds no
regions (`declareRegion_eq`, `openScopes_eq`), so a round trades a region for those of the scopes in
it (`round_opened`). In a grammatical tree it takes one off the count of all regions still to come
(`pending_round`); hence the queue empties (`declares_of_pending_le`), and by the same exchange the
walks through all regions meet every term of the module once (`Declares.met_perm`).
-/

namespace Pseudonym

open Python Python.Tree

/-- The nodes that the walk through a region meets. -/
def Region.met (r : Region) : List Tree := (walkAll r.inText r.roots).map (·.node)

theorem Region.met_eq (r : Region) : r.met = Python.met r.roots := map_node_walkAll ..

namespace Extraction

/-! ## Declaring names opens no regions -/

/-- What neither binding a name nor opening a scope changes. -/
def setting (x : Extraction) : Extraction :=
  { x with
    graph := {}
    counter := 0
    index := []
    qualifiers := []
    comprehensions := []
    classes := []
    functions := []
    receivers := []
    parameters := []
    bindings := []
    callAssignments := [] }

@[simp] theorem updateSymbol_setting (x : Extraction) (id : SymbolId) (f : Symbol → Symbol) :
    (x.updateSymbol id f).setting = x.setting := rfl

@[simp] theorem addReference_setting (x : Extraction) (m : SourceModule) (id : SymbolId)
    (span : Option Span) (scope : Option ScopeId) (binds : Bool) :
    (x.addReference m id span scope binds).setting = x.setting := by
  unfold addReference markDynamic
  split
  · split <;> rfl
  · split <;> rfl

@[simp] theorem bind_setting (x : Extraction) (m : SourceModule) (scope : ScopeId) (name : String)
    (kind : SymbolKind) (span : Option Span) (occurrence : ScopeId) :
    (x.bind m scope name kind span occurrence).2.setting = x.setting := by
  unfold bind
  split
  · dsimp only
    split
    · rfl
    · exact addReference_setting ..
  · rfl

@[simp] theorem bindHere_setting (x : Extraction) (d : Declaring) (name : String)
    (kind : SymbolKind) (span : Option Span) :
    (x.bindHere d name kind span).2.setting = x.setting :=
  bind_setting ..

@[simp] theorem bindWalrus_setting (x : Extraction) (d : Declaring) (name : String)
    (span : Option Span) : (x.bindWalrus d name span).setting = x.setting := by
  unfold bindWalrus
  dsimp only
  split <;> simp

/-- The imports of a statement. -/
def importsAt (m : SourceModule) (scope : ScopeId) (t : Tree) : List PendingImport :=
  match t.label with
  | .importModules | .importFrom .. => (t.all .importedName).map fun a => ⟨m, scope, t, a⟩
  | _ => []

/-- Imports are noted for later, and a node is listed if it opens a scope. -/
theorem declareVisit_eq (d : Declaring) (x : Extraction) (nested : List NestedScope) (v : Visit) :
    (declareVisit d (x, nested) v).1.setting =
        { x.setting with
          pendingImports := x.pendingImports ++ importsAt d.module d.scope v.node } ∧
      (declareVisit d (x, nested) v).2.map (·.node) =
        nested.map (·.node) ++ [v.node].filter opensScope := by
  have hsame : x.setting = { x.setting with pendingImports := x.pendingImports ++ [] } := by
    rw [List.append_nil]
    rfl
  unfold declareVisit
  dsimp only
  split
  case h_8 heq | h_9 heq => simp [opensScope, importsAt, heq, setting]
  case h_14 heq =>
    -- An assignment of a call is noted.
    have hscope : v.node.opensScope = false := by simp [opensScope, heq]
    have hnone : importsAt d.module d.scope v.node = [] := by simp [importsAt, heq]
    rw [hnone]
    split
    · split
      · exact ⟨hsame, by simp [hscope]⟩
      · exact ⟨hsame, by simp [hscope]⟩
    · exact ⟨hsame, by simp [hscope]⟩
  case h_15 hfunction hclass hlambda hcomprehension _ _ _ hmodules hfrom _ _ _ _ _ =>
    -- The node binds nothing, and it is none of the four that open scopes.
    have hscope : v.node.opensScope = false := by
      unfold opensScope
      split
      · next heq => exact (hfunction _ _ heq).elim
      · next heq => exact (hclass _ heq).elim
      · next heq => exact (hlambda heq).elim
      · next heq => exact (hcomprehension _ heq).elim
      · rfl
    have hnone : importsAt d.module d.scope v.node = [] := by
      unfold importsAt
      split
      · next heq => exact (hmodules heq).elim
      · next heq => exact (hfrom _ _ heq).elim
      · rfl
    rw [hnone]
    exact ⟨hsame, by simp [hscope]⟩
  all_goals next heq =>
    have hnone : importsAt d.module d.scope v.node = [] := by simp [importsAt, heq]
    rw [hnone]
    refine ⟨Eq.trans ?_ hsame, by simp [opensScope, heq]⟩
    first | rfl | simp

theorem foldl_declareVisit (d : Declaring) : ∀ (vs : List Visit) (x : Extraction)
    (nested : List NestedScope),
    (vs.foldl (declareVisit d) (x, nested)).1.setting =
        { x.setting with
          pendingImports := x.pendingImports ++
            (vs.map (·.node)).flatMap (importsAt d.module d.scope) } ∧
      (vs.foldl (declareVisit d) (x, nested)).2.map (·.node) =
        nested.map (·.node) ++ (vs.map (·.node)).filter opensScope
  | [], x, nested => by
      rw [List.map_nil, List.flatMap_nil, List.append_nil, List.filter_nil, List.append_nil]
      exact ⟨rfl, rfl⟩
  | v :: vs, x, nested => by
      obtain ⟨hsetting, hnested⟩ := declareVisit_eq d x nested v
      obtain ⟨hrest, hall⟩ := foldl_declareVisit d vs (declareVisit d (x, nested) v).1
        (declareVisit d (x, nested) v).2
      have himports : (declareVisit d (x, nested) v).1.pendingImports = _ :=
        (congrArg Extraction.pendingImports hsetting :)
      rw [List.foldl_cons]
      refine ⟨hrest.trans ?_, hall.trans ?_⟩
      · rw [hsetting, himports, List.map_cons, List.flatMap_cons, List.append_assoc]
      · rw [hnested, List.append_assoc, ← List.filter_append, List.singleton_append, List.map_cons]

/-- The imports noted and the scopes listed for a region are those of the nodes that its walk
meets. -/
theorem declareRegion_eq (x : Extraction) (r : Region) :
    (x.declareRegion r).1.setting =
        { x.setting with
          pendingImports := x.pendingImports ++ r.met.flatMap (importsAt r.module r.scope) } ∧
      (x.declareRegion r).2.map (·.node) = metScopes r.roots := by
  obtain ⟨hsetting, hnested⟩ := foldl_declareVisit ⟨r.module, r.scope, _, _⟩
    (walkAll r.inText r.roots) x []
  refine ⟨hsetting, hnested.trans ?_⟩
  rw [List.map_nil, List.nil_append, map_node_walkAll]
  rfl

@[simp] theorem uniqueScope_setting (x : Extraction) (id : ScopeId) :
    (x.uniqueScope id).2.setting = x.setting := by
  unfold uniqueScope
  split <;> rfl

theorem scopeIdFor_setting (x : Extraction) (parent : ScopeId) (node : Tree) :
    (x.scopeIdFor parent node).2.setting = x.setting := by
  unfold scopeIdFor
  dsimp only
  split <;> exact uniqueScope_setting ..

theorem declareParameter_setting (s : Signature) (state : Extraction × Option SymbolId)
    (item : Tree × Nat) :
    (declareParameter s state item).1.setting = state.1.setting := by
  unfold declareParameter
  dsimp only
  split
  · split
    · exact bind_setting ..
    · split <;> exact bind_setting ..
  · rfl

theorem foldl_declareParameter_setting (s : Signature) : ∀ (items : List (Tree × Nat))
    (state : Extraction × Option SymbolId),
    (items.foldl (declareParameter s) state).1.setting = state.1.setting
  | [], _ => rfl
  | item :: items, state => by
      rw [List.foldl_cons]
      exact (foldl_declareParameter_setting s items _).trans (declareParameter_setting s state item)

@[simp] theorem declareParameters_setting (x : Extraction) (m : SourceModule)
    (parent scope : ScopeId) (node : Tree) (owner : Option SymbolId) :
    (x.declareParameters m parent scope node owner).setting = x.setting := by
  have hfold := fun s => foldl_declareParameter_setting s (node.all .parameter).zipIdx (x, none)
  unfold declareParameters
  dsimp only
  split
  · split
    · split <;> exact hfold _
    · split <;> exact hfold _
  · split <;> exact hfold _

/-- Opening a scope gives a region with the inner parts of its node. -/
theorem openScope_eq (x : Extraction) (m : SourceModule) (parent : ScopeId) (n : NestedScope) :
    (x.openScope m parent n).1.setting = x.setting ∧
      (x.openScope m parent n).2.roots = n.node.innerParts := by
  have hopened := x.scopeIdFor_setting parent n.node
  refine ⟨?_, rfl⟩
  unfold openScope
  dsimp only
  split
  · exact hopened
  · exact (declareParameters_setting ..).trans hopened
  · exact (declareParameters_setting ..).trans hopened
  · exact hopened

theorem openScopes_eq (m : SourceModule) (parent : ScopeId) : ∀ (ns : List NestedScope)
    (x : Extraction),
    (openScopes m parent ns x).1.setting = x.setting ∧
      (openScopes m parent ns x).2.map (·.roots) = ns.map (·.node.innerParts)
  | [], _ => ⟨rfl, rfl⟩
  | n :: ns, x => by
      obtain ⟨hsetting, hroots⟩ := openScope_eq x m parent n
      obtain ⟨hrest, hall⟩ := openScopes_eq m parent ns (x.openScope m parent n).1
      rw [openScopes]
      refine ⟨hrest.trans hsetting, ?_⟩
      rw [List.map_cons, List.map_cons, hall, hroots]

/-! ## Rounds -/

/-- One round: the names of a region are declared, and the scopes in it are opened. -/
def round (x : Extraction) (r : Region) : Extraction × List Region :=
  let (x, nested) := { x with regions := x.regions ++ [r] }.declareRegion r
  openScopes r.module r.scope nested x

theorem declareRegions_succ_cons (rounds : Nat) (r : Region) (queue : List Region)
    (x : Extraction) :
    declareRegions (rounds + 1) (r :: queue) x =
      declareRegions rounds (queue ++ (x.round r).2) (x.round r).1 := rfl

/-- The rounds from a queue of regions on until the queue is empty, with the regions in the order in
which they are taken from it. -/
inductive Declares : List Region → Extraction → List Region → Extraction → Prop
  | done (x : Extraction) : Declares [] x [] x
  | round {r : Region} {queue rs : List Region} {x x' : Extraction}
      (rest : Declares (queue ++ (x.round r).2) (x.round r).1 rs x') :
      Declares (r :: queue) x (r :: rs) x'

/-- The trees of some regions. -/
def roots (rs : List Region) : List Tree := rs.flatMap (·.roots)

theorem roots_cons (r : Region) (rs : List Region) : roots (r :: rs) = r.roots ++ roots rs :=
  List.flatMap_cons

theorem roots_append (rs qs : List Region) : roots (rs ++ qs) = roots rs ++ roots qs :=
  List.flatMap_append

/-- A round keeps its region and notes the imports in it. -/
theorem round_setting (x : Extraction) (r : Region) :
    (x.round r).1.setting =
      { x.setting with
        regions := x.regions ++ [r]
        pendingImports := x.pendingImports ++ r.met.flatMap (importsAt r.module r.scope) } :=
  (openScopes_eq ..).1.trans (declareRegion_eq ..).1

theorem round_regions (x : Extraction) (r : Region) :
    (x.round r).1.regions = x.regions ++ [r] :=
  (congrArg Extraction.regions (x.round_setting r) :)

/-- A round opens one region for each scope that its walk meets. -/
theorem round_opened (x : Extraction) (r : Region) :
    (x.round r).2.map (·.roots) = (metScopes r.roots).map innerParts := by
  obtain ⟨-, hnested⟩ := declareRegion_eq { x with regions := x.regions ++ [r] } r
  refine (openScopes_eq ..).2.trans ?_
  rw [← hnested, List.map_map]
  rfl

theorem roots_round (x : Extraction) (r : Region) :
    roots (x.round r).2 = (metScopes r.roots).flatMap innerParts := by
  rw [roots, List.flatMap_def, round_opened, ← List.flatMap_def]

/-! ## The queue empties -/

/-- The regions in a queue and those that will join it. -/
def pending (queue : List Region) : Nat := queue.length + scopeCount (roots queue)

/-- A round takes one region off the count. -/
theorem pending_round (x : Extraction) {r : Region} (h : ∀ t ∈ r.roots, Grammatical t)
    (queue : List Region) : pending (queue ++ (x.round r).2) + 1 = pending (r :: queue) := by
  have hlength : (x.round r).2.length = (metScopes r.roots).length := by
    simpa using congrArg List.length (round_opened x r)
  have hcount := scopeCount_eq h
  rw [← roots_round x, ← hlength] at hcount
  unfold pending
  rw [roots_cons, roots_append, scopeCount_append, scopeCount_append, List.length_append,
    List.length_cons]
  omega

/-- What a round leaves in the queue is grammatical if the queue was. -/
theorem grammatical_round (x : Extraction) {r : Region} {queue : List Region}
    (h : ∀ t ∈ roots (r :: queue), Grammatical t) :
    ∀ t ∈ roots (queue ++ (x.round r).2), Grammatical t := by
  rw [roots_cons] at h
  rw [roots_append, roots_round]
  intro t ht
  rcases List.mem_append.1 ht with ht | ht
  · exact h t (List.mem_append_right _ ht)
  · exact grammatical_innerParts (fun u hu => h u (List.mem_append_left _ hu)) t ht

/-- As many rounds as there are regions empty the queue. -/
theorem declares_of_pending_le : ∀ (rounds : Nat) {queue : List Region} (x : Extraction),
    (∀ t ∈ roots queue, Grammatical t) → pending queue ≤ rounds →
    ∃ rs, Declares queue x rs (declareRegions rounds queue x)
  | 0, [], x, _, _ => ⟨[], .done x⟩
  | _ + 1, [], x, _, _ => ⟨[], .done x⟩
  | 0, r :: queue, x, _, hle => by
      rw [pending, List.length_cons] at hle
      omega
  | rounds + 1, r :: queue, x, h, hle => by
      have hr : ∀ t ∈ r.roots, Grammatical t := fun t ht => h t (List.mem_append_left _ ht)
      have hleft := pending_round x hr queue
      obtain ⟨rs, hrest⟩ := declares_of_pending_le rounds (x.round r).1 (grammatical_round x h)
        (by omega)
      rw [declareRegions_succ_cons]
      exact ⟨r :: rs, .round hrest⟩

/-! ## What the rounds meet -/

namespace Declares

variable {queue rs : List Region} {x x' : Extraction}

theorem regions_eq (h : Declares queue x rs x') : x'.regions = x.regions ++ rs := by
  induction h with
  | done => exact (List.append_nil _).symm
  | round _ ih => rw [ih, round_regions, List.append_assoc, List.singleton_append]

/-- The regions are those of the queue and one for each scope that was met. -/
theorem map_roots_eq (h : Declares queue x rs x') :
    rs.map (·.roots) =
      queue.map (·.roots) ++ (rs.flatMap fun r => r.met.filter opensScope).map innerParts := by
  induction h with
  | done => rfl
  | @round r _ _ _ _ _ ih =>
      rw [List.map_cons, ih, List.map_append, round_opened, List.flatMap_cons, List.map_append,
        List.append_assoc, r.met_eq]
      rfl

theorem grammatical (h : Declares queue x rs x') (hq : ∀ t ∈ roots queue, Grammatical t) :
    ∀ t ∈ roots rs, Grammatical t := by
  induction h with
  | done => exact hq
  | round _ ih =>
      intro t ht
      rcases List.mem_append.1 ht with ht | ht
      · exact hq t (List.mem_append_left _ ht)
      · exact ih (grammatical_round _ hq) t ht

/-- The walks through the regions meet every term of the queue once. -/
theorem met_perm (h : Declares queue x rs x') (hq : ∀ t ∈ roots queue, Grammatical t) :
    (rs.flatMap fun r => r.met.filter isTerm).Perm (terms (roots queue)) := by
  induction h with
  | done => rfl
  | @round r queue rs x _ _ ih =>
      have hrest := ih (grammatical_round _ hq)
      have hfirst : Covered r.roots := covered fun t ht => hq t (List.mem_append_left _ ht)
      unfold Covered at hfirst
      rw [roots_append, terms_append, roots_round] at hrest
      rw [List.flatMap_cons, r.met_eq, roots_cons, terms_append]
      -- The region gives the terms that it meets, the rest of the queue those that it leaves over.
      refine (hrest.append_left _).trans (List.Perm.trans ?_ (hfirst.symm.append_right _))
      rw [List.append_assoc]
      exact List.perm_append_comm.append_left _

/-- The walks through the regions meet every node of the queue at most once. -/
theorem met_subperm (h : Declares queue x rs x') (hq : ∀ t ∈ roots queue, Grammatical t) :
    (rs.flatMap Region.met).Subperm ((roots queue).flatMap nodes) := by
  induction h with
  | done => exact List.Subperm.refl _
  | @round r queue rs x _ _ ih =>
      have hrest := ih (grammatical_round _ hq)
      have hfirst : MetOnce r.roots := metOnce fun t ht => hq t (List.mem_append_left _ ht)
      unfold MetOnce at hfirst
      rw [roots_append, List.flatMap_append, roots_round] at hrest
      rw [List.flatMap_cons, r.met_eq, roots_cons, List.flatMap_append]
      -- The region gives the nodes that it meets, the rest of the queue those that it leaves over.
      refine ((List.Subperm.refl _).append hrest).trans
        (List.Subperm.trans (List.Perm.subperm ?_) (hfirst.append (List.Subperm.refl _)))
      rw [List.append_assoc]
      exact List.perm_append_comm.append_left _

end Declares

/-! ## Modules -/

/-- The tree of a module: statements in its body, and parts that follow the grammar. -/
structure IsModule (t : Tree) : Prop where
  label_eq : t.label = .module
  body : ∀ p ∈ t.parts, p.1 = .body
  grammatical : Grammatical t

instance : DecidablePred IsModule := fun t =>
  decidable_of_iff (t.label = .module ∧ (∀ p ∈ t.parts, p.1 = .body) ∧ Grammatical t)
    ⟨fun h => ⟨h.1, h.2.1, h.2.2⟩, fun h => ⟨h.label_eq, h.body, h.grammatical⟩⟩

/-- The terms of a module are those of its body. -/
theorem IsModule.terms_eq {t : Tree} (h : IsModule t) : terms [t] = terms (t.all .body) := by
  have hterm : ¬ t.isTerm = true := by simp [isTerm, h.label_eq]
  have hbody : t.all .body = t.children := by
    rw [all, children, List.filter_eq_self.2 fun p hp => decide_eq_true (h.body p hp)]
  rw [terms_singleton, List.filter_cons_of_neg hterm, List.filter_nil, List.nil_append, hbody]

/-- The tree of a module is walked through in some regions. -/
structure Walked (tree : Tree) (rs : List Region) : Prop where
  /-- The regions hold the body and the inner parts of each scope that is met. -/
  opened : rs.map (·.roots) =
    tree.all .body :: (rs.flatMap fun r => r.met.filter opensScope).map innerParts
  /-- Every term is met once. -/
  once : (rs.flatMap fun r => r.met.filter isTerm).Perm (terms [tree])
  /-- What is evaluated around a scope is met where its node is. -/
  outside : ∀ r ∈ rs, ∀ t ∈ r.met, t.opensScope = true → evaluatedAround t ⊆ r.met
  /-- Everything else of the node is met in a region of its own. -/
  inside : ∀ r ∈ rs, ∀ t ∈ r.met, t.opensScope = true → ∃ own ∈ rs, own.roots ⊆ own.met ∧
    own.roots = t.innerParts ∧ (evaluatedAround t ++ own.roots).Perm (pieces t)

/-- The module body as a region. -/
def bodyRegion (m : SourceModule) : Region := ⟨m.name, m, m.tree.all .body, false⟩

theorem roots_bodyRegion (m : SourceModule) : roots [bodyRegion m] = m.tree.all .body :=
  List.flatMap_singleton ..

theorem grammatical_bodyRegion {m : SourceModule} (hm : IsModule m.tree) :
    ∀ t ∈ roots [bodyRegion m], Grammatical t := by
  rw [roots_bodyRegion]
  intro t ht
  have hchild : t ∈ m.tree.children := List.mem_map.2 ⟨_, mem_parts_of_mem_all ht, rfl⟩
  exact hm.grammatical.of_mem_nodes (mem_nodes_of_mem_children hchild)

/-- A tree has more nodes than scopes. -/
theorem pending_bodyRegion_le {m : SourceModule} (hm : IsModule m.tree) :
    pending [bodyRegion m] ≤ m.tree.size + 1 := by
  have hcount := scopeCount_le m.tree
  rw [scopeCount, hm.terms_eq, ← roots_bodyRegion, ← scopeCount] at hcount
  rw [pending, List.length_singleton]
  omega

theorem Declares.walked {m : SourceModule} {x x' : Extraction} {rs : List Region}
    (h : Declares [bodyRegion m] x rs x') (hm : IsModule m.tree) : Walked m.tree rs := by
  have hstart := grammatical_bodyRegion hm
  have hroots := h.map_roots_eq
  have hparts : ∀ r ∈ rs, ∀ t ∈ r.met, t.opensScope = true → ScopeParts t := by
    intro r hr t ht hscope
    have hgrammatical : ∀ u ∈ r.roots, Grammatical u := fun u hu =>
      h.grammatical hstart u (List.mem_flatMap.2 ⟨r, hr, hu⟩)
    rw [r.met_eq] at ht
    exact scopeParts_of_mem_metScopes hgrammatical (List.mem_filter.2 ⟨ht, hscope⟩)
  constructor
  · exact hroots
  · rw [hm.terms_eq, ← roots_bodyRegion]
    exact h.met_perm hstart
  · intro r hr t ht hscope u hu
    rw [← (hparts r hr t ht hscope).outerParts_eq hscope] at hu
    rw [r.met_eq] at ht ⊢
    exact met_nextParts ht (by rwa [nextParts, if_pos hscope])
  · intro r hr t ht hscope
    have hshape := hparts r hr t ht hscope
    have hmem : t.innerParts ∈ rs.map (·.roots) := by
      rw [hroots]
      refine List.mem_append_right _ (List.mem_map_of_mem ?_)
      exact List.mem_flatMap.2 ⟨r, hr, List.mem_filter.2 ⟨ht, hscope⟩⟩
    obtain ⟨own, hown, heq⟩ := List.mem_map.1 hmem
    refine ⟨own, hown, own.met_eq ▸ subset_met _, heq, ?_⟩
    rw [heq, ← hshape.outerParts_eq hscope]
    exact hshape.pieces_perm hscope

/-- The state in which a module is known, but none of its names. -/
def entered (x : Extraction) (m : SourceModule) (graph : Graph) : Extraction :=
  { x with
    graph
    modules := x.modules ++ [m]
    qualifiers := (m.name, m.name) :: x.qualifiers
    constantCandidates := x.constantCandidates ++ (m.tree.all .body).filterMap fun t =>
      (constantCandidate? t).map fun name => (m, name, t) }

theorem addTree_eq {x : Extraction} {m : SourceModule} {graph : Graph}
    (h : x.graph.addScope { id := m.name, kind := .module, file := some m.path } = .ok graph) :
    x.addTree m =
      .ok (declareRegions (m.tree.size + 1) [bodyRegion m] (x.entered m graph)) := by
  unfold addTree
  rw [h]
  rfl

/-- **The walk through the scopes of a module loses nothing and repeats nothing.** The rounds of
adding a module end with an empty queue, and the regions that it leaves behind hold every term of
the tree once. -/
theorem addTree_walked (x : Extraction) (m : SourceModule) (hname : x.graph.scope? m.name = none)
    (hm : IsModule m.tree) :
    ∃ graph rs x',
      x.graph.addScope { id := m.name, kind := .module, file := some m.path } = .ok graph ∧
      x.addTree m = .ok x' ∧ Declares [bodyRegion m] (x.entered m graph) rs x' ∧
      x'.regions = x.regions ++ rs ∧ Walked m.tree rs := by
  have hgraph : ∃ graph,
      x.graph.addScope { id := m.name, kind := .module, file := some m.path } = .ok graph := by
    simp [Graph.addScope, hname]
  obtain ⟨graph, hgraph⟩ := hgraph
  obtain ⟨rs, hrounds⟩ := declares_of_pending_le (m.tree.size + 1) (x.entered m graph)
    (grammatical_bodyRegion hm) (pending_bodyRegion_le hm)
  exact ⟨graph, rs, _, hgraph, addTree_eq hgraph, hrounds, hrounds.regions_eq, hrounds.walked hm⟩

/-- A function with a decorator, a comprehension as a default and an anonymous function. -/
def areaText : String := "@log\ndef area(h=[s for s in SIZES]):\n    return lambda k=h: k\n"

/-- The module with that function. -/
def area : SourceModule where
  name := "shapes"
  path := ⟨"", ["shapes.py"]⟩
  source := areaText
  tree := (Module.parse? areaText).getD default

/-- The comprehension belongs to the module, the anonymous function to the body of the function. -/
theorem addTree_walked_area :
    ∃ x', ({} : Extraction).addTree area = .ok x' ∧
      x'.regions.map (·.scope) =
        ["shapes", "shapes:area", "shapes.<listcomp1>", "shapes:area.<lambda2>"] ∧
      Walked area.tree x'.regions := by
  have hm : IsModule area.tree := by decide +kernel
  obtain ⟨graph, rs, x', -, hadded, -, hregions, hwalked⟩ := addTree_walked {} area rfl hm
  have hscopes : (({} : Extraction).addTree area).toOption.map (·.regions.map (·.scope)) =
      some ["shapes", "shapes:area", "shapes.<listcomp1>", "shapes:area.<lambda2>"] := by
    decide +kernel
  rw [hadded] at hscopes
  obtain rfl : x'.regions = rs := hregions
  exact ⟨x', hadded, Option.some.inj hscopes, hwalked⟩

end Extraction

end Pseudonym
