import Pseudonym.Proofs.Graph.Scopes

/-!
# Walks over nested scopes end and are dual

The graph computes its walks with a list of scopes not met yet, which bounds them. The walks
themselves know no bound: one goes from parent to parent (`Climbs`), the other keeps a queue of
scopes whose children it has still to visit (`Visits`). Where every scope is registered after its
parent, both end, with what the graph computes (`climbs_iff`, `visits_iff`).

Outwards the rank of the scope falls. Inwards no scope is met twice, since the queue holds scopes
none of which lies inside another one and everything inside them is still unseen (`Pending`).
-/

namespace Pseudonym.Graph

open Relation

variable {g : Graph}

/-! ## Walks without a bound -/

/-- The walk outwards from a scope, if there is one: `found` are the scopes that it meets. A
derivation is a walk that ends. -/
inductive Climbs (g : Graph) : Option Scope → (found : List Scope) → Prop
  | unknown : Climbs g none []
  | top {c : Scope} : c.parent = none → Climbs g (some c) []
  | up {c : Scope} {p : ScopeId} {found : List Scope} : c.parent = some p →
      Climbs g (g.scope? p) found → Climbs g (some c) ((g.scope? p).toList ++ found)

/-- The walk inwards with a queue: `found` are the scopes that it visits. A derivation is a walk
that ends. -/
inductive Visits (g : Graph) : (queue : List ScopeId) → (found : List Scope) → Prop
  | done : Visits g [] []
  | unknown {id : ScopeId} {queue : List ScopeId} {found : List Scope} : g.scope? id = none →
      Visits g queue found → Visits g (id :: queue) found
  | visit {id : ScopeId} {c : Scope} {queue : List ScopeId} {found : List Scope} :
      g.scope? id = some c → Visits g (queue ++ (g.childScopes id).map (·.id)) found →
      Visits g (id :: queue) (c :: found)

/-- A walk outwards ends in one way. -/
theorem Climbs.unique {start : Option Scope} {xs ys : List Scope} (hx : Climbs g start xs)
    (hy : Climbs g start ys) : xs = ys := by
  induction hx generalizing ys with
  | unknown =>
      cases hy
      rfl
  | top hnone =>
      cases hy with
      | top _ => rfl
      | up hsome _ => cases hnone.symm.trans hsome
  | up hp _ ih =>
      cases hy with
      | top hnone => cases hp.symm.trans hnone
      | up hq hrest =>
          obtain rfl := Option.some.inj (hp.symm.trans hq)
          rw [ih hrest]

/-- A walk inwards ends in one way. -/
theorem Visits.unique {queue : List ScopeId} {xs ys : List Scope} (hx : Visits g queue xs)
    (hy : Visits g queue ys) : xs = ys := by
  induction hx generalizing ys with
  | done =>
      cases hy
      rfl
  | unknown hnone _ ih =>
      cases hy with
      | unknown _ hrest => exact ih hrest
      | visit hsome _ => cases hnone.symm.trans hsome
  | visit hsome _ ih =>
      cases hy with
      | unknown hnone _ => cases hsome.symm.trans hnone
      | visit hagain hrest =>
          obtain rfl := Option.some.inj (hsome.symm.trans hagain)
          rw [ih hrest]

/-! ## Outwards -/

/-- The scope around a scope is registered. -/
theorem exists_parent (hg : g.WellFormed) (hp : g.ParentsFirst) {c : Scope} (hc : c ∈ g.scopes)
    {p : ScopeId} (hcp : c.parent = some p) :
    p ∈ g.parentIds c.id ∧ ∃ d ∈ g.scopes, d.id = p ∧ g.scope? p = some d := by
  have hmem : p ∈ g.parentIds c.id := mem_parentIds.2 ⟨c, hg.scope?_id hc, hcp⟩
  obtain ⟨d, hd, hdmem, hdid⟩ := hg.exists_scope? (mem_scopeIds_of_mem_parentIds hg hp hmem)
  exact ⟨hmem, d, hdmem, hdid, hd⟩

/-- The walk outwards ends. -/
theorem climbs_ancestors (hg : g.WellFormed) (hp : g.ParentsFirst) {c : Scope}
    (hc : c ∈ g.scopes) : Climbs g (some c) (g.ancestors c.id) := by
  cases hparent : c.parent with
  | none =>
      have hnone : g.parentIds c.id = [] := by simp [parentIds, hg.scope?_id hc, hparent]
      rw [ancestors_of_parentless hnone]
      exact .top hparent
  | some p =>
      obtain ⟨hmem, d, hd, rfl, hdp⟩ := exists_parent hg hp hc hparent
      have hrank := rank_lt_of_mem_parentIds hg hp hmem
      rw [ancestors_of_parent hg hp hmem, scopeChain]
      refine .up hparent ?_
      rw [hdp]
      exact climbs_ancestors hg hp hd
termination_by g.rank c.id

theorem climbs_iff (hg : g.WellFormed) (hp : g.ParentsFirst) {c : Scope} (hc : c ∈ g.scopes)
    {found : List Scope} : Climbs g (g.scope? c.id) found ↔ found = g.ancestors c.id := by
  rw [hg.scope?_id hc]
  constructor
  · intro h
    exact h.unique (climbs_ancestors hg hp hc)
  · intro h
    rw [h]
    exact climbs_ancestors hg hp hc

/-! ## Inwards -/

/-- A scope lies inside another one or is the other one. -/
abbrev Inside (g : Graph) : ScopeId → ScopeId → Prop := ReflTransGen (Edge g.parentIds)

theorem eq_of_mem_parentIds {a b c : ScopeId} (ha : a ∈ g.parentIds c) (hb : b ∈ g.parentIds c) :
    a = b := by
  obtain ⟨s, hs, hsa⟩ := mem_parentIds.1 ha
  obtain ⟨t, ht, htb⟩ := mem_parentIds.1 hb
  obtain rfl := Option.some.inj (hs.symm.trans ht)
  exact Option.some.inj (hsa.symm.trans htb)

/-- A scope lies inside what its parent lies inside. -/
theorem inside_of_parent {a b c : ScopeId} (ha : a ∈ g.parentIds c) (h : g.Inside c b) :
    c = b ∨ g.Inside a b := by
  rcases ReflTransGen.cases_head h with heq | hstep
  · exact .inl heq
  · obtain ⟨p, hp, hpb⟩ := hstep
    rw [eq_of_mem_parentIds ha hp]
    exact .inr hpb

/-- What lies inside a child has a higher rank than the scope. -/
theorem rank_lt_of_inside (hg : g.WellFormed) (hp : g.ParentsFirst) {a c x : ScopeId}
    (hc : a ∈ g.parentIds c) (hx : g.Inside x c) : g.rank a < g.rank x :=
  Nat.lt_of_lt_of_le (rank_lt_of_mem_parentIds hg hp hc) (rank_le_of_reflTransGen hg hp hx)

/-- No child of a scope lies inside another child of it. -/
theorem not_inside_sibling (hg : g.WellFormed) (hp : g.ParentsFirst) {a c d : ScopeId}
    (hc : a ∈ g.parentIds c) (hd : a ∈ g.parentIds d) (hne : c ≠ d) : ¬ g.Inside c d := by
  intro hinside
  rcases inside_of_parent hc hinside with heq | hinside
  · exact hne heq
  · exact Nat.lt_irrefl _ (rank_lt_of_inside hg hp hd hinside)

/-- What the queue of a walk inwards is like. -/
structure Pending (g : Graph) (unseen queue : List ScopeId) : Prop where
  known : ∀ q ∈ queue, q ∈ g.scopeIds
  /-- Everything inside a scope of the queue is still unseen. -/
  unseen : ∀ q ∈ queue, ∀ x, g.Inside x q → x ∈ unseen
  /-- No scope of the queue lies inside another one. -/
  apart : queue.Pairwise fun a b => ¬ g.Inside a b ∧ ¬ g.Inside b a

namespace Pending

/-- One scope is a queue. -/
theorem single (hg : g.WellFormed) {id : ScopeId} (hid : id ∈ g.scopeIds) :
    g.Pending g.scopeIds [id] where
  known := by simpa using hid
  unseen := by
    intro q hq x hx
    rw [List.mem_singleton.1 hq] at hx
    rcases ReflTransGen.cases_head hx with heq | hstep
    · exact heq ▸ hid
    · obtain ⟨p, hp, -⟩ := hstep
      obtain ⟨c, hc, -⟩ := mem_parentIds.1 hp
      obtain ⟨hmem, rfl⟩ := hg.scope?_eq_some.1 hc
      exact mem_scopeIds_of_mem hmem
  apart := List.pairwise_singleton _ _

/-- The step of the walk: a scope leaves the queue, and its children join it. -/
theorem step (hg : g.WellFormed) (hp : g.ParentsFirst) {unseen queue : List ScopeId} {a : ScopeId}
    (h : g.Pending unseen (a :: queue)) :
    g.Pending (unseen.erase a) (queue ++ (g.childScopes a).map (·.id)) := by
  obtain ⟨hknown, hunseen, hapart⟩ := h
  obtain ⟨hfirst, hqueue⟩ := List.pairwise_cons.1 hapart
  have hchild : ∀ c ∈ (g.childScopes a).map (·.id), a ∈ g.parentIds c := fun c hc =>
    (mem_childScopes_map hg).1 hc
  refine ⟨?_, ?_, ?_⟩
  · intro q hq
    rcases List.mem_append.1 hq with hq | hq
    · exact hknown q (List.mem_cons_of_mem a hq)
    · obtain ⟨c, hc, rfl⟩ := List.mem_map.1 hq
      exact mem_scopeIds_of_mem (List.mem_of_mem_filter hc)
  · intro q hq x hx
    rcases List.mem_append.1 hq with hq | hq
    · have hne : x ≠ a := by
        intro heq
        exact (hfirst q hq).1 (heq ▸ hx)
      exact (List.mem_erase_of_ne hne).2 (hunseen q (List.mem_cons_of_mem a hq) x hx)
    · have hne : x ≠ a := by
        intro heq
        exact Nat.lt_irrefl _ (heq ▸ rank_lt_of_inside hg hp (hchild q hq) hx)
      exact (List.mem_erase_of_ne hne).2
        (hunseen a List.mem_cons_self x (hx.tail (hchild q hq)))
  · refine List.pairwise_append.2 ⟨hqueue, ?_, ?_⟩
    · have hnodup : ((g.childScopes a).map (·.id)).Nodup :=
        (List.filter_sublist.map _).nodup hg.scopeIds_nodup
      refine hnodup.pairwise_of_forall_ne ?_
      intro c hc d hd hne
      exact ⟨not_inside_sibling hg hp (hchild c hc) (hchild d hd) hne,
        not_inside_sibling hg hp (hchild d hd) (hchild c hc) hne.symm⟩
    · intro q hq c hc
      have hleave := hfirst q hq
      constructor
      · intro hinside
        exact hleave.2 (hinside.tail (hchild c hc))
      · intro hinside
        rcases inside_of_parent (hchild c hc) hinside with rfl | hinside
        · exact hleave.2 (.single (hchild c hc))
        · exact hleave.1 hinside

end Pending

/-- The walk inwards ends, and nothing that it comes to was seen before. -/
theorem visits_reach (hg : g.WellFormed) (hp : g.ParentsFirst) (unseen queue : List ScopeId)
    (h : g.Pending unseen queue) :
    Visits g queue
      ((reach (fun s => (g.childScopes s).map (·.id)) unseen queue).filterMap g.scope?) := by
  induction unseen, queue using reach_induct (fun s => (g.childScopes s).map (·.id)) with
  | nil unseen =>
      rw [reach_nil]
      exact .done
  | taken unseen a queue ha ih =>
      obtain ⟨c, hc, -⟩ := hg.exists_scope? (h.known a List.mem_cons_self)
      rw [reach_cons, if_pos ha, List.filterMap_cons_some hc]
      exact .visit hc (ih (h.step hg hp))
  | dropped unseen a queue ha ih =>
      exact absurd (h.unseen a List.mem_cons_self a .refl) ha

theorem visits_iff (hg : g.WellFormed) (hp : g.ParentsFirst) {id : ScopeId} (hid : id ∈ g.scopeIds)
    {found : List Scope} : Visits g [id] found ↔ found = g.descendantScopes id := by
  have hends : Visits g [id] (g.descendantScopes id) :=
    visits_reach hg hp g.scopeIds [id] (.single hg hid)
  constructor
  · intro h
    exact h.unique hends
  · intro h
    rw [h]
    exact hends

/-! ## Functions inside functions -/

/-- A step outwards from a function to a function around it. -/
structure FunctionStep (g : Graph) (c d : Scope) : Prop where
  inner_mem : c ∈ g.scopes
  outer_mem : d ∈ g.scopes
  parent_eq : c.parent = some d.id
  inner_kind : c.kind = .function
  outer_kind : d.kind = .function

/-- The scopes of an unbroken run of functions that starts at a scope. -/
abbrev FunctionRun (g : Graph) : Scope → Scope → Prop := ReflTransGen g.FunctionStep

theorem rootFunctionScope_eq (hg : g.WellFormed) {c : Scope} (hc : c ∈ g.scopes) :
    g.rootFunctionScope c.id =
      ((c :: g.ancestors c.id).takeWhile (·.kind = .function)).getLast? := by
  rw [rootFunctionScope, hg.scope?_id hc]
  rfl

/-- A function has the root of the function around it. -/
theorem rootFunctionScope_step (hg : g.WellFormed) (hp : g.ParentsFirst) {c d : Scope}
    (h : g.FunctionStep c d) : g.rootFunctionScope d.id = g.rootFunctionScope c.id := by
  have hmem : d.id ∈ g.parentIds c.id := mem_parentIds.2 ⟨c, hg.scope?_id h.inner_mem, h.parent_eq⟩
  have haround : g.ancestors c.id = d :: g.ancestors d.id := by
    rw [ancestors_of_parent hg hp hmem, scopeChain, hg.scope?_id h.outer_mem]
    rfl
  rw [rootFunctionScope_eq hg h.inner_mem, rootFunctionScope_eq hg h.outer_mem, haround]
  simp [h.inner_kind, h.outer_kind]

/-- So all functions of a run have one root. -/
theorem rootFunctionScope_run (hg : g.WellFormed) (hp : g.ParentsFirst) {c d : Scope}
    (h : g.FunctionRun c d) : g.rootFunctionScope d.id = g.rootFunctionScope c.id := by
  induction h with
  | refl => rfl
  | tail _ hstep ih => rw [rootFunctionScope_step hg hp hstep, ih]

/-- A function with no function directly around it is its own root. -/
theorem rootFunctionScope_top (hg : g.WellFormed) (hp : g.ParentsFirst) {c : Scope}
    (hc : c ∈ g.scopes) (hkind : c.kind = .function) (htop : ∀ d, ¬ g.FunctionStep c d) :
    g.rootFunctionScope c.id = some c := by
  rw [rootFunctionScope_eq hg hc]
  cases hparent : c.parent with
  | none =>
      have hnone : g.parentIds c.id = [] := by simp [parentIds, hg.scope?_id hc, hparent]
      simp [ancestors_of_parentless hnone, hkind]
  | some p =>
      obtain ⟨hmem, d, hd, rfl, hdp⟩ := exists_parent hg hp hc hparent
      have hother : d.kind ≠ .function := fun hfunction =>
        htop d ⟨hc, hd, hparent, hkind, hfunction⟩
      simp [ancestors_of_parent hg hp hmem, scopeChain, hdp, hkind, hother]

/-- The root of a function is the outermost function of its run. -/
theorem exists_rootFunctionScope (hg : g.WellFormed) (hp : g.ParentsFirst) {c : Scope}
    (hc : c ∈ g.scopes) (hkind : c.kind = .function) :
    ∃ root, g.rootFunctionScope c.id = some root ∧ g.FunctionRun c root ∧
      ∀ d, ¬ g.FunctionStep root d := by
  by_cases hstep : ∃ d, g.FunctionStep c d
  · obtain ⟨d, hd⟩ := hstep
    have hrank : g.rank d.id < g.rank c.id :=
      rank_lt_of_mem_parentIds hg hp (mem_parentIds.2 ⟨c, hg.scope?_id hc, hd.parent_eq⟩)
    obtain ⟨root, hroot, hrun, htop⟩ := exists_rootFunctionScope hg hp hd.outer_mem hd.outer_kind
    exact ⟨root, (rootFunctionScope_step hg hp hd).symm.trans hroot, .head hd hrun, htop⟩
  · have htop : ∀ d, ¬ g.FunctionStep c d := fun d hd => hstep ⟨d, hd⟩
    exact ⟨c, rootFunctionScope_top hg hp hc hkind htop, .refl, htop⟩
termination_by g.rank c.id

/-! ## Both walks -/

/-- The walk inwards starts with the scope itself. -/
theorem descendantScopes_eq_cons (hg : g.WellFormed) {c : Scope} (hc : c ∈ g.scopes) :
    ∃ inner, g.descendantScopes c.id = c :: inner := by
  rw [descendantScopes, reach_cons, if_pos (mem_scopeIds_of_mem hc),
    List.filterMap_cons_some (hg.scope?_id hc)]
  exact ⟨_, rfl⟩

theorem nodup_descendantScopes (hg : g.WellFormed) (id : ScopeId) :
    (g.descendantScopes id).Nodup := by
  refine List.Nodup.filterMap ?_ (nodup_reach hg.scopeIds_nodup)
  intro a b c ha hb
  rw [← (hg.scope?_eq_some.1 ha).2, ← (hg.scope?_eq_some.1 hb).2]

/-- **Walks over nested scopes end and are dual.** The walks outwards and inwards from a scope end,
with what the graph computes. Inwards it lists, each once and from the scope on, the scopes that are
the scope itself or have it among those outwards of them. The root of a function is the outermost
one of its unbroken run of functions, for every function of the run. -/
theorem traversals_dual (hg : g.WellFormed) (hp : g.ParentsFirst) {s : Scope} (hs : s ∈ g.scopes) :
    (∀ found, Climbs g (g.scope? s.id) found ↔ found = g.ancestors s.id) ∧
    (∀ found, Visits g [s.id] found ↔ found = g.descendantScopes s.id) ∧
    (∃ inner, g.descendantScopes s.id = s :: inner) ∧ (g.descendantScopes s.id).Nodup ∧
    (∀ t, t ∈ g.descendantScopes s.id ↔ t ∈ g.scopes ∧ (t = s ∨ s ∈ g.ancestors t.id)) ∧
    (s.kind = .function → ∃ root, g.FunctionRun s root ∧ (∀ d, ¬ g.FunctionStep root d) ∧
      ∀ t, g.FunctionRun s t → g.rootFunctionScope t.id = some root) := by
  refine ⟨fun _ => climbs_iff hg hp hs, fun _ => visits_iff hg hp (mem_scopeIds_of_mem hs),
    descendantScopes_eq_cons hg hs, nodup_descendantScopes hg s.id, ?_, ?_⟩
  · intro t
    rw [mem_descendantScopes hg, mem_ancestors hg hp]
    refine and_congr_right fun ht => ?_
    have hsame : t.id = s.id ↔ t = s := by
      constructor
      · intro hid
        exact Option.some.inj ((hg.scope?_id ht).symm.trans (hid ▸ hg.scope?_id hs))
      · intro heq
        rw [heq]
    rw [reflTransGen_iff_eq_or_transGen, eq_comm, hsame]
    simp [hs, mem_scopeIds_of_mem hs]
  · intro hkind
    obtain ⟨root, hroot, hrun, htop⟩ := exists_rootFunctionScope hg hp hs hkind
    refine ⟨root, hrun, htop, ?_⟩
    intro t ht
    rw [rootFunctionScope_run hg hp ht, hroot]

/-- The body of a function inside a function. -/
def retryScope : Scope := { id := "net.fetch.retry", kind := .function, parent := some "net.fetch" }

/-- A module with nested functions and a class between two of them. -/
def net : Graph where
  scopes := [
    { id := "net", kind := .module },
    { id := "net.fetch", kind := .function, parent := some "net" },
    retryScope,
    { id := "net.fetch.retry.Wait", kind := .type, parent := some "net.fetch.retry" },
    { id := "net.fetch.retry.log", kind := .function, parent := some "net.fetch.retry" },
    { id := "net.fetch.retry.Wait.next", kind := .function, parent := some "net.fetch.retry.Wait" }]

/-- From the function in the middle, one walk meets two scopes and the other one visits four. -/
theorem traversals_dual_net :
    net.WellFormed ∧ net.ParentsFirst ∧ retryScope ∈ net.scopes ∧
      (∃ found, Climbs net (net.scope? retryScope.id) found ∧
        found.map (·.id) = ["net.fetch", "net"]) ∧
      (∃ found, Visits net [retryScope.id] found ∧
        found.map (·.id) = ["net.fetch.retry", "net.fetch.retry.Wait", "net.fetch.retry.log",
          "net.fetch.retry.Wait.next"]) ∧
      ∃ root, root.id = "net.fetch" ∧ net.FunctionRun retryScope root ∧
        ∀ d, ¬ net.FunctionStep root d := by
  have hformed : net.WellFormed := by decide +kernel
  have hparents : net.ParentsFirst := by decide +kernel
  have hmem : retryScope ∈ net.scopes := by decide
  obtain ⟨hclimbs, hvisits, -, -, -, hroot⟩ := traversals_dual hformed hparents hmem
  obtain ⟨root, hrun, htop, hshared⟩ := hroot rfl
  have hfetch : (net.rootFunctionScope retryScope.id).map (·.id) = some "net.fetch" := by
    decide +kernel
  rw [hshared retryScope .refl] at hfetch
  exact ⟨hformed, hparents, hmem, ⟨_, (hclimbs _).2 rfl, by decide +kernel⟩,
    ⟨_, (hvisits _).2 rfl, by decide +kernel⟩, root, Option.some.inj hfetch, hrun, htop⟩

end Pseudonym.Graph
