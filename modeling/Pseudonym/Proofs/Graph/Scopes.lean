import Pseudonym.Proofs.Graph.WellFormed
import Pseudonym.Renaming.Conflict

/-!
# Nested scopes

When every scope is registered after the scope around it, the walk outwards ends, and the walks
outwards and inwards are dual: both are the reflexive-transitive closure of "directly inside"
(`mem_ancestors`, `mem_descendantScopes`).

A name is looked up along a path of scopes (`lookupPath`): first the scope it is read in, then the
scopes around it except class bodies. `lookupPath_before` says where the scopes passed by a look-up
stand: none of them is seen from the scope that the look-up comes to, and a walk that stops at the
declaration of the name passes all of them.
-/

namespace Pseudonym.Graph

open Relation

/-! ## The order of registration -/

/-- Every scope of the list has its parent among `seen` or earlier in the list. -/
def ParentsBefore : (seen : List ScopeId) → List Scope → Prop
  | _, [] => True
  | seen, c :: rest => (∀ p, c.parent = some p → p ∈ seen) ∧ ParentsBefore (seen ++ [c.id]) rest

instance ParentsBefore.decide : (seen : List ScopeId) → (cs : List Scope) →
    Decidable (ParentsBefore seen cs)
  | _, [] => isTrue trivial
  | seen, c :: rest =>
      have := ParentsBefore.decide (seen ++ [c.id]) rest
      inferInstanceAs (Decidable ((∀ p ∈ c.parent, p ∈ seen) ∧ ParentsBefore (seen ++ [c.id]) rest))

/-- Every scope was registered after the scope around it. -/
def ParentsFirst (g : Graph) : Prop := ParentsBefore [] g.scopes

instance (g : Graph) : Decidable g.ParentsFirst := ParentsBefore.decide [] g.scopes

/-- A parent stands before its child. -/
theorem ParentsBefore.idxOf_lt {c : Scope} {p : ScopeId} (hp : c.parent = some p) :
    ∀ {cs : List Scope} {seen : List ScopeId}, ParentsBefore seen cs → c ∈ cs →
      (seen ++ cs.map (·.id)).Nodup →
      (seen ++ cs.map (·.id)).idxOf p < (seen ++ cs.map (·.id)).idxOf c.id
  | d :: cs, seen, h, hc, hnd => by
      rcases List.mem_cons.1 hc with rfl | hc
      · have hseen : p ∈ seen := h.1 p hp
        have hfresh : c.id ∉ seen := fun hmem =>
          List.disjoint_of_nodup_append hnd hmem (by simp)
        rw [List.idxOf_append_of_mem hseen, List.idxOf_append_of_notMem hfresh]
        exact Nat.lt_of_lt_of_le (List.idxOf_lt_length_iff.2 hseen) (Nat.le_add_right _ _)
      · have happ : seen ++ (d :: cs).map (·.id) = (seen ++ [d.id]) ++ cs.map (·.id) := by simp
        rw [happ] at hnd ⊢
        exact ParentsBefore.idxOf_lt hp h.2 hc hnd

variable {g : Graph}

/-- The place of a scope in the order of registration. -/
def rank (g : Graph) (id : ScopeId) : Nat := g.scopeIds.idxOf id

theorem mem_parentIds {id p : ScopeId} :
    p ∈ g.parentIds id ↔ ∃ c, g.scope? id = some c ∧ c.parent = some p := by
  simp only [parentIds, Option.mem_toList, Option.bind_eq_some_iff]

/-- A step outwards leads to a scope registered earlier. -/
theorem rank_lt_of_mem_parentIds (hg : g.WellFormed) (hp : g.ParentsFirst) {id p : ScopeId}
    (h : p ∈ g.parentIds id) : g.rank p < g.rank id := by
  obtain ⟨c, hc, hcp⟩ := mem_parentIds.1 h
  obtain ⟨hmem, rfl⟩ := hg.scope?_eq_some.1 hc
  exact ParentsBefore.idxOf_lt hcp hp hmem hg.scopeIds_nodup

theorem mem_scopeIds_of_mem_parentIds (hg : g.WellFormed) (hp : g.ParentsFirst)
    {id p : ScopeId} (h : p ∈ g.parentIds id) : p ∈ g.scopeIds := by
  have hlt := rank_lt_of_mem_parentIds hg hp h
  exact List.idxOf_lt_length_iff.1 (Nat.lt_of_lt_of_le hlt List.idxOf_le_length)

theorem rank_lt_of_transGen (hg : g.WellFormed) (hp : g.ParentsFirst) {a b : ScopeId}
    (h : TransGen (Edge g.parentIds) a b) : g.rank b < g.rank a := by
  induction h with
  | single h => exact rank_lt_of_mem_parentIds hg hp h
  | tail _ h ih => exact Nat.lt_trans (rank_lt_of_mem_parentIds hg hp h) ih

theorem rank_le_of_reflTransGen (hg : g.WellFormed) (hp : g.ParentsFirst) {a b : ScopeId}
    (h : ReflTransGen (Edge g.parentIds) a b) : g.rank b ≤ g.rank a := by
  rcases reflTransGen_iff_eq_or_transGen.1 h with rfl | h
  · exact Nat.le_refl _
  · exact Nat.le_of_lt (rank_lt_of_transGen hg hp h)

/-! ## Walks outwards and inwards -/

/-- The scopes around a scope are those reached by one or more steps outwards. -/
theorem mem_ancestors (hg : g.WellFormed) (hp : g.ParentsFirst) {id : ScopeId} {c : Scope} :
    c ∈ g.ancestors id ↔ c ∈ g.scopes ∧ TransGen (Edge g.parentIds) id c.id := by
  have closed : ∀ a ∈ g.scopeIds, g.parentIds a ⊆ g.scopeIds :=
    fun _ _ _ h => mem_scopeIds_of_mem_parentIds hg hp h
  simp only [ancestors, List.mem_filterMap, mem_reach_of_closed closed, hg.scope?_eq_some]
  constructor
  · rintro ⟨_, ⟨q, hq, -, hqc⟩, hc, rfl⟩
    exact ⟨hc, .head' hq hqc⟩
  · rintro ⟨hc, h⟩
    obtain ⟨q, hq, hqc⟩ := TransGen.head'_iff.1 h
    exact ⟨c.id, ⟨q, hq, mem_scopeIds_of_mem_parentIds hg hp hq, hqc⟩, hc, rfl⟩

/-- A step inwards is a step outwards read backwards. -/
theorem mem_childScopes_map (hg : g.WellFormed) {a b : ScopeId} :
    b ∈ (g.childScopes a).map (·.id) ↔ a ∈ g.parentIds b := by
  simp only [childScopes, List.mem_map, List.mem_filter, decide_eq_true_eq, mem_parentIds,
    hg.scope?_eq_some]
  constructor
  · rintro ⟨c, ⟨hc, hca⟩, rfl⟩
    exact ⟨c, ⟨hc, rfl⟩, hca⟩
  · rintro ⟨c, ⟨hc, rfl⟩, hca⟩
    exact ⟨c, ⟨hc, hca⟩, rfl⟩

/-- A scope and the scopes inside it are those from which it is reached by steps outwards. -/
theorem mem_descendantScopes (hg : g.WellFormed) {id : ScopeId} {c : Scope} :
    c ∈ g.descendantScopes id ↔
      c ∈ g.scopes ∧ id ∈ g.scopeIds ∧ ReflTransGen (Edge g.parentIds) c.id id := by
  have closed : ∀ a ∈ g.scopeIds, (g.childScopes a).map (·.id) ⊆ g.scopeIds := by
    intro a _ b hb
    obtain ⟨c, hc, rfl⟩ := List.mem_map.1 hb
    exact mem_scopeIds_of_mem (List.mem_of_mem_filter hc)
  have hswap : Edge (fun a => (g.childScopes a).map (·.id)) = Function.swap (Edge g.parentIds) := by
    funext a b
    exact propext (mem_childScopes_map hg)
  simp only [descendantScopes, List.mem_filterMap, mem_reach_of_closed closed, hg.scope?_eq_some,
    hswap, reflTransGen_swap]
  constructor
  · rintro ⟨_, ⟨q, hq, hqid, hcq⟩, hc, rfl⟩
    obtain rfl : q = id := List.mem_singleton.1 hq
    exact ⟨hc, hqid, hcq⟩
  · rintro ⟨hc, hid, h⟩
    exact ⟨c.id, ⟨id, List.mem_singleton_self id, hid, h⟩, hc, rfl⟩

/-! ## The chain of scopes around a scope -/

/-- A scope and the scopes around it, from the inside outwards. -/
def scopeChain (g : Graph) (id : ScopeId) : List Scope := (g.scope? id).toList ++ g.ancestors id

theorem ancestors_of_parent (hg : g.WellFormed) (hp : g.ParentsFirst) {id p : ScopeId}
    (h : p ∈ g.parentIds id) : g.ancestors id = g.scopeChain p := by
  have hsingle : g.parentIds id = [p] := by
    obtain ⟨c, hc, hcp⟩ := mem_parentIds.1 h
    simp [parentIds, hc, hcp]
  have hmem : p ∈ g.scopeIds := mem_scopeIds_of_mem_parentIds hg hp h
  -- The walk from `p` never comes back to `p`, so it may as well be kept among the unseen scopes.
  have hout : p ∉ reach g.parentIds g.scopeIds (g.parentIds p) := fun hback => by
    obtain ⟨q, hq, -, hqp⟩ := (mem_reach_of_closed
      fun _ _ _ h => mem_scopeIds_of_mem_parentIds hg hp h).1 hback
    exact absurd (rank_lt_of_transGen hg hp (.head' hq hqp)) (Nat.lt_irrefl _)
  rw [ancestors, hsingle, reach_cons, if_pos hmem, List.nil_append, reach_erase hout,
    List.filterMap_cons, scopeChain, ancestors]
  cases g.scope? p <;> rfl

theorem ancestors_of_parentless {id : ScopeId} (h : g.parentIds id = []) : g.ancestors id = [] := by
  rw [ancestors, h, reach_nil, List.filterMap_nil]

/-- What follows a scope in a chain is the chain around that scope. -/
theorem scopeChain_suffix (hg : g.WellFormed) (hp : g.ParentsFirst) {u : Scope} {ys : List Scope} :
    ∀ {xs : List Scope} {id : ScopeId}, id ∈ g.scopeIds → g.scopeChain id = xs ++ u :: ys →
      ys = g.ancestors u.id
  | xs, id, hid, h => by
      obtain ⟨c, hc, -, hcid⟩ := hg.exists_scope? hid
      rw [scopeChain, hc, Option.toList_some, List.singleton_append] at h
      cases xs with
      | nil =>
          obtain ⟨rfl, rfl⟩ := List.cons.inj h
          rw [hcid]
      | cons x xs =>
          have htail : g.ancestors id = xs ++ u :: ys := (List.cons.inj h).2
          cases hparent : g.parentIds id with
          | nil => simp [ancestors_of_parentless hparent] at htail
          | cons p ps =>
              have hpid : p ∈ g.parentIds id := hparent ▸ List.mem_cons_self
              rw [ancestors_of_parent hg hp hpid] at htail
              exact scopeChain_suffix hg hp (mem_scopeIds_of_mem_parentIds hg hp hpid) htail
termination_by xs => xs.length

/-! ## The path of a look-up -/

/-- The scopes in which a name is looked up, in order: the scope it is read in, then those around it
except class bodies. -/
def lookupPath (g : Graph) (id : ScopeId) : List ScopeId :=
  id :: ((g.ancestors id).filter (·.kind ≠ .type)).map (·.id)

/-- The symbol that a name means when it is read in a scope. -/
def resolve (g : Graph) (id : ScopeId) (name : String) : Option Symbol :=
  (g.lookupPath id).findSome? fun t => g.lookup t name

theorem lookupPath_eq (hg : g.WellFormed) (hp : g.ParentsFirst) {id : ScopeId}
    (hid : id ∈ g.scopeIds) :
    g.lookupPath id =
      ((g.scopeChain id).filter fun c => c.id = id ∨ c.kind ≠ .type).map (·.id) := by
  obtain ⟨c, hc, -, hcid⟩ := hg.exists_scope? hid
  have hfilter : (g.ancestors id).filter (fun d => decide (d.id = id ∨ d.kind ≠ .type)) =
      (g.ancestors id).filter (·.kind ≠ .type) := by
    refine List.filter_congr fun d hd => ?_
    have hlt := rank_lt_of_transGen hg hp ((mem_ancestors hg hp).1 hd).2
    have hne : d.id ≠ id := fun heq => by
      rw [heq] at hlt
      exact absurd hlt (Nat.lt_irrefl _)
    simp [hne]
  rw [lookupPath, scopeChain, hc, Option.toList_some, List.singleton_append, List.filter_cons_of_pos
    (by simp [hcid]), hfilter, List.map_cons, hcid]

/-- A scope on the path of a look-up is registered. -/
theorem mem_scopeIds_of_mem_lookupPath (hg : g.WellFormed) (hp : g.ParentsFirst) {id t : ScopeId}
    (hid : id ∈ g.scopeIds) (ht : t ∈ g.lookupPath id) : t ∈ g.scopeIds := by
  rcases List.mem_cons.1 ht with rfl | ht
  · exact hid
  · obtain ⟨c, hc, rfl⟩ := List.mem_map.1 ht
    exact mem_scopeIds_of_mem ((mem_ancestors hg hp).1 (List.mem_of_mem_filter hc)).1

/-- A binding made on the path of a look-up is seen from where the look-up starts. -/
theorem mem_visibleRegion_of_mem_lookupPath (hg : g.WellFormed) (hp : g.ParentsFirst)
    {id t : ScopeId} (hid : id ∈ g.scopeIds) (ht : t ∈ g.lookupPath id) :
    id ∈ g.visibleRegion t := by
  obtain ⟨c, hc, hmem, rfl⟩ := hg.exists_scope? (mem_scopeIds_of_mem_lookupPath hg hp hid ht)
  obtain ⟨d, -, hd, rfl⟩ := hg.exists_scope? hid
  have hpath : ReflTransGen (Edge g.parentIds) d.id c.id := by
    rcases List.mem_cons.1 ht with heq | ht
    · rw [heq]
    · obtain ⟨e, he, heq⟩ := List.mem_map.1 ht
      rw [← heq]
      exact ((mem_ancestors hg hp).1 (List.mem_of_mem_filter he)).2.to_reflTransGen
  simp only [visibleRegion, hc]
  split
  · next hkind =>
      -- A class body stands on the path only as its start.
      rcases List.mem_cons.1 ht with heq | ht
      · exact List.mem_singleton.2 heq.symm
      · obtain ⟨e, he, heq⟩ := List.mem_map.1 ht
        obtain ⟨heanc, hekind⟩ := List.mem_filter.1 he
        have hec : some e = some c := by
          rw [← hc, ← heq, hg.scope?_id ((mem_ancestors hg hp).1 heanc).1]
        rw [Option.some.inj hec] at hekind
        simp [hkind] at hekind
  · exact List.mem_map.2 ⟨d, (mem_descendantScopes hg).2 ⟨hd, mem_scopeIds_of_mem hmem, hpath⟩, rfl⟩

/-- From everywhere in a visible region steps outwards lead to the binding. -/
theorem reflTransGen_of_mem_visibleRegion (hg : g.WellFormed) {t x : ScopeId}
    (h : x ∈ g.visibleRegion t) : ReflTransGen (Edge g.parentIds) x t := by
  unfold visibleRegion at h
  split at h
  · simp at h
  · split at h
    · rw [List.mem_singleton.1 h]
    · obtain ⟨c, hc, rfl⟩ := List.mem_map.1 h
      exact ((mem_descendantScopes hg).1 hc).2.2

/-- The scopes that a look-up passes before it comes to `t`. Let `x` be `t` or a scope without
parent, as is the home of every symbol bound in `t`. Then `x` does not see what they bind, and the
walk that stops at `x` meets them all. -/
theorem lookupPath_before (hg : g.WellFormed) (hp : g.ParentsFirst) {id t u x : ScopeId}
    {before after : List ScopeId} (hid : id ∈ g.scopeIds)
    (hpath : g.lookupPath id = before ++ t :: after) (hu : u ∈ before)
    (hx : x = t ∨ g.parentIds x = []) :
    x ∉ g.visibleRegion u ∧ ∃ c ∈ g.scopesBefore id (some x), c.id = u := by
  rw [lookupPath_eq hg hp hid] at hpath
  obtain ⟨l₁, l₂, hl, rfl, hl₂⟩ := List.map_eq_append_iff.1 hpath
  obtain ⟨k₁, k₂, hchain, rfl, rfl⟩ := List.filter_eq_append_iff.1 hl
  obtain ⟨T, l₃, hfil, rfl, -⟩ := List.map_eq_cons_iff.1 hl₂
  obtain ⟨n, k₃, rfl, -, -, -⟩ := List.filter_eq_cons_iff.1 hfil
  -- Everything passed has `T` around it.
  have hinside : ∀ c ∈ k₁, TransGen (Edge g.parentIds) c.id T.id := by
    intro c hc
    obtain ⟨a, b, rfl⟩ := List.append_of_mem hc
    have hsplit : g.scopeChain id = a ++ c :: (b ++ (n ++ T :: k₃)) := by simp [hchain]
    have hanc : T ∈ g.ancestors c.id := by
      rw [← scopeChain_suffix hg hp hid hsplit]
      simp
    exact ((mem_ancestors hg hp).1 hanc).2
  have hne : ∀ c ∈ k₁, c.id ≠ x := by
    rintro c hc rfl
    have hT := hinside c hc
    rcases hx with heq | hnone
    · rw [heq] at hT
      exact absurd (rank_lt_of_transGen hg hp hT) (Nat.lt_irrefl _)
    · obtain ⟨q, hq, -⟩ := TransGen.head'_iff.1 hT
      simp [Edge, hnone] at hq
  obtain ⟨c, hc, rfl⟩ := List.mem_map.1 hu
  obtain ⟨hck, hcq⟩ := List.mem_filter.1 hc
  constructor
  · intro hsee
    have hback := reflTransGen_of_mem_visibleRegion hg hsee
    have hT := hinside c hck
    rcases hx with rfl | hnone
    · exact absurd (rank_lt_of_transGen hg hp hT)
        (Nat.not_lt.2 (rank_le_of_reflTransGen hg hp hback))
    · rcases ReflTransGen.cases_head hback with heq | ⟨q, hq, -⟩
      · exact hne c hck heq.symm
      · simp [Edge, hnone] at hq
  · obtain ⟨d, hd, -, hdid⟩ := hg.exists_scope? hid
    refine ⟨c, ?_, rfl⟩
    have hdchain : d :: g.ancestors id = k₁ ++ (n ++ T :: k₃) := by
      rw [← hchain, scopeChain, hd]
      rfl
    simp only [scopesBefore, hd, hdchain, List.mem_filter]
    refine ⟨?_, by rw [hdid]; exact hcq⟩
    rw [List.takeWhile_append_of_pos fun e he => by simpa using hne e he]
    exact List.mem_append_left _ hck

end Pseudonym.Graph
