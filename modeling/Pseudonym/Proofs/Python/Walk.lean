import Mathlib.Data.List.Flatten
import Mathlib.Data.List.Perm.Basic
import Mathlib.Data.List.Perm.Subperm
import Pseudonym.Python.Walk

/-!
# What walks through scopes meet

Statements, expressions and patterns are the terms of a program; parameters, clauses, cases and the
like only hold some of them together. A walk enters the outer parts of a node that opens a scope and
leaves its inner parts to another walk. In a tree of Python's grammar these are all its parts
(`ScopeParts.pieces_perm`), so what a walk meets and what it leaves over are all terms, each once
(`covered`), and no node at all is met and left over as well (`metOnce`).

## Proof shape

The grammar says which roles the parts of a function, a class, an anonymous function and a
comprehension play (`ScopeParts`). Parts sorted by their roles are all parts (`perm_byRole`), and
for each of the four kinds of nodes the roles of the outer and the inner parts are all roles. The
walk itself is followed from node to node: a node is covered if the parts are that the walk goes on
to (`Covered.of_nextParts`).
-/

namespace Pseudonym.Python

namespace Tree

/-! ## Terms -/

/-- Whether a node is a statement, an expression or a pattern. -/
def isTerm (t : Tree) : Bool :=
  match t.label with
  | .clause _ | .keyword _ | .parameter .. | .withItem | .matchCase | .handler _ | .importedName ..
  | .module => false
  | _ => true

/-- A node and all nodes below it. -/
def nodes (t : Tree) : List Tree := t :: t.children.attach.flatMap fun ⟨u, _⟩ => u.nodes
termination_by sizeOf t
decreasing_by exact sizeOf_lt_of_mem_children (by assumption)

theorem nodes_eq (t : Tree) : t.nodes = t :: t.children.flatMap nodes := by
  rw [nodes]
  simp

theorem isTerm_of_opensScope {t : Tree} (h : t.opensScope = true) : t.isTerm = true := by
  unfold opensScope at h
  unfold isTerm
  split at h <;> simp_all

theorem mem_nodes_self (t : Tree) : t ∈ t.nodes := by
  rw [nodes_eq]
  exact List.mem_cons_self

/-- What is below a node below a node is below that node. -/
theorem nodes_subset {t u : Tree} (h : u ∈ t.nodes) : u.nodes ⊆ t.nodes := by
  rw [nodes_eq] at h
  rcases List.mem_cons.1 h with rfl | h
  · exact List.Subset.refl _
  · obtain ⟨c, hc, hu⟩ := List.mem_flatMap.1 h
    intro v hv
    rw [nodes_eq]
    exact List.mem_cons_of_mem _ (List.mem_flatMap.2 ⟨c, hc, nodes_subset hu hv⟩)
termination_by sizeOf t
decreasing_by exact sizeOf_lt_of_mem_children hc

theorem mem_nodes_of_mem_children {t u : Tree} (h : u ∈ t.children) : u ∈ t.nodes := by
  rw [nodes_eq]
  exact List.mem_cons_of_mem _ (List.mem_flatMap.2 ⟨u, h, mem_nodes_self u⟩)

theorem size_eq (t : Tree) : t.size = t.nodes.length := by
  have hchildren : ∀ us : List {u // u ∈ t.children},
      us.foldr (fun u n => u.1.size + n) 1 = (us.flatMap fun u => u.1.nodes).length + 1 := by
    intro us
    induction us with
    | nil => rfl
    | cons u us ih =>
        rw [List.foldr_cons, ih, size_eq u.1, List.flatMap_cons, List.length_append]
        omega
  rw [size, nodes, List.length_cons]
  exact hchildren _
termination_by sizeOf t
decreasing_by exact sizeOf_lt_of_mem_children u.2

end Tree

open Pseudonym.Python.Tree

/-- All terms of some trees. -/
def terms (ts : List Tree) : List Tree := (ts.flatMap nodes).filter isTerm

@[simp] theorem terms_nil : terms [] = [] := rfl

theorem terms_append (ts us : List Tree) : terms (ts ++ us) = terms ts ++ terms us := by
  rw [terms, List.flatMap_append, List.filter_append]
  rfl

theorem terms_singleton (t : Tree) : terms [t] = [t].filter isTerm ++ terms t.children := by
  rw [terms, List.flatMap_singleton, nodes_eq, ← List.singleton_append, List.filter_append]
  rfl

theorem terms_flatMap {α : Type} (xs : List α) (f : α → List Tree) :
    terms (xs.flatMap f) = xs.flatMap fun x => terms (f x) := by
  induction xs with
  | nil => rfl
  | cons x xs ih => rw [List.flatMap_cons, List.flatMap_cons, terms_append, ih]

theorem terms_perm_of_perm {ts us : List Tree} (h : ts.Perm us) : (terms ts).Perm (terms us) :=
  (h.flatMap_right nodes).filter isTerm

/-! ## The parts of nodes that open scopes -/

/-- The roles that parts of a node play if it opens a scope. -/
def partRoles : Label → List Role
  | .functionDef .. => [.decorator, .default, .keywordDefault, .parameter, .returns, .body]
  | .classDef _ => [.decorator, .base, .keyword, .body]
  | .lambda => [.default, .keywordDefault, .parameter, .body]
  | .comprehension _ => [.generator, .key, .value, .element]
  | _ => []

/-- The roles of the parts of a part that is no term itself. -/
def pieceRoles? : Label → Role → Option (List Role)
  | .functionDef .., .parameter => some [.hint]
  | .classDef _, .keyword => some [.value]
  | .lambda, .parameter => some []
  | .comprehension _, .generator => some [.target, .iterable, .condition]
  | _, _ => none

/-- The parts of a node are those that the grammar gives to a node that opens a scope. -/
def ScopeParts (t : Tree) : Prop :=
  ∀ p ∈ t.parts, p.1 ∈ partRoles t.label ∧ p.2.isTerm = (pieceRoles? t.label p.1).isNone ∧
    ∀ roles ∈ pieceRoles? t.label p.1, ∀ q ∈ p.2.parts, q.1 ∈ roles

instance : DecidablePred ScopeParts := fun t =>
  inferInstanceAs <| Decidable <|
    ∀ p ∈ t.parts, p.1 ∈ partRoles t.label ∧ p.2.isTerm = (pieceRoles? t.label p.1).isNone ∧
      ∀ roles ∈ pieceRoles? t.label p.1, ∀ q ∈ p.2.parts, q.1 ∈ roles

/-- Every node that opens a scope has the parts that the grammar gives to it. -/
def Grammatical (t : Tree) : Prop := ∀ u ∈ t.nodes, u.opensScope = true → ScopeParts u

instance : DecidablePred Grammatical := fun t =>
  inferInstanceAs (Decidable (∀ u ∈ t.nodes, u.opensScope = true → ScopeParts u))

theorem Grammatical.of_mem_nodes {t u : Tree} (h : Grammatical t) (hu : u ∈ t.nodes) :
    Grammatical u :=
  fun v hv => h v (nodes_subset hu hv)

/-- The terms that a part stands for: itself or its own parts. -/
def firstTerms (t : Tree) : List Tree := if t.isTerm then [t] else t.children

/-- The first terms below a node. -/
def pieces (t : Tree) : List Tree := t.children.flatMap firstTerms

theorem terms_pieces (t : Tree) : terms (pieces t) = terms t.children := by
  have hfirst : ∀ u, terms (firstTerms u) = terms [u] := by
    intro u
    unfold firstTerms
    split
    · rfl
    · next h => rw [terms_singleton, List.filter_cons_of_neg h, List.filter_nil, List.nil_append]
  rw [pieces, terms_flatMap]
  simp only [hfirst]
  rw [← terms_flatMap, List.flatMap_singleton']

theorem mem_nodes_of_mem_pieces {t u : Tree} (h : u ∈ pieces t) : u ∈ t.nodes := by
  obtain ⟨c, hc, hu⟩ := List.mem_flatMap.1 h
  have hct := mem_nodes_of_mem_children hc
  unfold firstTerms at hu
  split at hu
  · rwa [List.mem_singleton.1 hu]
  · exact nodes_subset hct (mem_nodes_of_mem_children hu)

/-- Parts sorted by their roles are all parts. -/
theorem perm_byRole (roles : List Role) : ∀ ps : List (Role × Tree), roles.Nodup →
    (∀ p ∈ ps, p.1 ∈ roles) → (roles.flatMap fun r => ps.filter (·.1 = r)).Perm ps := by
  induction roles with
  | nil =>
      intro ps _ h
      have hnil : ps = [] := List.eq_nil_iff_forall_not_mem.2 fun p hp => by simpa using h p hp
      rw [hnil]
      rfl
  | cons role roles ih =>
      intro ps hnd h
      obtain ⟨hrole, hnd⟩ := List.nodup_cons.1 hnd
      have hothers : (roles.flatMap fun r => ps.filter (·.1 = r)) =
          roles.flatMap fun r => (ps.filter fun p => !decide (p.1 = role)).filter (·.1 = r) := by
        refine List.flatMap_congr fun r hr => ?_
        rw [List.filter_filter]
        refine List.filter_congr fun p _ => ?_
        have hne : r ≠ role := fun heq => hrole (heq ▸ hr)
        by_cases hp : p.1 = r <;> simp [hp, hne]
      have hrest := ih (ps.filter fun p => !decide (p.1 = role)) hnd fun p hp => by
        obtain ⟨hps, hne⟩ := List.mem_filter.1 hp
        exact (List.mem_cons.1 (h p hps)).resolve_left (by simpa using hne)
      rw [List.flatMap_cons, hothers]
      exact (hrest.append_left _).trans (List.filter_append_perm (fun p => p.1 = role) ps)

theorem children_perm_byRole {t : Tree} {roles : List Role} (hnd : roles.Nodup)
    (h : ∀ p ∈ t.parts, p.1 ∈ roles) : (roles.flatMap t.all).Perm t.children := by
  have hparts := (perm_byRole roles t.parts hnd h).map (·.2)
  rwa [List.map_flatMap] at hparts

theorem partRoles_nodup (l : Label) : (partRoles l).Nodup := by
  unfold partRoles
  split <;> decide

theorem nodup_of_pieceRoles? {l : Label} {role : Role} {roles : List Role}
    (h : pieceRoles? l role = some roles) : roles.Nodup := by
  unfold pieceRoles? at h
  split at h <;> first | (cases h; decide) | cases h

theorem mem_parts_of_mem_all {t u : Tree} {role : Role} (h : u ∈ t.all role) :
    (role, u) ∈ t.parts := by
  obtain ⟨p, hp, rfl⟩ := List.mem_map.1 h
  obtain ⟨hparts, hrole⟩ := List.mem_filter.1 hp
  rwa [← of_decide_eq_true hrole]

/-- The first iterable of a comprehension is evaluated around it, everything else of its clauses in
it. -/
theorem clauses_perm : ∀ cs : List Tree,
    ((cs.take 1).flatMap (·.all .iterable) ++
      ((cs.take 1).flatMap (fun c => c.all .target ++ c.all .condition) ++
        (cs.drop 1).flatMap fun c => c.all .target ++ (c.all .iterable ++ c.all .condition))).Perm
      (cs.flatMap fun c => c.all .target ++ (c.all .iterable ++ c.all .condition))
  | [] => by simp
  | c :: cs => by
      simp only [List.take_succ_cons, List.take_zero, List.drop_succ_cons, List.drop_zero,
        List.flatMap_cons, List.flatMap_nil, List.append_nil, List.append_assoc]
      exact List.perm_append_comm_assoc _ _ _

namespace ScopeParts

variable {t : Tree} (h : ScopeParts t)
include h

theorem pieces_perm_byRole :
    ((partRoles t.label).flatMap fun r => (t.all r).flatMap firstTerms).Perm (pieces t) := by
  rw [← List.flatMap_assoc]
  exact (children_perm_byRole (partRoles_nodup _) fun p hp => (h p hp).1).flatMap_right firstTerms

theorem all_eq_nil (role : Role) (hrole : role ∉ partRoles t.label) : t.all role = [] :=
  List.eq_nil_iff_forall_not_mem.2 fun _ hu => hrole (h _ (mem_parts_of_mem_all hu)).1

/-- Parts that are terms. -/
theorem flatMap_firstTerms (role : Role) (hrole : pieceRoles? t.label role = none) :
    (t.all role).flatMap firstTerms = t.all role := by
  have hterm : ∀ u ∈ t.all role, firstTerms u = [u] := by
    intro u hu
    have hpart := (h _ (mem_parts_of_mem_all hu)).2.1
    rw [hrole] at hpart
    exact if_pos hpart
  rw [List.flatMap_congr hterm, List.flatMap_singleton']

/-- Parts that hold terms together. -/
theorem flatMap_firstTerms_perm (role : Role) {roles : List Role}
    (hrole : pieceRoles? t.label role = some roles) :
    ((t.all role).flatMap fun u => roles.flatMap u.all).Perm
      ((t.all role).flatMap firstTerms) := by
  refine List.Perm.flatMap_left _ fun u hu => ?_
  obtain ⟨-, hterm, hroles⟩ := h _ (mem_parts_of_mem_all hu)
  rw [hrole] at hterm
  rw [firstTerms, hterm]
  exact children_perm_byRole (nodup_of_pieceRoles? hrole) (hroles roles hrole)

/-- The outer and the inner parts of a node that opens a scope are all its parts. -/
theorem pieces_perm (hscope : t.opensScope = true) :
    (t.outerParts ++ t.innerParts).Perm (pieces t) := by
  refine List.Perm.trans ?_ h.pieces_perm_byRole
  cases t with
  | node l range ps =>
    cases l with
    | functionDef name isAsync =>
        have hheld := h.flatMap_firstTerms_perm .parameter rfl
        simp only [List.flatMap_singleton] at hheld
        simp only [outerParts, innerParts, label, partRoles, List.flatMap_cons, List.flatMap_nil,
          List.append_assoc, List.append_nil, h.flatMap_firstTerms .decorator rfl,
          h.flatMap_firstTerms .default rfl, h.flatMap_firstTerms .keywordDefault rfl,
          h.flatMap_firstTerms .returns rfl, h.flatMap_firstTerms .body rfl]
        exact ((((hheld.append_right _).append_left _).append_left _).append_left _)
    | classDef name =>
        have hheld := h.flatMap_firstTerms_perm .keyword rfl
        simp only [List.flatMap_singleton] at hheld
        simp only [outerParts, innerParts, label, partRoles, List.flatMap_cons, List.flatMap_nil,
          List.append_assoc, List.append_nil, h.flatMap_firstTerms .decorator rfl,
          h.flatMap_firstTerms .base rfl, h.flatMap_firstTerms .body rfl]
        exact ((hheld.append_right _).append_left _).append_left _
    | lambda =>
        have hheld := (h.flatMap_firstTerms_perm .parameter rfl).symm
        simp only [List.flatMap_nil] at hheld
        have hnone := (hheld.trans (by simp)).eq_nil
        simp only [outerParts, innerParts, label, partRoles, List.flatMap_cons, List.flatMap_nil,
          List.append_assoc, List.append_nil, h.flatMap_firstTerms .default rfl,
          h.flatMap_firstTerms .keywordDefault rfl, h.flatMap_firstTerms .body rfl, hnone,
          List.nil_append]
        rfl
    | comprehension kind =>
        have hheld := h.flatMap_firstTerms_perm .generator rfl
        simp only [List.flatMap_cons, List.flatMap_nil, List.append_nil] at hheld
        simp only [outerParts, innerParts, label, partRoles, List.flatMap_cons, List.flatMap_nil,
          List.append_assoc, List.append_nil, h.flatMap_firstTerms .key rfl,
          h.flatMap_firstTerms .value rfl, h.flatMap_firstTerms .element rfl]
        refine List.Perm.trans ?_ (hheld.append_right _)
        simpa only [List.append_assoc] using (clauses_perm _).append_right _
    | _ => cases hscope

end ScopeParts

/-! ## Walks -/

/-- The nodes that a walk meets. -/
def met (ts : List Tree) : List Tree := (walkAll false ts).map (·.node)

/-- The nodes with scopes of their own that a walk meets. -/
def metScopes (ts : List Tree) : List Tree := (met ts).filter opensScope

theorem walk_eq (inText : Bool) (t : Tree) :
    walk inText t =
      ⟨t, inText⟩ :: walkAll (inText || t.label = .joinedText) t.nextParts := by
  rw [walk]
  simp [walkAll]

/-- Formatted strings do not change where a walk leads. -/
theorem map_node_walk (inText : Bool) (t : Tree) :
    (walk inText t).map (·.node) = (walk false t).map (·.node) := by
  have hnext : ∀ (b c : Bool), ∀ u ∈ t.nextParts,
      (walk b u).map (·.node) = (walk c u).map (·.node) := by
    intro b c u hu
    rw [map_node_walk b u, map_node_walk c u]
  rw [walk_eq, walk_eq, List.map_cons, List.map_cons, walkAll, walkAll, List.map_flatMap,
    List.map_flatMap, List.flatMap_congr (hnext _ _)]
termination_by sizeOf t
decreasing_by all_goals exact sizeOf_lt_of_mem_nextParts hu

theorem map_node_walkAll (inText : Bool) (ts : List Tree) :
    (walkAll inText ts).map (·.node) = met ts := by
  rw [met, walkAll, walkAll, List.map_flatMap, List.map_flatMap]
  exact List.flatMap_congr fun t _ => map_node_walk inText t

theorem met_append (ts us : List Tree) : met (ts ++ us) = met ts ++ met us := by
  rw [met, walkAll, List.flatMap_append, List.map_append]
  rfl

theorem met_singleton (t : Tree) : met [t] = t :: met t.nextParts := by
  rw [met, walkAll, List.flatMap_singleton, walk_eq, List.map_cons, map_node_walkAll]

theorem metScopes_append (ts us : List Tree) :
    metScopes (ts ++ us) = metScopes ts ++ metScopes us := by
  rw [metScopes, met_append, List.filter_append]
  rfl

theorem metScopes_singleton (t : Tree) :
    metScopes [t] = [t].filter opensScope ++ metScopes t.nextParts := by
  rw [metScopes, met_singleton, ← List.singleton_append, List.filter_append]
  rfl

/-- The terms of some trees are those that a walk meets and those that it leaves over. -/
def Covered (ts : List Tree) : Prop :=
  (terms ts).Perm ((met ts).filter isTerm ++ terms ((metScopes ts).flatMap innerParts))

theorem Covered.append {ts us : List Tree} (ht : Covered ts) (hu : Covered us) :
    Covered (ts ++ us) := by
  unfold Covered at *
  rw [terms_append, met_append, metScopes_append, List.filter_append, List.flatMap_append,
    terms_append]
  refine (ht.append hu).trans ?_
  simp only [List.append_assoc]
  exact (List.perm_append_comm_assoc _ _ _).append_left _

theorem Covered.of_forall : ∀ {ts : List Tree}, (∀ t ∈ ts, Covered [t]) → Covered ts
  | [], _ => List.Perm.refl _
  | t :: ts, h => by
      have hrest : Covered ts := .of_forall fun u hu => h u (List.mem_cons_of_mem _ hu)
      exact (h t List.mem_cons_self).append hrest

/-- A node is covered if the parts are that the walk goes on to. -/
theorem Covered.of_nextParts {t : Tree} (hparts : t.opensScope = true → ScopeParts t)
    (h : Covered t.nextParts) : Covered [t] := by
  have hmet : (met [t]).filter isTerm = [t].filter isTerm ++ (met t.nextParts).filter isTerm := by
    rw [met_singleton, ← List.singleton_append, List.filter_append]
  unfold Covered at *
  rw [hmet, metScopes_singleton, terms_singleton, List.flatMap_append, terms_append,
    List.append_assoc]
  refine List.Perm.append_left _ ?_
  by_cases hscope : t.opensScope = true
  · -- The walk enters the outer parts and leaves the inner ones over.
    have hnext : t.nextParts = t.outerParts := if_pos hscope
    rw [hnext] at h ⊢
    rw [List.filter_cons_of_pos hscope, List.filter_nil, List.flatMap_singleton, ← terms_pieces]
    have hpieces := terms_perm_of_perm ((hparts hscope).pieces_perm hscope).symm
    rw [terms_append] at hpieces
    refine hpieces.trans ((h.append_right _).trans ?_)
    rw [List.append_assoc]
    exact List.perm_append_comm.append_left _
  · have hnext : t.nextParts = t.children := if_neg hscope
    rw [hnext] at h ⊢
    rw [List.filter_cons_of_neg hscope, List.filter_nil, List.flatMap_nil, terms_nil,
      List.nil_append]
    exact h

/-- The parts that a walk goes on to are nodes of the tree. -/
theorem mem_nodes_of_mem_nextParts {t u : Tree} (hparts : t.opensScope = true → ScopeParts t)
    (h : u ∈ t.nextParts) : u ∈ t.nodes := by
  unfold nextParts at h
  split at h
  · next hscope =>
      have hpieces := ((hparts hscope).pieces_perm hscope).subset (List.mem_append_left _ h)
      exact mem_nodes_of_mem_pieces hpieces
  · exact mem_nodes_of_mem_children h

theorem covered_singleton {t : Tree} (h : Grammatical t) : Covered [t] := by
  have hparts := h t (mem_nodes_self t)
  refine .of_nextParts hparts (.of_forall fun u hu => ?_)
  exact covered_singleton (h.of_mem_nodes (mem_nodes_of_mem_nextParts hparts hu))
termination_by sizeOf t
decreasing_by exact sizeOf_lt_of_mem_nextParts hu

/-- **A walk and the walks that it leaves over meet every term once.** -/
theorem covered {ts : List Tree} (h : ∀ t ∈ ts, Grammatical t) : Covered ts :=
  .of_forall fun t ht => covered_singleton (h t ht)

/-! ## What a walk leaves over -/

theorem mem_met {ts : List Tree} {t : Tree} : t ∈ met ts ↔ ∃ r ∈ ts, t ∈ met [r] := by
  simp only [met, walkAll, List.map_flatMap, List.mem_flatMap, List.mem_singleton, exists_eq_left]

theorem subset_met (ts : List Tree) : ts ⊆ met ts := by
  intro t ht
  refine mem_met.2 ⟨t, ht, ?_⟩
  rw [met_singleton]
  exact List.mem_cons_self

theorem met_singleton_nextParts {r t u : Tree} (ht : t ∈ met [r]) (hu : u ∈ t.nextParts) :
    u ∈ met [r] := by
  rw [met_singleton] at ht ⊢
  refine List.mem_cons_of_mem _ ?_
  rcases List.mem_cons.1 ht with rfl | ht
  · exact subset_met _ hu
  · obtain ⟨v, hv, htv⟩ := mem_met.1 ht
    exact mem_met.2 ⟨v, hv, met_singleton_nextParts htv hu⟩
termination_by sizeOf r
decreasing_by exact sizeOf_lt_of_mem_nextParts hv

/-- A walk goes on to the parts of every node that it meets. -/
theorem met_nextParts {ts : List Tree} {t u : Tree} (ht : t ∈ met ts) (hu : u ∈ t.nextParts) :
    u ∈ met ts := by
  obtain ⟨r, hr, htr⟩ := mem_met.1 ht
  exact mem_met.2 ⟨r, hr, met_singleton_nextParts htr hu⟩

/-- The nodes with scopes of their own that a walk meets are nodes of the trees. -/
theorem mem_nodes_of_mem_metScopes {ts : List Tree} (h : ∀ t ∈ ts, Grammatical t) {n : Tree}
    (hn : n ∈ metScopes ts) : ∃ t ∈ ts, n ∈ t.nodes := by
  obtain ⟨hmet, hscope⟩ := List.mem_filter.1 hn
  have hterm : n ∈ (met ts).filter isTerm :=
    List.mem_filter.2 ⟨hmet, isTerm_of_opensScope hscope⟩
  have hterms : n ∈ terms ts := (covered h).symm.subset (List.mem_append_left _ hterm)
  exact List.mem_flatMap.1 (List.mem_filter.1 hterms).1

theorem scopeParts_of_mem_metScopes {ts : List Tree} (h : ∀ t ∈ ts, Grammatical t) {n : Tree}
    (hn : n ∈ metScopes ts) : ScopeParts n := by
  obtain ⟨t, ht, hnt⟩ := mem_nodes_of_mem_metScopes h hn
  exact h t ht n hnt (List.mem_filter.1 hn).2

/-- The trees that a walk leaves over are grammatical if those are that it started from. -/
theorem grammatical_innerParts {ts : List Tree} (h : ∀ t ∈ ts, Grammatical t) :
    ∀ u ∈ (metScopes ts).flatMap innerParts, Grammatical u := by
  intro u hu
  obtain ⟨n, hn, hun⟩ := List.mem_flatMap.1 hu
  obtain ⟨t, ht, hnt⟩ := mem_nodes_of_mem_metScopes h hn
  have hpieces := (scopeParts_of_mem_metScopes h hn).pieces_perm (List.mem_filter.1 hn).2
  have hu : u ∈ pieces n := hpieces.subset (List.mem_append_right _ hun)
  exact ((h t ht).of_mem_nodes hnt).of_mem_nodes (mem_nodes_of_mem_pieces hu)

/-- The count of nodes with scopes of their own. -/
def scopeCount (ts : List Tree) : Nat := (terms ts).countP opensScope

theorem scopeCount_append (ts us : List Tree) :
    scopeCount (ts ++ us) = scopeCount ts + scopeCount us := by
  rw [scopeCount, terms_append, List.countP_append]
  rfl

/-- A walk takes the nodes that it meets off the count. -/
theorem scopeCount_eq {ts : List Tree} (h : ∀ t ∈ ts, Grammatical t) :
    scopeCount ts = (metScopes ts).length + scopeCount ((metScopes ts).flatMap innerParts) := by
  have hmet : ((met ts).filter isTerm).countP opensScope = (metScopes ts).length := by
    rw [List.countP_filter, metScopes, ← List.countP_eq_length_filter]
    refine List.countP_congr fun t _ => ?_
    simpa using isTerm_of_opensScope
  rw [scopeCount, (covered h).countP_eq, List.countP_append, hmet]
  rfl

theorem scopeCount_le (t : Tree) : scopeCount [t] ≤ t.size := by
  rw [size_eq, scopeCount, terms, List.flatMap_singleton]
  exact Nat.le_trans List.countP_le_length (List.length_filter_le _ _)

/-! ## Nodes of all kinds -/

theorem subperm_flatMap {α β : Type} {l l' : List α} (h : l.Subperm l') (f : α → List β) :
    (l.flatMap f).Subperm (l'.flatMap f) := by
  obtain ⟨k, hperm, hsub⟩ := h
  exact ⟨k.flatMap f, hperm.flatMap_right f, hsub.flatMap f⟩

theorem nodup_of_subperm {α : Type} {l l' : List α} (h : l.Subperm l') (hnodup : l'.Nodup) :
    l.Nodup := by
  obtain ⟨k, hperm, hsub⟩ := h
  exact hperm.nodup_iff.1 (hnodup.sublist hsub)

/-- What a walk meets and what it leaves over are nodes of the trees, each at most once. -/
def MetOnce (ts : List Tree) : Prop :=
  (met ts ++ ((metScopes ts).flatMap innerParts).flatMap nodes).Subperm (ts.flatMap nodes)

theorem MetOnce.append {ts us : List Tree} (ht : MetOnce ts) (hu : MetOnce us) :
    MetOnce (ts ++ us) := by
  unfold MetOnce at *
  rw [met_append, metScopes_append, List.flatMap_append, List.flatMap_append, List.flatMap_append]
  refine List.Subperm.trans (List.Perm.subperm ?_) (ht.append hu)
  simp only [List.append_assoc]
  exact (List.perm_append_comm_assoc _ _ _).append_left _

theorem MetOnce.of_forall : ∀ {ts : List Tree}, (∀ t ∈ ts, MetOnce [t]) → MetOnce ts
  | [], _ => List.Subperm.refl _
  | t :: ts, h => by
      have hrest : MetOnce ts := .of_forall fun u hu => h u (List.mem_cons_of_mem _ hu)
      exact (h t List.mem_cons_self).append hrest

/-- The nodes of the pieces of a node stand below it. -/
theorem nodes_pieces_sublist (t : Tree) :
    List.Sublist ((pieces t).flatMap nodes) (t.children.flatMap nodes) := by
  rw [pieces, List.flatMap_assoc]
  refine List.Sublist.flatMap_right _ fun u _ => ?_
  unfold firstTerms
  split
  · rw [List.flatMap_singleton]
  · rw [nodes_eq u]
    exact List.sublist_cons_self _ _

theorem MetOnce.of_nextParts {t : Tree} (hparts : t.opensScope = true → ScopeParts t)
    (h : MetOnce t.nextParts) : MetOnce [t] := by
  unfold MetOnce at *
  rw [met_singleton, metScopes_singleton, List.flatMap_append, List.flatMap_append,
    List.flatMap_singleton, nodes_eq, List.cons_append, List.subperm_cons]
  by_cases hscope : t.opensScope = true
  · -- The walk enters the outer parts and leaves the inner ones over.
    have hnext : t.nextParts = t.outerParts := if_pos hscope
    rw [hnext] at h ⊢
    rw [List.filter_cons_of_pos hscope, List.filter_nil, List.flatMap_singleton]
    have hall := h.append (List.Subperm.refl (t.innerParts.flatMap nodes))
    rw [← List.flatMap_append, List.append_assoc] at hall
    have hpieces := ((hparts hscope).pieces_perm hscope).flatMap_right nodes
    refine List.Subperm.trans (List.Perm.subperm ?_)
      (hall.trans (hpieces.subperm.trans (nodes_pieces_sublist t).subperm))
    exact List.perm_append_comm.append_left _
  · have hnext : t.nextParts = t.children := if_neg hscope
    rw [hnext] at h ⊢
    rw [List.filter_cons_of_neg hscope, List.filter_nil, List.flatMap_nil, List.flatMap_nil,
      List.nil_append]
    exact h

theorem metOnce_singleton {t : Tree} (h : Grammatical t) : MetOnce [t] := by
  have hparts := h t (mem_nodes_self t)
  refine .of_nextParts hparts (.of_forall fun u hu => ?_)
  exact metOnce_singleton (h.of_mem_nodes (mem_nodes_of_mem_nextParts hparts hu))
termination_by sizeOf t
decreasing_by exact sizeOf_lt_of_mem_nextParts hu

/-- **A walk and the walks that it leaves over meet every node at most once.** -/
theorem metOnce {ts : List Tree} (h : ∀ t ∈ ts, Grammatical t) : MetOnce ts :=
  .of_forall fun t ht => metOnce_singleton (h t ht)

/-! ## What is evaluated around a scope -/

/-- The parts of a node that are evaluated in the scope around it, by their roles: decorators,
defaults, type hints, bases, the values of keywords and the first iterable. -/
def evaluatedAround (t : Tree) : List Tree :=
  t.all .decorator ++ t.all .default ++ t.all .keywordDefault ++
    (t.all .parameter).flatMap (·.all .hint) ++ t.all .returns ++ t.all .base ++
    (t.all .keyword).flatMap (·.all .value) ++ ((t.all .generator).take 1).flatMap (·.all .iterable)

theorem ScopeParts.outerParts_eq {t : Tree} (h : ScopeParts t) (hscope : t.opensScope = true) :
    t.outerParts = evaluatedAround t := by
  cases t with
  | node l range ps =>
    cases l with
    | functionDef name isAsync =>
        simp [evaluatedAround, outerParts, label, h.all_eq_nil, partRoles]
    | classDef name => simp [evaluatedAround, outerParts, label, h.all_eq_nil, partRoles]
    | lambda =>
        -- The parameters of an anonymous function have no type hints.
        have hhints : ((node .lambda range ps).all .parameter).flatMap (·.all .hint) = [] := by
          refine List.flatMap_eq_nil_iff.2 fun u hu => ?_
          have hroles := (h _ (mem_parts_of_mem_all hu)).2.2 [] rfl
          refine List.eq_nil_iff_forall_not_mem.2 fun v hv => ?_
          exact List.not_mem_nil (hroles _ (mem_parts_of_mem_all hv))
        simp [evaluatedAround, outerParts, label, h.all_eq_nil, partRoles, hhints]
    | comprehension kind => simp [evaluatedAround, outerParts, label, h.all_eq_nil, partRoles]
    | _ => cases hscope

end Pseudonym.Python
