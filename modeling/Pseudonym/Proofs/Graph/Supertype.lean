import Pseudonym.Proofs.Graph.Override

/-!
# Class hierarchies

What the edges between classes say: the classes above and below a class, the members of a class, and
hierarchies without cycles. Symbols that are added later are out of reach of older classes
(`allSupertypes_addSymbol`).
-/

namespace Pseudonym.Graph

open Relation

variable {g : Graph}

/-! ## Classes and their members -/

theorem mem_supertypes {t u : SymbolId} : u ∈ g.supertypes t ↔ (t, u) ∈ g.supertypeEdges := by
  simp only [supertypes, List.mem_map, List.mem_filter, decide_eq_true_eq]
  constructor
  · rintro ⟨⟨a, b⟩, ⟨hab, rfl⟩, rfl⟩
    exact hab
  · exact fun h => ⟨(t, u), ⟨h, rfl⟩, rfl⟩

theorem mem_subtypes {t u : SymbolId} : u ∈ g.subtypes t ↔ (u, t) ∈ g.supertypeEdges := by
  simp only [subtypes, List.mem_map, List.mem_filter, decide_eq_true_eq]
  constructor
  · rintro ⟨⟨a, b⟩, ⟨hab, rfl⟩, rfl⟩
    exact hab
  · exact fun h => ⟨(u, t), ⟨h, rfl⟩, rfl⟩

theorem WellFormed.supertypes_subset (hg : g.WellFormed) (t : SymbolId) :
    g.supertypes t ⊆ g.symbolIds :=
  fun _ h => (hg.supertype_mem _ (mem_supertypes.1 h)).2

theorem WellFormed.subtypes_subset (hg : g.WellFormed) (t : SymbolId) :
    g.subtypes t ⊆ g.symbolIds :=
  fun _ h => (hg.supertype_mem _ (mem_subtypes.1 h)).1

theorem edge_subtypes : Edge g.subtypes = Function.swap (Edge g.supertypes) := by
  funext t u
  exact propext (mem_subtypes.trans mem_supertypes.symm)

/-- Only registered types have supertypes. -/
theorem mem_symbolIds_of_mem_allSupertypes (hg : g.WellFormed) {t u : SymbolId}
    (h : u ∈ g.allSupertypes t) : t ∈ g.symbolIds ∧ u ∈ g.symbolIds := by
  refine ⟨?_, List.erase_subset (reach_subset h)⟩
  obtain ⟨q, hq, -⟩ := mem_reach.1 h
  exact (hg.supertype_mem _ (mem_supertypes.1 hq)).1

theorem mem_allSupertypes (hg : g.WellFormed) {t u : SymbolId} (ht : t ∈ g.symbolIds) :
    u ∈ g.allSupertypes t ↔ u ≠ t ∧ TransGen (Edge g.supertypes) t u :=
  mem_closure hg hg.supertypes_subset ht

/-- Subtypes are supertypes read backwards. -/
theorem mem_allSubtypes_of_mem_allSupertypes (hg : g.WellFormed) {t u : SymbolId}
    (h : u ∈ g.allSupertypes t) : t ∈ g.allSubtypes u := by
  obtain ⟨ht, hu⟩ := mem_symbolIds_of_mem_allSupertypes hg h
  obtain ⟨hne, htu⟩ := (mem_allSupertypes hg ht).1 h
  rw [allSubtypes, mem_closure hg hg.subtypes_subset hu, edge_subtypes, transGen_swap]
  exact ⟨Ne.symm hne, htu⟩

theorem mem_members {t : SymbolId} {m : Symbol} :
    m ∈ g.members t ↔ m ∈ g.symbols ∧ ∃ c, g.ownedScope t = some c ∧ m.scope = some c.id := by
  unfold members
  cases g.ownedScope t with
  | none => simp
  | some c => simp [mem_membersOfScope]

theorem ownedScope_eq_some {t : SymbolId} {c : Scope} (h : g.ownedScope t = some c) :
    c ∈ g.scopes ∧ c.owner = some t := by
  simpa using List.mem_filter.1 (List.mem_of_getLast? h)

theorem enclosing_eq_some {s o : Symbol} : g.enclosing s = some o ↔
    ∃ id c owner, s.scope = some id ∧ g.scope? id = some c ∧ c.owner = some owner ∧
      g.symbol? owner = some o := by
  simp only [enclosing, Option.bind_eq_bind, Option.bind_eq_some_iff, exists_and_left]

theorem declaringType_eq_some {s o : Symbol} : g.declaringType s = some o ↔
    ∃ id c owner, s.scope = some id ∧ g.scope? id = some c ∧ c.kind = .type ∧
      c.owner = some owner ∧ g.symbol? owner = some o := by
  simp only [declaringType, Option.bind_eq_bind, Option.bind_eq_some_iff]
  constructor
  · rintro ⟨id, hid, c, hc, ho⟩
    split at ho
    · next hkind =>
        obtain ⟨owner, howner, ho⟩ := Option.bind_eq_some_iff.1 ho
        exact ⟨id, c, owner, hid, hc, hkind, howner, ho⟩
    · cases ho
  · rintro ⟨id, c, owner, hid, hc, hkind, howner, ho⟩
    exact ⟨id, hid, c, hc, by rw [if_pos hkind, howner, Option.bind_some, ho]⟩

/-- What declares a member directly is the class that declares it. -/
theorem enclosing_of_declaringType {s o : Symbol} (h : g.declaringType s = some o) :
    g.enclosing s = some o := by
  obtain ⟨id, c, owner, hid, hc, -, howner, ho⟩ := declaringType_eq_some.1 h
  exact enclosing_eq_some.2 ⟨id, c, owner, hid, hc, howner, ho⟩

theorem mem_of_enclosing (hg : g.WellFormed) {s o : Symbol} (h : g.enclosing s = some o) :
    o ∈ g.symbols := by
  obtain ⟨-, -, owner, -, -, -, ho⟩ := enclosing_eq_some.1 h
  exact (hg.symbol?_eq_some.1 ho).1

/-- The class that declares a member is the one that has it. -/
theorem declaringType_of_mem_members (hg : g.WellFormed) {t : SymbolId} {m : Symbol}
    (hm : m ∈ g.members t) {c : Scope} (hc : g.ownedScope t = some c) :
    g.declaringType m = if c.kind = .type then g.symbol? t else none := by
  obtain ⟨-, d, hd, hscope⟩ := mem_members.1 hm
  obtain rfl : c = d := Option.some.inj (hc.symm.trans hd)
  obtain ⟨hmem, howner⟩ := ownedScope_eq_some hc
  simp [declaringType, hscope, hg.scope?_id hmem, howner]

theorem id_of_declaringType (hg : g.WellFormed) {t : SymbolId} {m : Symbol} (hm : m ∈ g.members t)
    {owner : Symbol} (h : g.declaringType m = some owner) : owner.id = t := by
  obtain ⟨-, c, hc, -⟩ := mem_members.1 hm
  rw [declaringType_of_mem_members hg hm hc] at h
  split at h
  · exact (hg.symbol?_eq_some.1 h).2
  · cases h

/-! ## Derivations -/

/-- A class is derived from another one directly. -/
def Derives (g : Graph) (t u : SymbolId) : Prop := u ∈ g.supertypes t

/-- No class is derived from itself, directly or through others. -/
def DerivesAcyclic (g : Graph) : Prop := ∀ t, ¬ TransGen g.Derives t t

/-- The classes above a class are the other classes that derivations lead to. -/
theorem mem_allSupertypes_iff (hg : g.WellFormed) {t u : SymbolId} :
    u ∈ g.allSupertypes t ↔ u ≠ t ∧ TransGen g.Derives t u := by
  constructor
  · exact fun h => (mem_allSupertypes hg (mem_symbolIds_of_mem_allSupertypes hg h).1).1 h
  · rintro ⟨hne, h⟩
    obtain ⟨v, hv, -⟩ := TransGen.head'_iff.1 h
    exact (mem_allSupertypes hg (hg.supertype_mem _ (mem_supertypes.1 hv)).1).2 ⟨hne, h⟩

/-- Where every derivation goes down in some order, there is no cycle. -/
theorem derivesAcyclic_of_rank (rank : SymbolId → Nat)
    (h : ∀ e ∈ g.supertypeEdges, rank e.2 < rank e.1) : g.DerivesAcyclic := by
  have hdown : ∀ {t u}, TransGen g.Derives t u → rank u < rank t := by
    intro t u htu
    induction htu with
    | single hstep => exact h _ (mem_supertypes.1 hstep)
    | tail _ hstep ih => exact (h _ (mem_supertypes.1 hstep)).trans ih
  exact fun t ht => (hdown ht).false

/-! ## Graphs with the same classes -/

theorem allSupertypes_congr {g g' : Graph} (hids : g'.symbolIds = g.symbolIds)
    (hedges : g'.supertypeEdges = g.supertypeEdges) : g'.allSupertypes = g.allSupertypes := by
  have hnext : g'.supertypes = g.supertypes := by
    funext t
    rw [supertypes, hedges, supertypes]
  funext t
  rw [allSupertypes, allSupertypes, closure, closure, hids, hnext]

/-- A new symbol is out of reach of the supertypes of older ones. -/
theorem allSupertypes_addSymbol (hg : g.WellFormed) {s : Symbol} (hs : s.id ∉ g.symbolIds)
    (naming : List SymbolId) (t : SymbolId) :
    allSupertypes { g with symbols := g.symbols ++ [s], naming := naming } t =
      g.allSupertypes t := by
  have hids : symbolIds { g with symbols := g.symbols ++ [s], naming := naming } =
      g.symbolIds ++ [s.id] := by simp [symbolIds]
  have hsame : ∀ unseen : List SymbolId, s.id ∉ unseen →
      reach g.supertypes (unseen ++ [s.id]) (g.supertypes t) =
        reach g.supertypes unseen (g.supertypes t) := by
    intro unseen hunseen
    have hout : s.id ∉ reach g.supertypes (unseen ++ [s.id]) (g.supertypes t) := fun hmem => by
      obtain ⟨q, hq, -, hpath⟩ := mem_reach.1 hmem
      rcases ReflTransGen.cases_tail hpath with heq | ⟨_, -, hstep, -⟩
      · exact hs (heq ▸ hg.supertypes_subset t hq)
      · exact hs (hg.supertypes_subset _ hstep)
    have herase := reach_erase hout
    rwa [List.erase_append_right _ hunseen, List.erase_cons_head, List.append_nil, eq_comm]
      at herase
  unfold allSupertypes closure
  rw [hids]
  by_cases ht : t ∈ g.symbolIds
  · rw [List.erase_append_left _ ht]
    exact hsame _ fun hmem => hs (List.erase_subset hmem)
  · -- What is not registered has no supertypes.
    have hnone : g.supertypes t = [] := List.eq_nil_iff_forall_not_mem.2 fun u hu =>
      ht (hg.supertype_mem _ (mem_supertypes.1 hu)).1
    change reach g.supertypes _ (g.supertypes t) = _
    rw [hnone, reach_nil, reach_nil]

end Pseudonym.Graph
