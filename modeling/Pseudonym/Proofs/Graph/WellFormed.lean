import Mathlib.Data.List.Nodup
import Mathlib.Data.List.Perm.Basic
import Pseudonym.Graph.Hierarchy
import Pseudonym.Proofs.Graph.Reach

/-!
# Well-formed graphs

Registration refuses an id that is taken, relations join registered symbols, and answers about root
declarations are forgotten when a relation is added. `Graph.WellFormed` collects what follows from
this: ids are unique, the naming order lists every symbol once, edges join registered symbols and
every remembered answer is the right one. The empty graph is well formed and every operation on
graphs keeps it so.

In a well-formed graph the look-ups by id, by scope and by name are exact, which the membership
lemmas at the top say; later proofs use these and do not unfold a look-up.
-/

namespace Pseudonym

/-- In a list with unique keys, the first entry of a key is the only one. -/
theorem find?_key_eq_some {β γ : Type} [DecidableEq γ] {key : β → γ} {xs : List β}
    (h : (xs.map key).Nodup) {k : γ} {x : β} :
    xs.find? (fun y => decide (key y = k)) = some x ↔ x ∈ xs ∧ key x = k := by
  induction xs with
  | nil => simp
  | cons y ys ih =>
      rw [List.map_cons, List.nodup_cons] at h
      by_cases hy : key y = k
      · rw [List.find?_cons_of_pos (by simpa using hy)]
        constructor
        · intro hx
          obtain rfl : y = x := Option.some.inj hx
          exact ⟨List.mem_cons_self, hy⟩
        · rintro ⟨hx, hk⟩
          rcases List.mem_cons.1 hx with rfl | hx
          · rfl
          · exact absurd (List.mem_map.2 ⟨x, hx, hk.trans hy.symm⟩) h.1
      · rw [List.find?_cons_of_neg (by simpa using hy), ih h.2, List.mem_cons]
        constructor
        · exact fun hx => ⟨Or.inr hx.1, hx.2⟩
        · rintro ⟨rfl | hx, hk⟩
          · exact absurd hk hy
          · exact ⟨hx, hk⟩

namespace Graph

/-- What registration guarantees of a graph. -/
structure WellFormed (g : Graph) : Prop where
  symbolIds_nodup : g.symbolIds.Nodup
  scopeIds_nodup : g.scopeIds.Nodup
  /-- The naming order lists every symbol once. -/
  naming_perm : g.naming.Perm g.symbolIds
  supertype_mem : ∀ e ∈ g.supertypeEdges, e.1 ∈ g.symbolIds ∧ e.2 ∈ g.symbolIds
  override_mem : ∀ e ∈ g.overrideEdges, e.1 ∈ g.symbolIds ∧ e.2 ∈ g.symbolIds
  /-- What is remembered about roots is what a search would find. -/
  cache_exact : ∀ e ∈ g.rootCache, e.1 ∈ g.symbolIds ∧ e.2 = g.findRoots e.1

instance (g : Graph) : Decidable g.WellFormed :=
  decidable_of_iff
    (g.symbolIds.Nodup ∧ g.scopeIds.Nodup ∧ g.naming.Perm g.symbolIds ∧
      (∀ e ∈ g.supertypeEdges, e.1 ∈ g.symbolIds ∧ e.2 ∈ g.symbolIds) ∧
      (∀ e ∈ g.overrideEdges, e.1 ∈ g.symbolIds ∧ e.2 ∈ g.symbolIds) ∧
      ∀ e ∈ g.rootCache, e.1 ∈ g.symbolIds ∧ e.2 = g.findRoots e.1)
    ⟨fun ⟨a, b, c, d, e, f⟩ => ⟨a, b, c, d, e, f⟩, fun h => ⟨h.1, h.2, h.3, h.4, h.5, h.6⟩⟩

/-! ## Look-ups -/

theorem mem_symbolIds {g : Graph} {id : SymbolId} :
    id ∈ g.symbolIds ↔ ∃ s ∈ g.symbols, s.id = id := List.mem_map

theorem mem_symbolIds_of_mem {g : Graph} {s : Symbol} (h : s ∈ g.symbols) : s.id ∈ g.symbolIds :=
  List.mem_map_of_mem h

theorem mem_scopeIds {g : Graph} {id : ScopeId} :
    id ∈ g.scopeIds ↔ ∃ c ∈ g.scopes, c.id = id := List.mem_map

theorem mem_scopeIds_of_mem {g : Graph} {c : Scope} (h : c ∈ g.scopes) : c.id ∈ g.scopeIds :=
  List.mem_map_of_mem h

variable {g : Graph}

theorem WellFormed.symbol?_eq_some (h : g.WellFormed) {id : SymbolId} {s : Symbol} :
    g.symbol? id = some s ↔ s ∈ g.symbols ∧ s.id = id :=
  find?_key_eq_some h.symbolIds_nodup

theorem WellFormed.symbol?_id (h : g.WellFormed) {s : Symbol} (hs : s ∈ g.symbols) :
    g.symbol? s.id = some s :=
  h.symbol?_eq_some.2 ⟨hs, rfl⟩

/-- A symbol is determined by its id. -/
theorem WellFormed.symbol_ext (h : g.WellFormed) {s t : Symbol} (hs : s ∈ g.symbols)
    (ht : t ∈ g.symbols) (hid : s.id = t.id) : s = t := by
  have hst : some s = some t := by rw [← h.symbol?_id hs, hid, h.symbol?_id ht]
  exact Option.some.inj hst

theorem WellFormed.nameOf_id (h : g.WellFormed) {s : Symbol} (hs : s ∈ g.symbols) :
    g.nameOf s.id = s.name := by
  simp [nameOf, h.symbol?_id hs]

theorem WellFormed.scope?_eq_some (h : g.WellFormed) {id : ScopeId} {c : Scope} :
    g.scope? id = some c ↔ c ∈ g.scopes ∧ c.id = id :=
  find?_key_eq_some h.scopeIds_nodup

theorem WellFormed.scope?_id (h : g.WellFormed) {c : Scope} (hc : c ∈ g.scopes) :
    g.scope? c.id = some c :=
  h.scope?_eq_some.2 ⟨hc, rfl⟩

/-- Every registered scope id has its scope. -/
theorem WellFormed.exists_scope? (h : g.WellFormed) {id : ScopeId} (hid : id ∈ g.scopeIds) :
    ∃ c, g.scope? id = some c ∧ c ∈ g.scopes ∧ c.id = id := by
  obtain ⟨c, hc, hcid⟩ := mem_scopeIds.1 hid
  exact ⟨c, h.scope?_eq_some.2 ⟨hc, hcid⟩, hc, hcid⟩

theorem WellFormed.mem_symbolsOf (h : g.WellFormed) {ids : List SymbolId} {s : Symbol} :
    s ∈ g.symbolsOf ids ↔ s ∈ g.symbols ∧ s.id ∈ ids := by
  simp only [symbolsOf, List.mem_filterMap, h.symbol?_eq_some]
  constructor
  · rintro ⟨_, hid, hs, rfl⟩
    exact ⟨hs, hid⟩
  · rintro ⟨hs, hid⟩
    exact ⟨s.id, hid, hs, rfl⟩

theorem mem_membersOfScope {id : ScopeId} {s : Symbol} :
    s ∈ g.membersOfScope id ↔ s ∈ g.symbols ∧ s.scope = some id := by
  simp [membersOfScope]

theorem WellFormed.mem_importedSymbols (h : g.WellFormed) {id : ScopeId} {s : Symbol} :
    s ∈ g.importedSymbols id ↔
      s ∈ g.symbols ∧ ∃ c ∈ g.scopes, c.id = id ∧ s.id ∈ c.imported := by
  unfold importedSymbols
  cases hc : g.scope? id with
  | none =>
      simp only [List.not_mem_nil, false_iff, not_and, not_exists]
      rintro - c hmem hid -
      rw [h.scope?_eq_some.2 ⟨hmem, hid⟩] at hc
      cases hc
  | some c =>
      obtain ⟨hmem, hid⟩ := h.scope?_eq_some.1 hc
      simp only [h.mem_symbolsOf]
      refine and_congr_right fun _ => ⟨fun hs => ⟨c, hmem, hid, hs⟩, ?_⟩
      rintro ⟨d, hd, hdid, hs⟩
      have hcd : some c = some d := by rw [← hc, h.scope?_eq_some.2 ⟨hd, hdid⟩]
      exact Option.some.inj hcd ▸ hs

/-- A scope binds the symbols declared in it and those it imports. -/
theorem WellFormed.mem_boundSymbols (h : g.WellFormed) {id : ScopeId} {s : Symbol} :
    s ∈ g.boundSymbols id ↔
      s ∈ g.symbols ∧ (s.scope = some id ∨ ∃ c ∈ g.scopes, c.id = id ∧ s.id ∈ c.imported) := by
  rw [boundSymbols, List.mem_append, mem_membersOfScope, h.mem_importedSymbols, ← and_or_left]

/-- The name index is exact. -/
theorem WellFormed.mem_symbolsNamed (h : g.WellFormed) {name : String} {s : Symbol} :
    s ∈ g.symbolsNamed name ↔ s ∈ g.symbols ∧ s.name = name := by
  simp only [symbolsNamed, List.mem_filter, h.mem_symbolsOf, h.naming_perm.mem_iff,
    decide_eq_true_eq]
  exact ⟨fun hs => ⟨hs.1.1, hs.2⟩, fun hs => ⟨⟨hs.1, mem_symbolIds_of_mem hs.1⟩, hs.2⟩⟩

/-! ## Roots -/

theorem mem_superMembers {id m : SymbolId} : m ∈ g.superMembers id ↔ (id, m) ∈ g.overrideEdges := by
  simp only [superMembers, List.mem_map, List.mem_filter, decide_eq_true_eq]
  constructor
  · rintro ⟨⟨a, b⟩, ⟨hab, rfl⟩, rfl⟩
    exact hab
  · exact fun h => ⟨(id, m), ⟨h, rfl⟩, rfl⟩

theorem mem_directOverriders {id m : SymbolId} :
    m ∈ g.directOverriders id ↔ (m, id) ∈ g.overrideEdges := by
  simp only [directOverriders, List.mem_map, List.mem_filter, decide_eq_true_eq]
  constructor
  · rintro ⟨⟨a, b⟩, ⟨hab, rfl⟩, rfl⟩
    exact hab
  · exact fun h => ⟨(m, id), ⟨h, rfl⟩, rfl⟩

/-- The cache never changes an answer. -/
theorem WellFormed.deepestRoots_fst (h : g.WellFormed) (id : SymbolId) :
    (g.deepestRoots id).1 = g.findRoots id := by
  unfold deepestRoots
  split
  · next e roots hfind =>
      have hmem := List.mem_of_find?_eq_some hfind
      have hid : e = id := by simpa using List.find?_some hfind
      have hroots : roots = g.findRoots e := (h.cache_exact _ hmem).2
      rw [hid] at hroots
      exact hroots
  · rfl

/-! ## Operations -/

theorem WellFormed.empty : WellFormed {} := by
  constructor <;> simp [symbolIds, scopeIds]

theorem WellFormed.addScope (h : g.WellFormed) {c : Scope} {g' : Graph}
    (hadd : g.addScope c = .ok g') : g'.WellFormed := by
  unfold Graph.addScope at hadd
  split at hadd
  · cases hadd
  · next hnew =>
      obtain rfl := Except.ok.inj hadd
      have hc : c.id ∉ g.scopeIds := fun hmem => by
        obtain ⟨d, hd, -⟩ := h.exists_scope? hmem
        exact hnew (by rw [hd]; rfl)
      exact { h with
        scopeIds_nodup := by
          have hids : scopeIds { g with scopes := g.scopes ++ [c] } = g.scopeIds ++ [c.id] := by
            simp [scopeIds]
          rw [hids]
          exact h.scopeIds_nodup.append (by simp) (by simpa using hc) }

/-- A new symbol is out of reach of the relations between older ones. -/
theorem findRoots_addSymbol (h : g.WellFormed) {s : Symbol} (hs : s.id ∉ g.symbolIds)
    {id : SymbolId} (hid : id ∈ g.symbolIds) (naming : List SymbolId) :
    findRoots { g with symbols := g.symbols ++ [s], naming := naming } id = g.findRoots id := by
  have hids : symbolIds { g with symbols := g.symbols ++ [s], naming := naming } =
      g.symbolIds ++ [s.id] := by simp [symbolIds]
  have herase : (g.symbolIds ++ [s.id]).erase s.id = g.symbolIds := by
    rw [List.erase_append_right _ hs]
    simp
  have hout : s.id ∉ reach g.superMembers (g.symbolIds ++ [s.id]) [id] := fun hmem => by
    obtain ⟨q, hq, -, hqs⟩ := mem_reach.1 hmem
    obtain rfl : q = id := List.mem_singleton.1 hq
    rcases Relation.ReflTransGen.cases_tail hqs with heq | ⟨m, -, hstep, -⟩
    · exact hs (heq ▸ hid)
    · exact hs (h.override_mem _ (mem_superMembers.1 hstep)).2
  have hreach := reach_erase hout
  rw [herase] at hreach
  unfold findRoots
  rw [hids]
  exact congrArg _ hreach.symm

theorem WellFormed.addSymbol (h : g.WellFormed) {s : Symbol} {g' : Graph}
    (hadd : g.addSymbol s = .ok g') : g'.WellFormed := by
  unfold Graph.addSymbol at hadd
  split at hadd
  · cases hadd
  · next hnew =>
      obtain rfl := Except.ok.inj hadd
      have hs : s.id ∉ g.symbolIds := fun hmem => by
        obtain ⟨t, ht, htid⟩ := mem_symbolIds.1 hmem
        exact hnew (List.any_eq_true.2 ⟨t, ht, by simpa using htid⟩)
      have hids : symbolIds { g with symbols := g.symbols ++ [s], naming := g.naming ++ [s.id] } =
          g.symbolIds ++ [s.id] := by simp [symbolIds]
      refine
        { h with
          symbolIds_nodup := ?_
          naming_perm := ?_
          supertype_mem := fun e he => ?_
          override_mem := fun e he => ?_
          cache_exact := fun e he => ?_ }
      · rw [hids]
        exact h.symbolIds_nodup.append (by simp) (by simpa using hs)
      · rw [hids]
        exact h.naming_perm.append_right _
      · rw [hids]
        exact (h.supertype_mem e he).imp (List.mem_append_left _) (List.mem_append_left _)
      · rw [hids]
        exact (h.override_mem e he).imp (List.mem_append_left _) (List.mem_append_left _)
      · have hold := h.cache_exact e he
        rw [hids]
        exact ⟨List.mem_append_left _ hold.1,
          hold.2.trans (findRoots_addSymbol h hs hold.1 _).symm⟩

/-- A change of a symbol that keeps its id. -/
theorem updateSymbol_symbolIds {id : SymbolId} {f : Symbol → Symbol} (hf : ∀ s, (f s).id = s.id) :
    (g.updateSymbol id f).symbolIds = g.symbolIds := by
  simp only [symbolIds, updateSymbol, List.map_map]
  refine List.map_congr_left fun s _ => ?_
  simp only [Function.comp]
  split
  · exact hf s
  · rfl

theorem WellFormed.updateSymbol (h : g.WellFormed) (id : SymbolId) {f : Symbol → Symbol}
    (hf : ∀ s, (f s).id = s.id) : (g.updateSymbol id f).WellFormed := by
  have hids : (g.updateSymbol id f).symbolIds = g.symbolIds := updateSymbol_symbolIds hf
  have hroots : ∀ m, (g.updateSymbol id f).findRoots m = g.findRoots m := fun m => by
    simp only [findRoots, hids]
    rfl
  exact
    { symbolIds_nodup := by rw [hids]; exact h.symbolIds_nodup
      scopeIds_nodup := h.scopeIds_nodup
      naming_perm := by rw [hids]; exact h.naming_perm
      supertype_mem := by rw [hids]; exact h.supertype_mem
      override_mem := by rw [hids]; exact h.override_mem
      cache_exact := fun e he => by rw [hids, hroots]; exact h.cache_exact e he }

theorem WellFormed.forgetRoots (h : g.WellFormed) : g.forgetRoots.WellFormed :=
  { h with cache_exact := by simp [Graph.forgetRoots] }

theorem WellFormed.addSupertype (h : g.WellFormed) {t u : SymbolId} (ht : t ∈ g.symbolIds)
    (hu : u ∈ g.symbolIds) : (g.addSupertype t u).WellFormed := by
  unfold Graph.addSupertype
  split
  · exact h
  · exact { h.forgetRoots with
      supertype_mem := fun e he => by
        rcases List.mem_append.1 he with he | he
        · exact h.supertype_mem e he
        · obtain rfl : e = (t, u) := List.mem_singleton.1 he
          exact ⟨ht, hu⟩ }

theorem WellFormed.addOverride (h : g.WellFormed) {m o : SymbolId} (hm : m ∈ g.symbolIds)
    (ho : o ∈ g.symbolIds) : (g.addOverride m o).WellFormed := by
  unfold Graph.addOverride
  split
  · exact h
  · have hedge : WellFormed
        { g.forgetRoots with overrideEdges := g.overrideEdges ++ [(m, o)] } :=
      { h.forgetRoots with
        override_mem := fun e he => by
          rcases List.mem_append.1 he with he | he
          · exact h.override_mem e he
          · obtain rfl : e = (m, o) := List.mem_singleton.1 he
            exact ⟨hm, ho⟩
        cache_exact := by simp [Graph.forgetRoots] }
    exact hedge.updateSymbol m fun _ => rfl

theorem WellFormed.deepestRoots (h : g.WellFormed) {id : SymbolId} (hid : id ∈ g.symbolIds) :
    (g.deepestRoots id).2.WellFormed := by
  unfold Graph.deepestRoots
  split
  · exact h
  · exact { h with
      cache_exact := fun e he => by
        rcases List.mem_append.1 he with he | he
        · exact h.cache_exact e he
        · obtain rfl : e = (id, g.findRoots id) := List.mem_singleton.1 he
          exact ⟨hid, rfl⟩ }

theorem WellFormed.rename (h : g.WellFormed) {id : SymbolId} (hid : id ∈ g.symbolIds)
    (name : String) : (g.rename id name).WellFormed := by
  unfold Graph.rename
  split
  · exact h
  · have hupd := h.updateSymbol id (f := fun s => { s with name := name }) fun _ => rfl
    have hmem : id ∈ g.naming := h.naming_perm.mem_iff.2 hid
    exact { hupd with
      naming_perm := by
        have hmove : (g.naming.erase id ++ [id]).Perm g.naming :=
          (List.perm_append_singleton id _).trans (List.perm_cons_erase hmem).symm
        exact hmove.trans hupd.naming_perm }

end Graph

end Pseudonym
