import Pseudonym.Proofs.Renaming.Conflict

/-!
# Renaming avoids capture

A program is hygienic when every scope binds a name once, every read finds the symbol it belongs to,
and a name that belongs to no symbol finds none. A committed plan keeps a program hygienic
(`hygienic_of_rename`).

## Proof shape

After a plan two symbols have one name in three cases (`nameAfter_eq_cases`): they had one name
before, or the first took the name of the second, or the other way round. The first case is settled
by the hygiene of the graph before. In the others one symbol is in the plan and one is not, and each
place where the two could meet is one that an accepted plan was checked for:

* bound in one scope: the checks for declared, imported and shadowing names (`not_bound_together`);
* a read of the renamed symbol passes the other one: the check for shadowing (`not_shadowed`);
* a read of the other one passes the renamed symbol: the check for capture (`not_captured`);
* an unresolved name finds the renamed symbol: the check for hidden names (`not_found_unresolved`).
-/

namespace Pseudonym.Graph

open Relation

/-- A scope that stands for code outside the program: nothing is nested or read in it. -/
structure Placeholder (g : Graph) (c : Scope) : Prop where
  leaf : ∀ d ∈ g.scopes, d.parent ≠ some c.id
  unread : ∀ s ∈ g.symbols, ∀ r ∈ s.references, r.scope ≠ some c.id
  resolved : c.unresolved = []

instance (g : Graph) (c : Scope) : Decidable (g.Placeholder c) :=
  decidable_of_iff
    ((∀ d ∈ g.scopes, d.parent ≠ some c.id) ∧
      (∀ s ∈ g.symbols, ∀ r ∈ s.references, r.scope ≠ some c.id) ∧ c.unresolved = [])
    ⟨fun ⟨a, b, c⟩ => ⟨a, b, c⟩, fun h => ⟨h.1, h.2, h.3⟩⟩

/-- An imported symbol comes from a scope without parent and is bound by a use. -/
structure Imports (g : Graph) (c : Scope) (s : Symbol) : Prop where
  home : ∃ d ∈ g.scopes, s.scope = some d.id ∧ d.parent = none
  binds : ∃ r ∈ s.references, r.binds ∧ r.scope = some c.id

instance (g : Graph) (c : Scope) (s : Symbol) : Decidable (g.Imports c s) :=
  decidable_of_iff
    ((∃ d ∈ g.scopes, s.scope = some d.id ∧ d.parent = none) ∧
      ∃ r ∈ s.references, r.binds ∧ r.scope = some c.id)
    ⟨fun ⟨a, b⟩ => ⟨a, b⟩, fun h => ⟨h.1, h.2⟩⟩

/-- The layout of scopes. -/
structure Lexical (g : Graph) : Prop where
  parentsFirst : g.ParentsFirst
  declared_mem : ∀ s ∈ g.symbols, ∀ c, s.scope = some c → c ∈ g.scopeIds
  read_mem : ∀ s ∈ g.symbols, ∀ r ∈ s.references, ∀ c, r.scope = some c → c ∈ g.scopeIds
  imports : ∀ c ∈ g.scopes, ∀ s ∈ g.symbols, s.id ∈ c.imported → g.Imports c s
  external : ∀ c ∈ g.scopes, c.kind = .external → g.Placeholder c

instance (g : Graph) : Decidable g.Lexical :=
  decidable_of_iff
    (g.ParentsFirst ∧
      (∀ s ∈ g.symbols, ∀ c ∈ s.scope, c ∈ g.scopeIds) ∧
      (∀ s ∈ g.symbols, ∀ r ∈ s.references, ∀ c ∈ r.scope, c ∈ g.scopeIds) ∧
      (∀ c ∈ g.scopes, ∀ s ∈ g.symbols, s.id ∈ c.imported → g.Imports c s) ∧
      ∀ c ∈ g.scopes, c.kind = .external → g.Placeholder c)
    ⟨fun ⟨a, b, c, d, e⟩ => ⟨a, b, c, d, e⟩, fun h => ⟨h.1, h.2, h.3, h.4, h.5⟩⟩

/-- Every name means one thing. -/
structure Hygienic (g : Graph) : Prop where
  /-- Two symbols bound in one scope have two names. -/
  unique : ∀ c ∈ g.scopes, c.kind ≠ .external →
    ∀ a ∈ g.boundSymbols c.id, ∀ b ∈ g.boundSymbols c.id, a.name = b.name → a = b
  /-- Every use finds its symbol. -/
  reads : ∀ s ∈ g.symbols, ∀ r ∈ s.references, ∀ c, r.scope = some c →
    g.resolve c s.name = some s
  /-- A name that belongs to no symbol finds none. -/
  unresolved : ∀ c ∈ g.scopes, ∀ name ∈ c.unresolved, g.resolve c.id name = none

instance (g : Graph) : Decidable g.Hygienic :=
  decidable_of_iff
    ((∀ c ∈ g.scopes, c.kind ≠ .external →
        ∀ a ∈ g.boundSymbols c.id, ∀ b ∈ g.boundSymbols c.id, a.name = b.name → a = b) ∧
      (∀ s ∈ g.symbols, ∀ r ∈ s.references, ∀ c ∈ r.scope, g.resolve c s.name = some s) ∧
      ∀ c ∈ g.scopes, ∀ name ∈ c.unresolved, g.resolve c.id name = none)
    ⟨fun ⟨a, b, c⟩ => ⟨a, b, c⟩, fun h => ⟨h.1, h.2, h.3⟩⟩

/-- Renames of a plan to one name are renames from one name. -/
def Coherent (g : Graph) (p : Plan) : Prop :=
  ∀ a ∈ p.entries, ∀ b ∈ p.entries, a.name = b.name → g.nameOf a.symbol = g.nameOf b.symbol

instance (g : Graph) (p : Plan) : Decidable (g.Coherent p) :=
  inferInstanceAs (Decidable (∀ a ∈ p.entries, ∀ b ∈ p.entries, a.name = b.name →
    g.nameOf a.symbol = g.nameOf b.symbol))

variable {g : Graph} {p : Plan}

/-! ## Look-ups -/

theorem lookup_eq_none {id : ScopeId} {name : String} :
    g.lookup id name = none ↔ ∀ b ∈ g.boundSymbols id, b.name ≠ name := by
  simp [lookup, List.find?_eq_none]

theorem mem_of_lookup {id : ScopeId} {name : String} {s : Symbol} (h : g.lookup id name = some s) :
    s ∈ g.boundSymbols id ∧ s.name = name :=
  ⟨List.mem_of_find?_eq_some h, by simpa using List.find?_some h⟩

theorem Hygienic.lookup_eq_some (hh : g.Hygienic) {c : Scope} (hc : c ∈ g.scopes)
    (hkind : c.kind ≠ .external) {b : Symbol} (hb : b ∈ g.boundSymbols c.id) :
    g.lookup c.id b.name = some b := by
  cases ho : g.lookup c.id b.name with
  | none => exact absurd rfl (lookup_eq_none.1 ho b hb)
  | some o =>
      obtain ⟨hmem, hname⟩ := mem_of_lookup ho
      rw [hh.unique c hc hkind o hmem b hb hname]

/-- The scope in which a bound symbol is declared: that scope or one without parent. -/
theorem Lexical.home (hg : g.WellFormed) (hl : g.Lexical) {t : ScopeId} {a : Symbol}
    (ha : a ∈ g.boundSymbols t) : ∃ x, a.scope = some x ∧ (x = t ∨ g.parentIds x = []) := by
  obtain ⟨hmem, hscope | ⟨c, hc, -, himp⟩⟩ := hg.mem_boundSymbols.1 ha
  · exact ⟨t, hscope, Or.inl rfl⟩
  · obtain ⟨d, hd, hscope, hparent⟩ := (hl.imports c hc a hmem himp).home
    refine ⟨d.id, hscope, Or.inr ?_⟩
    simp [parentIds, hg.scope?_id hd, hparent]

/-- A bound symbol counts its scope among those that bind it. -/
theorem Lexical.mem_bindingScopes (hg : g.WellFormed) (hl : g.Lexical) {t : ScopeId} {a : Symbol}
    (ha : a ∈ g.boundSymbols t) : t ∈ a.bindingScopes := by
  obtain ⟨hmem, hscope | ⟨c, hc, rfl, himp⟩⟩ := hg.mem_boundSymbols.1 ha
  · exact Symbol.mem_bindingScopes.2 (Or.inl hscope)
  · exact Symbol.mem_bindingScopes.2 (Or.inr ((hl.imports c hc a hmem himp).binds))

/-- No look-up from a scope that is not external comes to one that is. -/
theorem Lexical.not_external (hg : g.WellFormed) (hl : g.Lexical) {id : ScopeId}
    (hid : ∀ c ∈ g.scopes, c.id = id → c.kind ≠ .external) {c : Scope} (hc : c ∈ g.scopes)
    (hpath : c.id ∈ g.lookupPath id) : c.kind ≠ .external := by
  rcases List.mem_cons.1 hpath with heq | hanc
  · exact hid c hc heq
  · obtain ⟨d, hd, hdc⟩ := List.mem_map.1 hanc
    have hwalk := ((mem_ancestors hg hl.parentsFirst).1 (List.mem_of_mem_filter hd)).2
    rw [hdc] at hwalk
    obtain ⟨q, -, hq⟩ := TransGen.tail'_iff.1 hwalk
    obtain ⟨e, he, hparent⟩ := mem_parentIds.1 hq
    exact fun hext => (hl.external c hc hext).leaf e (hg.scope?_eq_some.1 he).1 hparent

/-- No read starts in an external scope. -/
theorem Lexical.read_not_external (hl : g.Lexical) {s : Symbol} (hs : s ∈ g.symbols)
    {r : Reference} (hr : r ∈ s.references) {id : ScopeId} (hid : r.scope = some id) :
    ∀ c ∈ g.scopes, c.id = id → c.kind ≠ .external :=
  fun c hc hcid hext => (hl.external c hc hext).unread s hs r hr (hcid ▸ hid)

/-! ## Meeting names -/

/-- A plan gives `a` the name of `b`, which it leaves alone. -/
def TakesName (p : Plan) (a b : Symbol) : Prop := ⟨a.id, b.name⟩ ∈ p.entries ∧ b.id ∉ p.symbols

theorem exists_entry {a : Symbol} (ha : a.id ∈ p.symbols) :
    ⟨a.id, nameAfter p.entries a⟩ ∈ p.entries := by
  obtain ⟨r, hr, hra⟩ := List.mem_map.1 ha
  rw [nameAfter_of_mem p.entries_nodup hr hra, ← hra]
  exact hr

/-- When two symbols end under one name. -/
theorem nameAfter_eq_cases (hg : g.WellFormed) (hp : g.Coherent p) {a b : Symbol}
    (ha : a ∈ g.symbols) (hb : b ∈ g.symbols)
    (h : nameAfter p.entries a = nameAfter p.entries b) :
    a.name = b.name ∨ TakesName p a b ∨ TakesName p b a := by
  by_cases hap : a.id ∈ p.symbols
  · have hae := exists_entry hap
    by_cases hbp : b.id ∈ p.symbols
    · left
      have hsame := hp _ hae _ (exists_entry hbp) h
      rwa [hg.nameOf_id ha, hg.nameOf_id hb] at hsame
    · rw [h, nameAfter_of_not_mem hbp] at hae
      exact Or.inr (Or.inl ⟨hae, hbp⟩)
  · rw [nameAfter_of_not_mem hap] at h
    by_cases hbp : b.id ∈ p.symbols
    · have hbe := exists_entry hbp
      rw [← h] at hbe
      exact Or.inr (Or.inr ⟨hbe, hap⟩)
    · rw [nameAfter_of_not_mem hbp] at h
      exact Or.inl h

section Accepted

variable (hg : g.WellFormed) (hl : g.Lexical) (hh : g.Hygienic) (hp : g.Accepted p)
include hg hp

/-- The name that a symbol takes is free for it. -/
theorem TakesName.free {a b : Symbol} (h : TakesName p a b) (ha : a ∈ g.symbols) :
    g.NameFree p.symbols a b.name :=
  hp _ h.1 a (hg.symbol?_id ha)

include hl hh

/-- A symbol never takes the name of one that is bound beside it. -/
theorem not_bound_together {a b : Symbol} (h : TakesName p a b) {c : Scope} (hc : c ∈ g.scopes)
    (hkind : c.kind ≠ .external) (ha : a ∈ g.boundSymbols c.id) (hb : b ∈ g.boundSymbols c.id) :
    False := by
  have hlookup := hh.lookup_eq_some hc hkind hb
  obtain ⟨hamem, hbind⟩ := hg.mem_boundSymbols.1 ha
  have hfree := h.free hg hp hamem
  by_cases hadecl : a.scope = some c.id
  · -- The import check stops at the first symbol found, which hygiene says is `b`.
    rcases hfree.imported c.id hadecl b hlookup with hin | hbdecl
    · exact h.2 hin
    · have hbmem := mem_membersOfScope.2 ⟨(hg.mem_boundSymbols.1 hb).1, hbdecl⟩
      exact h.2 (hfree.declared c.id hadecl b hbmem rfl)
  · -- An imported symbol is read where it is bound, and that read passes its own scope first.
    obtain ⟨d, hd, hdid, himp⟩ := hbind.resolve_left hadecl
    obtain ⟨r, hr, -, hrc⟩ := (hl.imports d hd a hamem himp).binds
    rw [hdid] at hrc
    have hbefore : c ∈ g.scopesBefore c.id a.scope := by
      simp only [scopesBefore, hg.scope?_id hc]
      rw [List.takeWhile_cons_of_pos (by simpa using Ne.symm hadecl)]
      simp
    exact h.2 (hfree.shadowed r hr c.id hrc c hbefore b hlookup)

/-- A read never passes a symbol whose name is taken by the symbol that is read. -/
theorem not_shadowed {a b : Symbol} (h : TakesName p a b) (ha : a ∈ g.symbols) {r : Reference}
    (hr : r ∈ a.references) {id t u : ScopeId} (hid : r.scope = some id)
    {before after : List ScopeId} (hpath : g.lookupPath id = before ++ t :: after)
    (hat : a ∈ g.boundSymbols t) (hu : u ∈ before) (hbu : b ∈ g.boundSymbols u) : False := by
  have hmem := hl.read_mem a ha r hr id hid
  obtain ⟨x, hx, hhome⟩ := hl.home hg hat
  obtain ⟨-, c, hc, rfl⟩ := lookupPath_before hg hl.parentsFirst hmem hpath hu hhome
  have hupath : c.id ∈ g.lookupPath id := hpath ▸ List.mem_append_left _ hu
  obtain ⟨d, -, hd, hdid⟩ :=
    hg.exists_scope? (mem_scopeIds_of_mem_lookupPath hg hl.parentsFirst hmem hupath)
  rw [← hdid] at hupath hbu
  have hkind := hl.not_external hg (hl.read_not_external ha hr hid) hd hupath
  have hlookup := hh.lookup_eq_some hd hkind hbu
  rw [← hx] at hc
  rw [hdid] at hlookup
  exact h.2 ((h.free hg hp ha).shadowed r hr id hid c hc b hlookup)

omit hh in
/-- A read never passes a symbol that takes the name of the symbol that is read. -/
theorem not_captured {a b : Symbol} (h : TakesName p b a) (ha : a ∈ g.symbols) {r : Reference}
    (hr : r ∈ a.references) {id t u : ScopeId} (hid : r.scope = some id)
    {before after : List ScopeId} (hpath : g.lookupPath id = before ++ t :: after)
    (hat : a ∈ g.boundSymbols t) (hu : u ∈ before) (hbu : b ∈ g.boundSymbols u) : False := by
  have hmem := hl.read_mem a ha r hr id hid
  obtain ⟨x, hx, hhome⟩ := hl.home hg hat
  obtain ⟨hunseen, -⟩ := lookupPath_before hg hl.parentsFirst hmem hpath hu hhome
  -- The read lies in the region of `b`, and the home of `a` does not: the check sees this pair.
  have hregion : id ∈ g.visibleRegion u :=
    mem_visibleRegion_of_mem_lookupPath hg hl.parentsFirst hmem
      (hpath ▸ List.mem_append_left _ hu)
  have hfree := h.free hg hp (hg.mem_boundSymbols.1 hbu).1
  rcases hfree.captured u (hl.mem_bindingScopes hg hbu) a (hg.mem_symbolsNamed.2 ⟨ha, rfl⟩) with
    hin | ⟨d, hd, hda⟩ | hreads
  · exact h.2 hin
  · rw [hx] at hda
    exact hunseen (Option.some.inj hda ▸ hd)
  · exact hreads r hr id hid hregion

omit hh in
/-- An unresolved name never finds a symbol of the plan. -/
theorem not_found_unresolved {b : Symbol} {name : String} (hb : ⟨b.id, name⟩ ∈ p.entries)
    {c : Scope} (hc : c ∈ g.scopes) (hname : name ∈ c.unresolved) {t : ScopeId}
    (ht : t ∈ g.lookupPath c.id) (hbt : b ∈ g.boundSymbols t) : False := by
  have hmem : c.id ∈ g.scopeIds := mem_scopeIds_of_mem hc
  have hfree := hp _ hb b (hg.symbol?_id (hg.mem_boundSymbols.1 hbt).1)
  exact hfree.unresolved t (hl.mem_bindingScopes hg hbt) c.id
    (mem_visibleRegion_of_mem_lookupPath hg hl.parentsFirst hmem ht) c (hg.scope?_id hc) hname

/-! ## The graph after an accepted plan -/

variable (hcoh : g.Coherent p) {h : Graph} (hr : Renamed (nameAfter p.entries) g h)
include hcoh hr

theorem unique_after {c : Scope} (hc : c ∈ g.scopes) (hkind : c.kind ≠ .external) {a b : Symbol}
    (ha : a ∈ h.boundSymbols c.id) (hb : b ∈ h.boundSymbols c.id) (hname : a.name = b.name) :
    a = b := by
  rw [hr.boundSymbols_eq] at ha hb
  obtain ⟨a₀, ha₀, rfl⟩ := List.mem_map.1 ha
  obtain ⟨b₀, hb₀, rfl⟩ := List.mem_map.1 hb
  have hamem := (hg.mem_boundSymbols.1 ha₀).1
  have hbmem := (hg.mem_boundSymbols.1 hb₀).1
  rcases nameAfter_eq_cases hg hcoh hamem hbmem hname with hsame | htake | htake
  · rw [hh.unique c hc hkind a₀ ha₀ b₀ hb₀ hsame]
  · exact (not_bound_together hg hl hh hp htake hc hkind ha₀ hb₀).elim
  · exact (not_bound_together hg hl hh hp htake hc hkind hb₀ ha₀).elim

theorem reads_after {s : Symbol} (hs : s ∈ g.symbols) {r : Reference} (hrs : r ∈ s.references)
    {id : ScopeId} (hid : r.scope = some id) :
    h.resolve id (nameAfter p.entries s) = some (s.withName (nameAfter p.entries s)) := by
  obtain ⟨before, t, after, hpath, hfound, hpassed⟩ :=
    List.findSome?_eq_some_iff.1 (hh.reads s hs r hrs id hid)
  have hst := (mem_of_lookup hfound).1
  -- The look-up under the new name passes the same scopes and ends in the same one.
  refine List.findSome?_eq_some_iff.2 ⟨before, t, after, ?_, ?_, fun u hu => ?_⟩
  · rw [hr.lookupPath_eq, hpath]
  · have htpath : t ∈ g.lookupPath id := hpath ▸ List.mem_append_right _ List.mem_cons_self
    obtain ⟨c, -, hc, rfl⟩ := hg.exists_scope? (mem_scopeIds_of_mem_lookupPath hg hl.parentsFirst
      (hl.read_mem s hs r hrs id hid) htpath)
    have hkind := hl.not_external hg (hl.read_not_external hs hrs hid) hc htpath
    have hbound : s.withName (nameAfter p.entries s) ∈ h.boundSymbols c.id := by
      rw [hr.boundSymbols_eq]
      exact List.mem_map.2 ⟨s, hst, rfl⟩
    cases ho : h.lookup c.id (nameAfter p.entries s) with
    | none => exact absurd rfl (lookup_eq_none.1 ho _ hbound)
    | some o =>
        obtain ⟨homem, honame⟩ := mem_of_lookup ho
        rw [unique_after hg hl hh hp hcoh hr hc hkind homem hbound honame]
  · refine lookup_eq_none.2 fun b hb hname => ?_
    rw [hr.boundSymbols_eq] at hb
    obtain ⟨b₀, hb₀, rfl⟩ := List.mem_map.1 hb
    have hbmem := (hg.mem_boundSymbols.1 hb₀).1
    rcases nameAfter_eq_cases hg hcoh hbmem hs hname with hsame | htake | htake
    · exact lookup_eq_none.1 (hpassed u hu) b₀ hb₀ hsame
    · exact not_captured hg hl hp htake hs hrs hid hpath hst hu hb₀
    · exact not_shadowed hg hl hh hp htake hs hrs hid hpath hst hu hb₀

omit hcoh in
theorem unresolved_after {c : Scope} (hc : c ∈ g.scopes) {name : String}
    (hname : name ∈ c.unresolved) : h.resolve c.id name = none := by
  refine List.findSome?_eq_none_iff.2 fun t ht => lookup_eq_none.2 fun b hb hbname => ?_
  rw [hr.lookupPath_eq] at ht
  rw [hr.boundSymbols_eq] at hb
  obtain ⟨b₀, hb₀, rfl⟩ := List.mem_map.1 hb
  -- A symbol that the name finds now was given the name by the plan or had it before.
  by_cases hbp : b₀.id ∈ p.symbols
  · have hbe := exists_entry hbp
    rw [show nameAfter p.entries b₀ = name from hbname] at hbe
    exact not_found_unresolved hg hl hp hbe hc hname ht hb₀
  · have hold : b₀.name = name := (nameAfter_of_not_mem hbp).symm.trans hbname
    have hnone := List.findSome?_eq_none_iff.1 (hh.unresolved c hc name hname) t ht
    exact lookup_eq_none.1 hnone b₀ hb₀ hold

theorem hygienic_after : h.Hygienic where
  unique c hc hkind a ha b hb hname :=
    unique_after hg hl hh hp hcoh hr (hr.scopes_eq ▸ hc) hkind ha hb hname
  reads s hs r hrs id hid := by
    obtain ⟨s₀, hs₀, rfl⟩ := hr.mem_symbols.1 hs
    exact reads_after hg hl hh hp hcoh hr hs₀ hrs hid
  unresolved c hc name hname :=
    unresolved_after hg hl hh hp hr (hr.scopes_eq ▸ hc) hname

end Accepted

/-! ## Committed plans -/

/-- **Renaming avoids capture.** A plan that commits while methods may not share names leaves a
hygienic program hygienic. -/
theorem hygienic_of_rename {c c' : Changes} {g' : Graph} (hg : g.WellFormed) (hl : g.Lexical)
    (hh : g.Hygienic) (hcoh : g.Coherent p) (hover : c.overloading = false)
    (hok : c.rename g p = ([], g', c')) : g'.Hygienic := by
  obtain ⟨-, hnone, rfl⟩ | ⟨hne, -⟩ := Changes.rename_cases hok
  swap
  · exact absurd rfl hne
  rw [hover] at hnone
  have hr := applyRenames_renamed hg.symbolIds_nodup p.entries_nodup
  exact hygienic_after hg hl hh (Accepted.of_conflicts hnone) hcoh hr

/-- A module with a class whose method reads an imported rate and the total of the module, past the
total of the class. -/
def ledger : Graph where
  scopes := [
    { id := "lib", kind := .module },
    { id := "app", kind := .module, imported := ["lib::rate"], unresolved := ["print"] },
    { id := "app:Account", kind := .type, parent := some "app" },
    { id := "app:Account.sum", kind := .function, parent := some "app:Account",
      unresolved := ["len"] }]
  symbols := [
    { id := "lib::rate", name := "rate", kind := .variable, scope := some "lib",
      references := [⟨⟨default, 1, 16, 20⟩, some "app", true⟩,
        ⟨⟨default, 8, 15, 19⟩, some "app:Account.sum", false⟩] },
    { id := "app::total", name := "total", kind := .variable, scope := some "app",
      references := [⟨⟨default, 8, 22, 27⟩, some "app:Account.sum", false⟩] },
    { id := "app:Account::total", name := "total", kind := .variable,
      scope := some "app:Account",
      references := [⟨⟨default, 6, 12, 17⟩, some "app:Account", false⟩] }]
  naming := ["lib::rate", "app::total", "app:Account::total"]

/-- The total of the module and the imported rate change names. -/
def ledgerSwap : Plan where
  primary := "app::total"
  name := "rate"
  cascade := [⟨"lib::rate", "total"⟩]

/-- Two symbols that one method reads may swap their names. -/
theorem hygienic_of_rename_ledgerSwap :
    ledger.Hygienic ∧ (Changes.rename {} ledger ledgerSwap).1 = [] ∧
      (Changes.rename {} ledger ledgerSwap).2.1.Hygienic := by
  have hok : (Changes.rename {} ledger ledgerSwap).1 = [] := by decide +kernel
  refine ⟨by decide +kernel, hok, ?_⟩
  exact hygienic_of_rename (by decide +kernel) (by decide +kernel) (by decide +kernel)
    (by decide +kernel) rfl (Prod.ext hok rfl)

end Pseudonym.Graph
