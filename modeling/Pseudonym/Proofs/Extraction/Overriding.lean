import Pseudonym.Proofs.Extraction.Gathering
import Pseudonym.Proofs.Graph.Supertype

/-!
# Linking overrides

Linking overrides relates members and lets symbols outside the program stand for members that are
not in it; nothing else changes (`Link`, `Beside`). So every member is found in the same place
throughout (`Beside.members`), and the overrides between members of the program are known exactly:
a member overrides what is found under its name from each base of its class
(`Gathered.overrides_resolve_iff`).
-/

namespace Pseudonym

open Python Relation

namespace Graph

variable {g : Graph}

/-- Symbols, scopes and edges decide whether a graph is well formed, as long as nothing is
remembered about roots. -/
theorem WellFormed.of_outline {g g' : Graph} (h : g.WellFormed) (hout : g'.outline = g.outline)
    (hcache : g'.rootCache = []) : g'.WellFormed := by
  have hids : g'.symbolIds = g.symbolIds := by
    rw [← symbolIds_outline, hout, symbolIds_outline]
  have hscopes : g'.scopeIds = g.scopeIds := by
    rw [← scopeIds_outline, hout, scopeIds_outline]
  have hnaming : g'.naming = g.naming := (congrArg Graph.naming hout :)
  have hsupers : g'.supertypeEdges = g.supertypeEdges := (congrArg Graph.supertypeEdges hout :)
  have hoverrides : g'.overrideEdges = g.overrideEdges := (congrArg Graph.overrideEdges hout :)
  constructor
  · exact hids ▸ h.symbolIds_nodup
  · exact hscopes ▸ h.scopeIds_nodup
  · exact hnaming ▸ hids ▸ h.naming_perm
  · exact hsupers ▸ hids ▸ h.supertype_mem
  · exact hoverrides ▸ hids ▸ h.override_mem
  · simp [hcache]

/-! ## Adding overrides -/

theorem addOverride_outline_symbols (m o : SymbolId) :
    (g.addOverride m o).symbols.map Symbol.outline = g.symbols.map Symbol.outline := by
  unfold addOverride
  split
  · rfl
  · exact congrArg Graph.symbols (g.updateSymbol_outline m
      (f := fun s => { s with isOverride := true }) fun _ => rfl)

theorem addOverride_symbolIds (m o : SymbolId) : (g.addOverride m o).symbolIds = g.symbolIds := by
  unfold addOverride
  split
  · rfl
  · exact updateSymbol_symbolIds (f := fun s => { s with isOverride := true }) fun _ => rfl

@[simp] theorem addOverride_scopes (m o : SymbolId) : (g.addOverride m o).scopes = g.scopes := by
  unfold addOverride
  split <;> rfl

@[simp] theorem addOverride_supertypeEdges (m o : SymbolId) :
    (g.addOverride m o).supertypeEdges = g.supertypeEdges := by
  unfold addOverride
  split <;> rfl

/-- The new edge is there unless a member would override itself. -/
theorem mem_addOverride {m o : SymbolId} {e : SymbolId × SymbolId} :
    e ∈ (g.addOverride m o).overrideEdges ↔ e ∈ g.overrideEdges ∨ m ≠ o ∧ e = (m, o) := by
  unfold addOverride
  split
  · next h =>
      refine ⟨.inl, ?_⟩
      rintro (he | ⟨hne, rfl⟩)
      · exact he
      · exact h.resolve_left hne
  · next h =>
      have hne : m ≠ o := fun heq => h (.inl heq)
      change e ∈ g.overrideEdges ++ [(m, o)] ↔ _
      simp [hne]

end Graph

namespace Extraction

/-! ## Steps of linking -/

/-- One elementary change when overrides are linked. -/
inductive Link (x : Extraction) : Extraction → Prop
  /-- Something becomes known about a symbol. -/
  | adjust (id : SymbolId) {f : Symbol → Symbol} (hf : ∀ s, (f s).outline = s.outline) :
      Link x (x.updateSymbol id f)
  /-- A member overrides another one. -/
  | override {member overridden : SymbolId} (hmember : member ∈ x.graph.symbolIds)
      (hoverridden : overridden ∈ x.graph.symbolIds) :
      Link x { x with graph := x.graph.addOverride member overridden }
  /-- A scope is opened for what is outside. -/
  | outside {g : Graph}
      (hadd : x.graph.addScope { id := externalScope, kind := .external } = .ok g) :
      Link x { x with graph := g }
  /-- A symbol stands for a member outside. -/
  | stand {s : Symbol} {g : Graph} (hadd : x.graph.addSymbol s = .ok g)
      (hscope : s.scope = some externalScope) (hid : ¬ Inside s.id) : Link x { x with graph := g }

/-- An extraction has the declarations of another one and symbols for what is outside. -/
structure Beside (x y : Extraction) : Prop where
  symbols : ∃ extra, y.graph.symbols.map Symbol.outline =
      x.graph.symbols.map Symbol.outline ++ extra ∧
    ∀ s ∈ extra, s.scope = some externalScope ∧ ¬ Inside s.id
  scopes : ∃ extra, y.graph.scopes.map Scope.outline = x.graph.scopes.map Scope.outline ++ extra ∧
    ∀ c ∈ extra, c = { id := externalScope, kind := .external }
  index : y.index = x.index
  supertypes : y.graph.supertypeEdges = x.graph.supertypeEdges
  allSupertypes : y.graph.allSupertypes = x.graph.allSupertypes
  members : y.classMember? = x.classMember?

variable {x y z : Extraction}

theorem Beside.refl (x : Extraction) : Beside x x :=
  ⟨⟨[], by simp, by simp⟩, ⟨[], by simp, by simp⟩, rfl, rfl, rfl, rfl⟩

/-- Members are found by supertypes, bodies of classes and the index. -/
theorem classMember?_congr (hsupers : y.graph.allSupertypes = x.graph.allSupertypes)
    (howned : ∀ t, (y.graph.ownedScope t).map (·.id) = (x.graph.ownedScope t).map (·.id))
    (hindex : y.index = x.index) : y.classMember? = x.classMember? := by
  have hdeclared : y.declared? = x.declared? := by
    funext scope name
    rw [declared?, hindex, declared?]
  funext type name
  have hhere : ∀ t, ((y.graph.ownedScope t).bind fun scope => y.declared? scope.id name) =
      (x.graph.ownedScope t).bind fun scope => x.declared? scope.id name := by
    intro t
    have h := congrArg (Option.bind · fun id => x.declared? id name) (howned t)
    rw [Option.bind_map, Option.bind_map] at h
    rw [hdeclared]
    exact h
  rw [classMember?, classMember?, hsupers]
  simp only [hhere]

/-- What is the same up to uses and flags stands beside the same extraction. -/
theorem Beside.of_outline (h : Beside x y) (hz : z.outline = y.outline) : Beside x z := by
  have hgraph : z.graph.outline = y.graph.outline := (congrArg Extraction.graph hz :)
  have hsymbols : z.graph.symbols.map Symbol.outline = y.graph.symbols.map Symbol.outline :=
    congrArg Graph.symbols hgraph
  have hscopes : z.graph.scopes.map Scope.outline = y.graph.scopes.map Scope.outline :=
    congrArg Graph.scopes hgraph
  refine ⟨?_, ?_, (congrArg Extraction.index hz :).trans h.index,
    (congrArg Graph.supertypeEdges hgraph :).trans h.supertypes, ?_, ?_⟩
  · rw [hsymbols]
    exact h.symbols
  · rw [hscopes]
    exact h.scopes
  · funext t
    rw [← Graph.allSupertypes_outline, hgraph, Graph.allSupertypes_outline, h.allSupertypes]
  · funext type name
    rw [← classMember?_outline, hz, classMember?_outline, h.members]

theorem Link.wellFormed (hy : y.graph.WellFormed) (hlink : Link y z) : z.graph.WellFormed := by
  cases hlink with
  | adjust id hf => exact hy.updateSymbol id fun s => Symbol.id_of_outline (hf s)
  | override hmember hoverridden => exact hy.addOverride hmember hoverridden
  | outside hadd => exact hy.addScope hadd
  | stand hadd _ _ => exact hy.addSymbol hadd

theorem Beside.link (h : Beside x y) (hy : y.graph.WellFormed) (hlink : Link y z) :
    Beside x z := by
  obtain ⟨extra, hsymbols, hextra⟩ := h.symbols
  obtain ⟨scopes, hscopes, hexternal⟩ := h.scopes
  cases hlink with
  | adjust id hf => exact h.of_outline (y.updateSymbol_outline id hf)
  | @override member overridden hmember hoverridden =>
      have hsupers : (y.graph.addOverride member overridden).allSupertypes =
          y.graph.allSupertypes :=
        Graph.allSupertypes_congr (Graph.addOverride_symbolIds ..)
          (Graph.addOverride_supertypeEdges ..)
      refine ⟨⟨extra, (Graph.addOverride_outline_symbols _ _).trans hsymbols, hextra⟩,
        ⟨scopes, ?_, hexternal⟩, h.index, (Graph.addOverride_supertypeEdges _ _).trans h.supertypes,
        hsupers.trans h.allSupertypes, ?_⟩
      · rw [Graph.addOverride_scopes]
        exact hscopes
      · rw [← h.members]
        refine classMember?_congr hsupers (fun t => ?_) rfl
        simp only [Graph.ownedScope, Graph.addOverride_scopes]
  | outside hadd =>
      obtain ⟨-, rfl⟩ := Graph.addScope_eq_ok hadd
      refine ⟨h.symbols, ⟨scopes ++ [{ id := externalScope, kind := .external }], ?_, ?_⟩,
        h.index, h.supertypes, h.allSupertypes, ?_⟩
      · rw [List.map_append, hscopes, List.append_assoc]
        rfl
      · intro c hc
        rcases List.mem_append.1 hc with hc | hc
        · exact hexternal c hc
        · exact List.mem_singleton.1 hc
      · rw [← h.members]
        refine classMember?_congr rfl (fun t => ?_) rfl
        simp [Graph.ownedScope, List.filter_append]
  | @stand s g hadd hscope hid =>
      have hnew : s.id ∉ y.graph.symbolIds := fun hmem => by
        rw [Graph.addSymbol, Graph.contains_iff.2 hmem] at hadd
        cases hadd
      rw [Graph.addSymbol_of_not_mem hnew] at hadd
      obtain rfl := Except.ok.inj hadd
      have hsupers := funext (Graph.allSupertypes_addSymbol hy hnew (y.graph.naming ++ [s.id]))
      refine ⟨⟨extra ++ [s.outline], ?_, ?_⟩, h.scopes, h.index, h.supertypes,
        hsupers.trans h.allSupertypes, ?_⟩
      · rw [List.map_append, hsymbols, List.append_assoc]
        rfl
      · intro t ht
        rcases List.mem_append.1 ht with ht | ht
        · exact hextra t ht
        · obtain rfl := List.mem_singleton.1 ht
          exact ⟨hscope, hid⟩
      · rw [← h.members]
        exact classMember?_congr hsupers (fun t => rfl) rfl

theorem Beside.symbolIds_subset (h : Beside x y) : x.graph.symbolIds ⊆ y.graph.symbolIds := by
  obtain ⟨extra, hsymbols, -⟩ := h.symbols
  have hids := congrArg (List.map Symbol.id) hsymbols
  rw [List.map_append, List.map_map, List.map_map] at hids
  have hids : y.graph.symbolIds = x.graph.symbolIds ++ extra.map Symbol.id := hids
  rw [hids]
  exact List.subset_append_left _ _

/-- Scopes of the program have the same members. -/
theorem Beside.outline_membersOfScope (h : Beside x y) {scope : ScopeId}
    (hscope : scope ≠ externalScope) :
    (y.graph.membersOfScope scope).map Symbol.outline =
      (x.graph.membersOfScope scope).map Symbol.outline := by
  obtain ⟨extra, hsymbols, hextra⟩ := h.symbols
  have hsymbols : y.graph.outline.symbols = x.graph.outline.symbols ++ extra := hsymbols
  have hnone : extra.filter (·.scope = some scope) = [] := by
    refine List.filter_eq_nil_iff.2 fun s hs => ?_
    simp [(hextra s hs).1, Ne.symm hscope]
  rw [← Graph.membersOfScope_outline, ← Graph.membersOfScope_outline, Graph.membersOfScope,
    hsymbols, List.filter_append, hnone, List.append_nil]
  rfl

theorem Beside.exists_member (h : Beside x y) {scope : ScopeId} (hscope : scope ≠ externalScope)
    {m : Symbol} (hm : m ∈ y.graph.membersOfScope scope) :
    ∃ n ∈ x.graph.membersOfScope scope, n.outline = m.outline :=
  List.mem_map.1 (h.outline_membersOfScope hscope ▸ List.mem_map_of_mem hm)

theorem Beside.member_exists (h : Beside x y) {scope : ScopeId} (hscope : scope ≠ externalScope)
    {m : Symbol} (hm : m ∈ x.graph.membersOfScope scope) :
    ∃ n ∈ y.graph.membersOfScope scope, n.outline = m.outline :=
  List.mem_map.1 (h.outline_membersOfScope hscope ▸ List.mem_map_of_mem hm)

theorem Beside.supertypes_eq (h : Beside x y) : y.graph.supertypes = x.graph.supertypes := by
  funext t
  rw [Graph.supertypes, h.supertypes, Graph.supertypes]

/-! ## Members -/

/-- A member is found in the body of the class or of the nearest class above it that has it. -/
theorem exists_of_classMember? {type id : SymbolId} {name : String}
    (h : x.classMember? type name = some id) :
    ∃ t ∈ type :: x.graph.allSupertypes type, ∃ b, x.graph.ownedScope t = some b ∧
      x.declared? b.id name = some id := by
  obtain ⟨t, ht, hid⟩ := List.exists_of_findSome?_eq_some h
  obtain ⟨b, hb, hid⟩ := Option.bind_eq_some_iff.1 hid
  exact ⟨t, ht, b, hb, hid⟩

theorem Registered.mem_of_classMember? (hx : Registered x) {type id : SymbolId} {name : String}
    (h : x.classMember? type name = some id) : id ∈ x.graph.symbolIds := by
  obtain ⟨_, -, _, -, hdeclared⟩ := exists_of_classMember? h
  obtain ⟨s, hs, rfl, -⟩ := hx.symbol_of_declared? hdeclared
  exact Graph.mem_symbolIds_of_mem hs

/-- Whether overrides of members with a name are linked. -/
def Linkable (name : String) : Prop :=
  Name.isDunder name = false ∧ Visibility.ofMember name ≠ .priv

/-- From a base of its class, a member leads to another one under its name. -/
structure Finds (x : Extraction) (c : ClassFact) (m : Symbol) (found : SymbolId) : Prop where
  class_mem : c ∈ x.classes
  member_mem : m ∈ x.graph.membersOfScope c.bodyScope
  linkable : Linkable m.declaredName
  from_base : ∃ base ∈ x.graph.supertypes c.symbol, x.classMember? base m.declaredName = some found
  other : found ≠ m.id

/-- The state while overrides are linked: every override leads outside or to what was found. -/
structure Linking (x y : Extraction) : Prop where
  beside : Beside x y
  wellFormed : y.graph.WellFormed
  explained : ∀ e ∈ y.graph.overrideEdges,
    ¬ Inside e.2 ∨ ∃ c m, Finds x c m e.2 ∧ m.id = e.1

theorem Registered.linking_self (hx : Registered x) : Linking x x :=
  ⟨.refl x, hx.wellFormed, by simp [hx.unlinked]⟩

theorem Linking.link (h : Linking x y) (hlink : Link y z)
    (hexplained : ∀ e ∈ z.graph.overrideEdges,
      ¬ Inside e.2 ∨ ∃ c m, Finds x c m e.2 ∧ m.id = e.1) : Linking x z :=
  ⟨h.beside.link h.wellFormed hlink, hlink.wellFormed h.wellFormed, hexplained⟩

theorem Linking.adjust (h : Linking x y) (id : SymbolId) {f : Symbol → Symbol}
    (hf : ∀ s, (f s).outline = s.outline) : Linking x (y.updateSymbol id f) :=
  h.link (.adjust id hf) h.explained

theorem Linking.markAllDynamic (h : Linking x y) (ids : List SymbolId) :
    Linking x (y.markAllDynamic ids) :=
  keep_foldl (Linking x) (fun _ id hz =>
    hz.adjust id (f := fun s => { s with isDynamic := true }) fun _ => rfl) ids h

/-- The symbol for a member outside. -/
def standIn (type : SymbolId) (member : Symbol) : Symbol where
  id := s!"{externalScope}::{type}.{member.declaredName}"
  name := member.declaredName
  kind := member.kind
  qualname := s!"{externalScope}.{member.declaredName}"
  scope := some externalScope
  isPhysical := false

theorem not_inside_standIn (type : SymbolId) (member : Symbol) :
    ¬ Inside (standIn type member).id := by
  change ¬ Inside (((("<external>" ++ "::") ++ type) ++ ".") ++ member.declaredName)
  simp [Inside]

/-- A graph with the scope of what is outside. -/
def withOutside (g : Graph) : Graph :=
  match g.addScope { id := externalScope, kind := .external } with
  | .ok g => g
  | .error _ => g

theorem placeholder_eq (y : Extraction) (type : SymbolId) (member : Symbol) :
    y.placeholder type member =
      ((standIn type member).id,
        { y with
          graph := match (withOutside y.graph).addSymbol (standIn type member) with
            | .ok g => g
            | .error _ => withOutside y.graph }) := by
  change (match (withOutside y.graph).addSymbol (standIn type member) with
    | .ok g => ((standIn type member).id, ({ y with graph := g } : Extraction))
    | .error _ => ((standIn type member).id, { y with graph := withOutside y.graph })) = _
  split <;> rfl

theorem Linking.withOutside (h : Linking x y) : Linking x { y with graph := withOutside y.graph } := by
  unfold Extraction.withOutside
  split
  · next g hadd =>
      refine h.link (.outside hadd) ?_
      obtain ⟨-, rfl⟩ := Graph.addScope_eq_ok hadd
      exact h.explained
  · exact h

/-- The symbol for a member outside is there, and nothing else is new. -/
theorem Linking.placeholder (h : Linking x y) (type : SymbolId) (member : Symbol) :
    Linking x (y.placeholder type member).2 ∧
      (y.placeholder type member).1 ∈ (y.placeholder type member).2.graph.symbolIds ∧
      ¬ Inside (y.placeholder type member).1 := by
  have hid := not_inside_standIn type member
  have hout := h.withOutside
  rw [placeholder_eq]
  split
  · next g hadd =>
      have hlink := hout.link (.stand hadd rfl hid)
      have hnew : (standIn type member).id ∉ (Extraction.withOutside y.graph).symbolIds :=
        fun hmem => by
          rw [Graph.addSymbol, Graph.contains_iff.2 hmem] at hadd
          cases hadd
      rw [Graph.addSymbol_of_not_mem hnew] at hadd
      obtain rfl := Except.ok.inj hadd
      exact ⟨hlink hout.explained,
        Graph.mem_symbolIds.2 ⟨_, List.mem_append_right _ (List.mem_singleton_self _), rfl⟩, hid⟩
  · next hadd =>
      refine ⟨hout, ?_, hid⟩
      by_contra hnew
      rw [Graph.addSymbol_of_not_mem hnew] at hadd
      cases hadd

theorem Registered.externalScope_not_mem (hx : Registered x) : externalScope ∉ x.graph.scopeIds :=
  fun hmem => (hx.scopeId _ hmem).2 (by decide)

theorem Registered.bodyScope_ne (hx : Registered x) {c : ClassFact} (hc : c ∈ x.classes) :
    c.bodyScope ≠ externalScope :=
  fun heq => hx.externalScope_not_mem (heq ▸ hx.bodyScope_mem hc)

section

variable (hx : Registered x) {c : ClassFact} (hc : c ∈ x.classes) {m : Symbol}
  (hm : m ∈ x.graph.membersOfScope c.bodyScope) {member : Symbol}
  (hmember : member.outline = m.outline)
include hx hc hm hmember

/-- Relating a member to what is found from some bases of its class. -/
theorem Linking.linkOverrides_foldl (hlink : Linkable m.declaredName) {bases : List SymbolId}
    (hbases : bases ⊆ x.graph.supertypes c.symbol) {found : Bool} (hy : Linking x y) :
    Linking x (bases.foldl (linkOverride member) (y, found)).1 := by
  have hid : member.id = m.id := Symbol.id_of_outline hmember
  have hname : member.declaredName = m.declaredName := Symbol.declaredName_of_outline hmember
  have hmem : m.id ∈ x.graph.symbolIds :=
    Graph.mem_symbolIds_of_mem (Graph.mem_membersOfScope.1 hm).1
  induction bases generalizing y found with
  | nil => exact hy
  | cons base bases ih =>
      have hbase := hbases List.mem_cons_self
      rw [List.foldl_cons]
      have hstep : Linking x (linkOverride member (y, found) base).1 := by
        unfold linkOverride
        dsimp only
        split
        · next overridden hfound =>
            split
            · exact hy
            · next hne =>
                rw [hy.beside.members, hname] at hfound
                refine hy.link (.override (hid ▸ hy.beside.symbolIds_subset hmem)
                  (hy.beside.symbolIds_subset (hx.mem_of_classMember? hfound))) fun e he => ?_
                rcases Graph.mem_addOverride.1 he with he | ⟨-, rfl⟩
                · exact hy.explained e he
                · exact .inr ⟨c, m, ⟨hc, hm, hlink, ⟨base, hbase, hfound⟩, hid ▸ hne⟩, hid.symm⟩
        · exact hy
      exact ih (fun b hb => hbases (List.mem_cons_of_mem _ hb)) hstep

omit hx hc in
/-- Relating a member to one outside. -/
theorem Linking.override_placeholder (type : SymbolId) (hy : Linking x y) :
    Linking x
      { (y.placeholder type member).2 with
        graph := (y.placeholder type member).2.graph.addOverride member.id
          (y.placeholder type member).1 } := by
  obtain ⟨hz, hmem, hid⟩ := hy.placeholder type member
  have hmem' : member.id ∈ (y.placeholder type member).2.graph.symbolIds := by
    rw [Symbol.id_of_outline hmember]
    exact hz.beside.symbolIds_subset
      (Graph.mem_symbolIds_of_mem (Graph.mem_membersOfScope.1 hm).1)
  refine hz.link (.override hmem' hmem) fun e he => ?_
  rcases Graph.mem_addOverride.1 he with he | ⟨-, rfl⟩
  · exact hz.explained e he
  · exact .inl hid

/-- Relating a member to all that it overrides. -/
theorem Linking.linkMember (hy : Linking x y) : Linking x (linkMember c y member) := by
  have hname : member.declaredName = m.declaredName := Symbol.declaredName_of_outline hmember
  unfold Extraction.linkMember
  dsimp only
  split
  · exact hy
  · next hguard =>
      have hlink : Linkable m.declaredName := by
        rw [← hname]
        simpa [Linkable] using hguard
      have hbases : y.graph.supertypes c.symbol ⊆ x.graph.supertypes c.symbol := by
        rw [hy.beside.supertypes_eq]
        exact List.Subset.refl _
      have hfold : Linking x ((y.graph.supertypes c.symbol).foldl (linkOverride member)
          (y, false)).1 := hy.linkOverrides_foldl hx hc hm hmember hlink hbases
      split
      · exact hfold.override_placeholder hm hmember c.symbol
      · exact hfold

end

/-- Relating all members of a class. -/
theorem Linking.linkMembers (hx : Registered x) {c : ClassFact} (hc : c ∈ x.classes)
    (hy : Linking x y) :
    Linking x ((y.graph.membersOfScope c.bodyScope).foldl (Extraction.linkMember c) y) := by
  refine keep_foldl_mem (Linking x) (fun z member hmember hz => ?_) hy
  obtain ⟨m, hm, hout⟩ := hy.beside.exists_member (hx.bodyScope_ne hc) hmember
  exact hz.linkMember hx hc hm hout.symm

/-- **Linking overrides adds overrides that were found and symbols for what is outside.** -/
theorem Registered.linking (hx : Registered x) : Linking x x.linkOverrides := by
  have hclasses : Linking x (x.classes.foldl
      (fun x c => (x.graph.membersOfScope c.bodyScope).foldl (linkMember c) x) x) := by
    exact keep_foldl_mem (Linking x) (fun y c hc hy => hy.linkMembers hx hc) hx.linking_self
  unfold linkOverrides
  refine keep_foldl (Linking x) (fun y s hy => ?_) _ hclasses
  split
  · exact hy.markAllDynamic _
  · exact hy

/-! ## What is found is overridden -/

theorem linkOverride_edges (member : Symbol) (state : Extraction × Bool) (base : SymbolId) :
    state.1.graph.overrideEdges ⊆ (linkOverride member state base).1.graph.overrideEdges := by
  unfold linkOverride
  dsimp only
  split
  · split
    · exact List.Subset.refl _
    · exact fun e he => Graph.mem_addOverride.2 (.inl he)
  · exact List.Subset.refl _

theorem placeholder_edges (y : Extraction) (type : SymbolId) (member : Symbol) :
    (y.placeholder type member).2.graph.overrideEdges = y.graph.overrideEdges := by
  have hout : (withOutside y.graph).overrideEdges = y.graph.overrideEdges := by
    unfold withOutside
    split
    · next hadd =>
        obtain ⟨-, rfl⟩ := Graph.addScope_eq_ok hadd
        rfl
    · rfl
  rw [placeholder_eq, ← hout]
  dsimp only
  split
  · next g hadd =>
      unfold Graph.addSymbol at hadd
      split at hadd
      · cases hadd
      · obtain rfl := Except.ok.inj hadd
        rfl
  · rfl

theorem linkMember_edges (c : ClassFact) (y : Extraction) (member : Symbol) :
    y.graph.overrideEdges ⊆ (linkMember c y member).graph.overrideEdges := by
  have hfold : ∀ (bases : List SymbolId) (state : Extraction × Bool),
      state.1.graph.overrideEdges ⊆
        (bases.foldl (linkOverride member) state).1.graph.overrideEdges := by
    intro bases
    induction bases with
    | nil => exact fun _ => List.Subset.refl _
    | cons base bases ih =>
        exact fun state => List.Subset.trans (linkOverride_edges member state base) (ih _)
  unfold linkMember
  dsimp only
  split
  · exact List.Subset.refl _
  · split
    · intro e he
      refine Graph.mem_addOverride.2 (.inl ?_)
      rw [placeholder_edges]
      exact hfold _ (y, false) he
    · exact hfold _ (y, false)

theorem markAllDynamic_edges (y : Extraction) (ids : List SymbolId) :
    (y.markAllDynamic ids).graph.overrideEdges = y.graph.overrideEdges :=
  proj_foldl (fun z : Extraction => z.graph.overrideEdges) (f := markDynamic) (fun _ _ => rfl) ids y

/-- A member is related to what is found from the bases of its class. -/
theorem Finds.mem_linkMember (hx : Registered x) {c : ClassFact} {m : Symbol} {found : SymbolId}
    (h : Finds x c m found) {member : Symbol} (hmember : member.outline = m.outline)
    (hy : Linking x y) : (m.id, found) ∈ (linkMember c y member).graph.overrideEdges := by
  obtain ⟨base, hbase, hfound⟩ := h.from_base
  have hid : member.id = m.id := Symbol.id_of_outline hmember
  have hname : member.declaredName = m.declaredName := Symbol.declaredName_of_outline hmember
  have hfold : (m.id, found) ∈
      ((y.graph.supertypes c.symbol).foldl (linkOverride member) (y, false)).1.graph.overrideEdges := by
    refine mem_foldl_of_step (fun state : Extraction × Bool => state.1.graph.overrideEdges)
      (fun state => Linking x state.1) (linkOverride_edges member) (a := base) ?_ ?_ hy
      (hy.beside.supertypes_eq ▸ hbase)
    · rintro ⟨z, flag⟩ hz
      have hz' : z.classMember? base member.declaredName = some found := by
        rw [hz.beside.members, hname]
        exact hfound
      have hne : found ≠ member.id := hid ▸ h.other
      simp only [linkOverride, hz', if_neg hne]
      exact Graph.mem_addOverride.2 (.inr ⟨fun heq => h.other (heq.symm.trans hid), by rw [hid]⟩)
    · rintro ⟨z, flag⟩ b hb hz
      rw [hy.beside.supertypes_eq] at hb
      have hone : [b] ⊆ x.graph.supertypes c.symbol := List.cons_subset.2 ⟨hb, List.nil_subset _⟩
      exact hz.linkOverrides_foldl hx h.class_mem h.member_mem hmember h.linkable hone
  have hguard : ¬ (Name.isDunder member.declaredName ||
      Visibility.ofMember member.declaredName = .priv) = true := by
    rw [hname]
    simpa [Linkable] using h.linkable
  unfold linkMember
  dsimp only
  rw [if_neg hguard]
  split
  · refine Graph.mem_addOverride.2 (.inl ?_)
    rw [placeholder_edges]
    exact hfold
  · exact hfold

/-- **Everything that is found is overridden.** -/
theorem Finds.mem_linkOverrides (hx : Registered x) {c : ClassFact} {m : Symbol} {found : SymbolId}
    (h : Finds x c m found) : (m.id, found) ∈ x.linkOverrides.graph.overrideEdges := by
  have hinner : ∀ (c : ClassFact) (y : Extraction), y.graph.overrideEdges ⊆
      ((y.graph.membersOfScope c.bodyScope).foldl (linkMember c) y).graph.overrideEdges := by
    intro c y
    generalize y.graph.membersOfScope c.bodyScope = members
    induction members generalizing y with
    | nil => exact List.Subset.refl _
    | cons m members ih => exact List.Subset.trans (linkMember_edges c y m) (ih _)
  have hclasses : (m.id, found) ∈ (x.classes.foldl
      (fun x c => (x.graph.membersOfScope c.bodyScope).foldl (linkMember c) x) x).graph.overrideEdges := by
    refine mem_foldl_of_step (fun y : Extraction => y.graph.overrideEdges) (Linking x)
      (fun y d => hinner d y) (a := c) (fun y hy => ?_) (fun y d hd hy => hy.linkMembers hx hd)
      hx.linking_self h.class_mem
    obtain ⟨member, hmember, hout⟩ := hy.beside.member_exists (hx.bodyScope_ne h.class_mem)
      h.member_mem
    refine mem_foldl_of_step (fun y : Extraction => y.graph.overrideEdges) (Linking x)
      (linkMember_edges c) (fun z hz => h.mem_linkMember hx hout hz)
      (fun z n hn hz => ?_) hy hmember
    obtain ⟨k, hk, hkn⟩ := hy.beside.exists_member (hx.bodyScope_ne h.class_mem) hn
    exact hz.linkMember hx h.class_mem hk hkn.symm
  unfold linkOverrides
  refine keep_foldl (fun y : Extraction => (m.id, found) ∈ y.graph.overrideEdges)
    (fun y s hy => ?_) _ hclasses
  split
  · rwa [markAllDynamic_edges]
  · exact hy

/-! ## Resolved programs -/

/-- The overrides between members of the program are those that are found. -/
theorem Registered.overrides_iff (hx : Registered x) {a b : SymbolId} (hb : Inside b) :
    x.linkOverrides.graph.Overrides a b ↔ ∃ c m, Finds x c m b ∧ m.id = a := by
  constructor
  · intro h
    exact (hx.linking.explained (a, b) h).resolve_left (not_not_intro hb)
  · rintro ⟨c, m, hfinds, rfl⟩
    exact hfinds.mem_linkOverrides hx

variable {ms : List SourceModule}

/-- The declarations are in order when overrides are linked. -/
theorem Gathered.registered_withFields (h : Gathered ms x) (hms : ∀ m ∈ ms, Legible m) :
    Registered x.withFields :=
  (h.registered hms).begun.steps (withFields_steps (h.registered hms))

/-- **The graph of a resolved program is well formed.** -/
theorem Gathered.wellFormed_resolve (h : Gathered ms x) (hms : ∀ m ∈ ms, Legible m) :
    x.resolve.graph.WellFormed := by
  have hlinked := (h.registered_withFields hms).linking.wellFormed
  have hgraph : x.resolve.graph.outline = x.withOverrides.graph.outline :=
    (congrArg Extraction.graph (resolve_outline h.resolved_eq) :)
  refine hlinked.of_outline hgraph ?_
  rw [resolve_eq h.resolved_eq]
  rfl

/-- A resolved program has the declarations that it had before overrides were linked. -/
theorem Gathered.beside_resolve (h : Gathered ms x) (hms : ∀ m ∈ ms, Legible m) :
    Beside x.withFields x.resolve :=
  (h.registered_withFields hms).linking.beside.of_outline (resolve_outline h.resolved_eq)

theorem Gathered.classes_resolve (h : Gathered ms x) :
    x.resolve.classes = x.withFields.classes ∧ x.resolve.classes = x.classes := by
  have hresolve : x.resolve.classes = x.classes :=
    (congrArg Extraction.classes (resolve_notes h.resolved_eq) :)
  have hfields : x.withFields.classes = x.classes :=
    (congrArg Extraction.classes x.withFields_notes :)
  exact ⟨hresolve.trans hfields.symm, hresolve⟩

/-- **In a resolved program, a member overrides what is found under its name from each base of its
class, and nothing else in the program.** -/
theorem Gathered.overrides_resolve_iff (h : Gathered ms x) (hms : ∀ m ∈ ms, Legible m)
    {a b : SymbolId} (hb : Inside b) :
    x.resolve.graph.Overrides a b ↔ ∃ c m, Finds x.resolve c m b ∧ m.id = a := by
  have hfields := h.registered_withFields hms
  have hbeside := h.beside_resolve hms
  have hclasses := h.classes_resolve.1
  have hedges : x.resolve.graph.overrideEdges = x.withFields.linkOverrides.graph.overrideEdges :=
    (congrArg (fun y : Extraction => y.graph.overrideEdges) (resolve_outline h.resolved_eq) :)
  have hmembers : ∀ c ∈ x.withFields.classes, c.bodyScope ≠ externalScope :=
    fun c hc => hfields.bodyScope_ne hc
  have hiff := hfields.overrides_iff (a := a) hb
  unfold Graph.Overrides at hiff ⊢
  rw [hedges, hiff]
  constructor
  · rintro ⟨c, m, hfinds, rfl⟩
    obtain ⟨n, hn, hout⟩ := hbeside.member_exists (hmembers c hfinds.class_mem) hfinds.member_mem
    have hname := Symbol.declaredName_of_outline hout
    have hid := Symbol.id_of_outline hout
    refine ⟨c, n, ⟨hclasses ▸ hfinds.class_mem, hn, hname ▸ hfinds.linkable, ?_,
      hid ▸ hfinds.other⟩, hid⟩
    rw [hbeside.supertypes_eq, hbeside.members, hname]
    exact hfinds.from_base
  · rintro ⟨c, m, hfinds, rfl⟩
    have hc : c ∈ x.withFields.classes := hclasses ▸ hfinds.class_mem
    obtain ⟨n, hn, hout⟩ := hbeside.exists_member (hmembers c hc) hfinds.member_mem
    have hname := Symbol.declaredName_of_outline hout
    have hid := Symbol.id_of_outline hout
    refine ⟨c, n, ⟨hc, hn, hname ▸ hfinds.linkable, ?_, hid ▸ hfinds.other⟩, hid⟩
    have hbase := hfinds.from_base
    rw [hbeside.supertypes_eq, hbeside.members] at hbase
    rw [hname]
    exact hbase

end Extraction

end Pseudonym
