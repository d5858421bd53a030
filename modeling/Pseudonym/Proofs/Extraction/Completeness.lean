import Pseudonym.Proofs.Extraction.Overriding

/-!
# Completeness of overrides

A member overrides what is found under its name from each direct base of its class. Members of
classes further above are reached through the member that was found, or not at all: the search from
a base stops at the first class that has the name. `overrides_complete_iff` says exactly when a
member is reached from all classes below. With several bases it may not be
(`not_overrides_complete_vault`).

## Proof shape

What a resolved program says about members is collected once (`Hierarchy`): where a member is found
from, and that classes and members are told apart. A step to a member starts at a class below
(`Hierarchy.derives_of_override`), so a chain is read off from its end. In the other direction
chains are built by induction over the classes, from the top down.
-/

namespace Pseudonym

open Python Relation

namespace Extraction

variable {x y : Extraction} {ms : List SourceModule}

/-- The members of the program's classes, each with its class. -/
def typeMembers (x : Extraction) : List (ClassFact × Symbol) :=
  x.classes.flatMap fun c => (x.graph.membersOfScope c.bodyScope).map (c, ·)

theorem mem_typeMembers {p : ClassFact × Symbol} :
    p ∈ x.typeMembers ↔ p.1 ∈ x.classes ∧ p.2 ∈ x.graph.membersOfScope p.1.bodyScope := by
  obtain ⟨c, m⟩ := p
  simp only [typeMembers, List.mem_flatMap, List.mem_map, Prod.mk.injEq]
  constructor
  · rintro ⟨_, hc, _, hm, rfl, rfl⟩
    exact ⟨hc, hm⟩
  · exact fun ⟨hc, hm⟩ => ⟨c, hc, m, hm, rfl, rfl⟩

/-- What the declarations of a program say about the members of its classes. -/
structure Hierarchy (x : Extraction) : Prop where
  symbol_mem : ∀ c ∈ x.classes, c.symbol ∈ x.graph.symbolIds
  mem_above : ∀ t u, u ∈ x.graph.allSupertypes t ↔ u ≠ t ∧ TransGen x.graph.Derives t u
  /-- Members are symbols of the program. -/
  inside : ∀ p ∈ x.typeMembers, Inside p.2.id
  /-- A member belongs to one class and has one name. -/
  unique : ∀ p ∈ x.typeMembers, ∀ q ∈ x.typeMembers, p.2.id = q.2.id →
    p.1.symbol = q.1.symbol ∧ p.2.declaredName = q.2.declaredName
  /-- What is found from a class under a name has that name and belongs to it or a class above. -/
  found : ∀ type name id, x.classMember? type name = some id → ∀ q ∈ x.typeMembers, q.2.id = id →
    q.2.declaredName = name ∧ q.1.symbol ∈ type :: x.graph.allSupertypes type
  overrides : ∀ a b, Inside b → (x.graph.Overrides a b ↔ ∃ c m, Finds x c m b ∧ m.id = a)

/-- The scope of a class tells the class. -/
theorem Registered.owner_of_bodyScope (hx : Registered x) {c : ClassFact} (hc : c ∈ x.classes)
    {b : Scope} (hb : b ∈ x.graph.scopes) (hid : b.id = c.bodyScope) : b.owner = some c.symbol := by
  obtain ⟨d, hd, hdid, -, howner, -⟩ := (hx.classes c hc).body
  have hsame : some b = some d := by
    rw [← hx.wellFormed.scope?_id hb, ← hx.wellFormed.scope?_id hd, hid, hdid]
  rw [Option.some.inj hsame]
  exact howner

section

variable (hx : Registered x)
include hx

theorem Registered.class_unique {p q : ClassFact × Symbol} (hp : p ∈ x.typeMembers)
    (hq : q ∈ x.typeMembers) (hid : p.2.id = q.2.id) :
    p.1.symbol = q.1.symbol ∧ p.2.declaredName = q.2.declaredName := by
  obtain ⟨hc, hm⟩ := mem_typeMembers.1 hp
  obtain ⟨hd, hn⟩ := mem_typeMembers.1 hq
  obtain ⟨hm, hmscope⟩ := Graph.mem_membersOfScope.1 hm
  obtain ⟨hn, hnscope⟩ := Graph.mem_membersOfScope.1 hn
  have hsame := hx.wellFormed.symbol_ext hm hn hid
  have hscope : p.1.bodyScope = q.1.bodyScope := by
    rw [hsame] at hmscope
    exact Option.some.inj (hmscope.symm.trans hnscope)
  obtain ⟨b, hb, hbid, -, howner, -⟩ := (hx.classes _ hc).body
  have howner' := hx.owner_of_bodyScope hd hb (hbid.trans hscope)
  exact ⟨Option.some.inj (howner.symm.trans howner'), by rw [hsame]⟩

theorem Registered.found_above {type id : SymbolId} {name : String}
    (h : x.classMember? type name = some id) {q : ClassFact × Symbol} (hq : q ∈ x.typeMembers)
    (hid : q.2.id = id) :
    q.2.declaredName = name ∧ q.1.symbol ∈ type :: x.graph.allSupertypes type := by
  obtain ⟨t, ht, b, hb, hdeclared⟩ := exists_of_classMember? h
  obtain ⟨s, hs, hsid, hscope, hname⟩ := hx.symbol_of_declared? hdeclared
  obtain ⟨hd, hn⟩ := mem_typeMembers.1 hq
  obtain ⟨hn, hnscope⟩ := Graph.mem_membersOfScope.1 hn
  have hsame := hx.wellFormed.symbol_ext hn hs (hid.trans hsid.symm)
  obtain ⟨hb, howner⟩ := Graph.ownedScope_eq_some hb
  have hbody : b.id = q.1.bodyScope := by
    rw [hsame] at hnscope
    exact Option.some.inj (hscope.symm.trans hnscope)
  have hsymbol := hx.owner_of_bodyScope hd hb hbody
  rw [Option.some.inj (hsymbol.symm.trans howner), hsame]
  exact ⟨hname, ht⟩

end

/-- What holds of the members before overrides are linked holds of the resolved program. -/
theorem Gathered.hierarchy (h : Gathered ms x) (hms : ∀ m ∈ ms, Legible m) :
    Hierarchy x.resolve := by
  have hy := h.registered_withFields hms
  have hbeside := h.beside_resolve hms
  have hclasses := h.classes_resolve.1
  have hderives : x.resolve.graph.Derives = x.withFields.graph.Derives := by
    unfold Graph.Derives
    rw [hbeside.supertypes_eq]
  have hmember : ∀ p ∈ x.resolve.typeMembers, ∃ n, (p.1, n) ∈ x.withFields.typeMembers ∧
      n.id = p.2.id ∧ n.declaredName = p.2.declaredName := by
    intro p hp
    obtain ⟨hc, hm⟩ := mem_typeMembers.1 hp
    rw [hclasses] at hc
    obtain ⟨n, hn, hout⟩ := hbeside.exists_member (hy.bodyScope_ne hc) hm
    exact ⟨n, mem_typeMembers.2 ⟨hc, hn⟩, Symbol.id_of_outline hout,
      Symbol.declaredName_of_outline hout⟩
  constructor
  case symbol_mem =>
    intro c hc
    exact hbeside.symbolIds_subset (hy.classes c (hclasses ▸ hc)).symbol_in.mem
  case mem_above =>
    intro t u
    rw [hbeside.allSupertypes, hderives]
    exact Graph.mem_allSupertypes_iff hy.wellFormed
  case inside =>
    intro p hp
    obtain ⟨n, hn, hid, -⟩ := hmember p hp
    have hmem := (Graph.mem_membersOfScope.1 (mem_typeMembers.1 hn).2).1
    rw [← hid]
    exact (hy.symbolId _ (Graph.mem_symbolIds_of_mem hmem)).2
  case unique =>
    intro p hp q hq hid
    obtain ⟨m, hm, hmid, hmname⟩ := hmember p hp
    obtain ⟨n, hn, hnid, hnname⟩ := hmember q hq
    obtain ⟨hsymbol, hname⟩ := hy.class_unique hm hn (by rw [hmid, hnid, hid])
    exact ⟨hsymbol, hmname.symm.trans (hname.trans hnname)⟩
  case found =>
    intro type name id hfound q hq hid
    obtain ⟨n, hn, hnid, hnname⟩ := hmember q hq
    rw [hbeside.members] at hfound
    rw [hbeside.allSupertypes, ← hnname]
    exact hy.found_above hfound hn (hnid.trans hid)
  case overrides =>
    exact fun a b hb => h.overrides_resolve_iff hms hb

/-! ## Chains of overrides -/

/-- A member, and one of a class above under the same name, which overrides are linked for. -/
structure Overridable (x : Extraction) (p q : ClassFact × Symbol) : Prop where
  above : q.1.symbol ∈ x.graph.allSupertypes p.1.symbol
  same_name : p.2.declaredName = q.2.declaredName
  linkable : Linkable p.2.declaredName

/-- The search from some base of its class leads a member to another one, or to a member of a class
below that one's class. -/
def LeadsTo (x : Extraction) (p q : ClassFact × Symbol) : Prop :=
  ∃ base ∈ x.graph.supertypes p.1.symbol, ∃ found ∈ x.classMember? base p.2.declaredName,
    found = q.2.id ∨
      ∃ s ∈ x.typeMembers, s.2.id = found ∧ q.1.symbol ∈ x.graph.allSupertypes s.1.symbol

instance (x : Extraction) (p q : ClassFact × Symbol) : Decidable (Overridable x p q) :=
  decidable_of_iff
    (q.1.symbol ∈ x.graph.allSupertypes p.1.symbol ∧ p.2.declaredName = q.2.declaredName ∧
      Name.isDunder p.2.declaredName = false ∧ Visibility.ofMember p.2.declaredName ≠ .priv)
    ⟨fun ⟨habove, hname, hlink⟩ => ⟨habove, hname, hlink⟩,
      fun ⟨habove, hname, hlink⟩ => ⟨habove, hname, hlink⟩⟩

instance (x : Extraction) (p q : ClassFact × Symbol) : Decidable (LeadsTo x p q) :=
  inferInstanceAs (Decidable (∃ base ∈ x.graph.supertypes p.1.symbol,
    ∃ found ∈ x.classMember? base p.2.declaredName, found = q.2.id ∨
      ∃ s ∈ x.typeMembers, s.2.id = found ∧ q.1.symbol ∈ x.graph.allSupertypes s.1.symbol))

namespace Hierarchy

variable {p q : ClassFact × Symbol} (hx : Hierarchy x)
include hx

/-- What is found from a base belongs to a class above. -/
theorem derives_of_found {type base : SymbolId} (hbase : base ∈ x.graph.supertypes type)
    {name : String} {found : SymbolId} (hfound : x.classMember? base name = some found)
    (hq : q ∈ x.typeMembers) (hid : q.2.id = found) :
    TransGen x.graph.Derives type q.1.symbol := by
  obtain ⟨-, hmem⟩ := hx.found base name found hfound q hq hid
  rcases List.mem_cons.1 hmem with heq | hmem
  · rw [heq]
    exact .single hbase
  · exact .head hbase ((hx.mem_above _ _).1 hmem).2

/-- A step to a member starts at a member of a class below. -/
theorem derives_of_override (hq : q ∈ x.typeMembers) {id : SymbolId}
    (h : x.graph.Overrides id q.2.id) :
    ∃ s ∈ x.typeMembers, s.2.id = id ∧ TransGen x.graph.Derives s.1.symbol q.1.symbol := by
  obtain ⟨k, s, hfinds, hid⟩ := (hx.overrides _ _ (hx.inside q hq)).1 h
  obtain ⟨base, hbase, hfound⟩ := hfinds.from_base
  exact ⟨(k, s), mem_typeMembers.2 ⟨hfinds.class_mem, hfinds.member_mem⟩, hid,
    hx.derives_of_found hbase hfound hq rfl⟩

/-- Chains of overrides that lead to a member start at members of classes below. -/
theorem derives_of_overrides (hq : q ∈ x.typeMembers) {id : SymbolId}
    (h : TransGen x.graph.Overrides id q.2.id) :
    ∃ s ∈ x.typeMembers, s.2.id = id ∧ TransGen x.graph.Derives s.1.symbol q.1.symbol := by
  -- From the end of the chain to its start: each step leads to a member, so it was found.
  induction h using TransGen.head_induction_on with
  | single hstep => exact hx.derives_of_override hq hstep
  | head hstep _ ih =>
      obtain ⟨t, ht, rfl, hup⟩ := ih
      obtain ⟨s, hs, hid, hstep⟩ := hx.derives_of_override ht hstep
      exact ⟨s, hs, hid, hstep.trans hup⟩

variable (hac : x.graph.DerivesAcyclic)
include hac

theorem mem_above_of_derives {t u : SymbolId} (h : TransGen x.graph.Derives t u) :
    u ∈ x.graph.allSupertypes t :=
  (hx.mem_above t u).2 ⟨fun heq => hac t (heq ▸ h), h⟩

/-- A chain of overrides begins with a search that leads there. -/
theorem leadsTo_of_overrides (hp : p ∈ x.typeMembers) (hq : q ∈ x.typeMembers)
    (hchain : TransGen x.graph.Overrides p.2.id q.2.id) : LeadsTo x p q := by
  have first : ∀ {found}, x.graph.Overrides p.2.id found → Inside found →
      ∃ base ∈ x.graph.supertypes p.1.symbol,
        x.classMember? base p.2.declaredName = some found := by
    intro found hstep hinside
    obtain ⟨k, s, hfinds, hid⟩ := (hx.overrides _ _ hinside).1 hstep
    obtain ⟨hsymbol, hname⟩ := hx.unique p hp (k, s)
      (mem_typeMembers.2 ⟨hfinds.class_mem, hfinds.member_mem⟩) hid.symm
    rw [hsymbol, hname]
    exact hfinds.from_base
  obtain ⟨found, hstep, hrest⟩ := TransGen.head'_iff.1 hchain
  rcases reflTransGen_iff_eq_or_transGen.1 hrest with heq | hrest
  · obtain ⟨base, hbase, hfound⟩ := first hstep (heq ▸ hx.inside q hq)
    exact ⟨base, hbase, found, hfound, .inl heq.symm⟩
  · obtain ⟨s, hs, hid, hup⟩ := hx.derives_of_overrides hq hrest
    obtain ⟨base, hbase, hfound⟩ := first hstep (hid ▸ hx.inside s hs)
    exact ⟨base, hbase, found, hfound, .inr ⟨s, hs, hid, hx.mem_above_of_derives hac hup⟩⟩

/-- A member overrides what the search from a base of its class leads to. -/
theorem overrides_of_found (hp : p ∈ x.typeMembers) (hlink : Linkable p.2.declaredName)
    {base : SymbolId} (hbase : base ∈ x.graph.supertypes p.1.symbol) (hq : q ∈ x.typeMembers)
    (hfound : x.classMember? base p.2.declaredName = some q.2.id) :
    x.graph.Overrides p.2.id q.2.id := by
  obtain ⟨hc, hm⟩ := mem_typeMembers.1 hp
  have hup := hx.derives_of_found hbase hfound hq rfl
  have hother : q.2.id ≠ p.2.id := fun hid => by
    rw [(hx.unique q hq p hp hid).1] at hup
    exact hac _ hup
  exact (hx.overrides _ _ (hx.inside q hq)).2
    ⟨p.1, p.2, ⟨hc, hm, hlink, ⟨base, hbase, hfound⟩, hother⟩, rfl⟩

/-- Where every search leads on, all chains are there. -/
theorem overrides_of_leadsTo (hq : q ∈ x.typeMembers)
    (hlead : ∀ p ∈ x.typeMembers, Overridable x p q → LeadsTo x p q)
    (hp : p ∈ x.typeMembers) (h : Overridable x p q) :
    TransGen x.graph.Overrides p.2.id q.2.id := by
  -- Registered classes are finitely many, so "lies above" is well founded on them.
  let above (a b : { t // t ∈ x.graph.symbolIds }) : Prop := TransGen x.graph.Derives b.1 a.1
  have : IsTrans _ above := ⟨fun _ _ _ hab hbc => hbc.trans hab⟩
  have : Std.Irrefl above := ⟨fun a ha => hac a.1 ha⟩
  have hwf : WellFounded above := Finite.wellFounded_of_trans_of_irrefl above
  have hmem : ∀ {p}, p ∈ x.typeMembers → p.1.symbol ∈ x.graph.symbolIds :=
    fun hp => hx.symbol_mem _ (mem_typeMembers.1 hp).1
  have hmain : ∀ t : { t // t ∈ x.graph.symbolIds }, ∀ p ∈ x.typeMembers, p.1.symbol = t.1 →
      Overridable x p q → TransGen x.graph.Overrides p.2.id q.2.id := by
    intro t
    induction t using hwf.induction with
    | _ t ih =>
        intro p hp hpt h
        obtain ⟨base, hbase, found, hfound, rfl | ⟨s, hs, rfl, habove⟩⟩ := hlead p hp h
        · exact .single (hx.overrides_of_found hac hp h.linkable hbase hq hfound)
        · have hstep := hx.overrides_of_found hac hp h.linkable hbase hs hfound
          have hname := (hx.found base _ _ hfound s hs rfl).1
          have hlies : above ⟨s.1.symbol, hmem hs⟩ t := by
            change TransGen x.graph.Derives t.1 s.1.symbol
            rw [← hpt]
            exact hx.derives_of_found hbase hfound hs rfl
          exact .head hstep (ih _ hlies s hs rfl
            ⟨habove, hname.trans h.same_name, hname ▸ h.linkable⟩)
  exact hmain ⟨p.1.symbol, hmem hp⟩ p hp rfl h

end Hierarchy

/-! ## Programs that differ in uses only -/

section

variable (hout : y.outline = x.outline) (hclasses : y.classes = x.classes)
include hout hclasses

/-- The same members, up to uses. -/
theorem exists_typeMember {p : ClassFact × Symbol} (hp : p ∈ x.typeMembers) :
    ∃ m, (p.1, m) ∈ y.typeMembers ∧ m.outline = p.2.outline := by
  obtain ⟨hc, hm⟩ := mem_typeMembers.1 hp
  have hgraph : y.graph.outline = x.graph.outline := (congrArg Extraction.graph hout :)
  have hmem : p.2.outline ∈ (y.graph.membersOfScope p.1.bodyScope).map Symbol.outline := by
    rw [← Graph.membersOfScope_outline, hgraph, Graph.membersOfScope_outline]
    exact List.mem_map_of_mem hm
  obtain ⟨m, hm, hout⟩ := List.mem_map.1 hmem
  exact ⟨m, mem_typeMembers.2 ⟨hclasses ▸ hc, hm⟩, hout⟩

variable {c d : ClassFact} {m m' n n' : Symbol} (hm : m'.outline = m.outline)

omit hclasses in
include hm in
theorem Overridable.of_outline (hn : n'.outline = n.outline) (h : Overridable x (c, m) (d, n)) :
    Overridable y (c, m') (d, n') := by
  have hgraph : y.graph.outline = x.graph.outline := (congrArg Extraction.graph hout :)
  have hmname := Symbol.declaredName_of_outline hm
  have hnname := Symbol.declaredName_of_outline hn
  refine ⟨?_, hmname.trans (h.same_name.trans hnname.symm), hmname ▸ h.linkable⟩
  rw [← Graph.allSupertypes_outline, hgraph, Graph.allSupertypes_outline]
  exact h.above

include hm in
theorem LeadsTo.of_outline (hn : n'.outline = n.outline) (h : LeadsTo x (c, m) (d, n)) :
    LeadsTo y (c, m') (d, n') := by
  have hgraph : y.graph.outline = x.graph.outline := (congrArg Extraction.graph hout :)
  have hmembers : y.classMember? = x.classMember? := by
    funext type name
    rw [← classMember?_outline, hout, classMember?_outline]
  obtain ⟨base, hbase, found, hfound, hend⟩ := h
  refine ⟨base, ?_, found, ?_, ?_⟩
  · rw [← Graph.supertypes_outline, hgraph]
    exact hbase
  · rw [hmembers, Symbol.declaredName_of_outline hm]
    exact hfound
  · rcases hend with hend | ⟨s, hs, hid, habove⟩
    · exact .inl (hend.trans (Symbol.id_of_outline hn).symm)
    · obtain ⟨t, ht, htout⟩ := exists_typeMember hout hclasses hs
      refine .inr ⟨(s.1, t), ht, (Symbol.id_of_outline htout).trans hid, ?_⟩
      rw [← Graph.allSupertypes_outline, hgraph, Graph.allSupertypes_outline]
      exact habove

end

/-- Methods without parameters assign no fields. -/
theorem declareFields_of_receivers (h : ∀ f ∈ x.functions, f.receiver = none) :
    x.declareFields = x := by
  have hmethods : ∀ c : ClassFact, (x.methodsOf c.symbol).foldl (declareMethodFields c) x = x := by
    intro c
    refine keep_foldl_mem (· = x) (fun y f hf hy => ?_) rfl
    rw [hy, declareMethodFields, h f (List.mem_filter.1 hf).1]
    rfl
  unfold declareFields
  refine keep_foldl (· = x) (fun y c hy => ?_) _ rfl
  rw [hy]
  exact hmethods c

/-- Programs whose methods assign no fields are known once their classes are related. -/
theorem Gathered.settled_of_receivers (h : Gathered ms x)
    (hreceivers : ∀ f ∈ x.withBases.functions, f.receiver = none) :
    x.resolve.outline = x.withBases.linkOverrides.outline ∧
      x.resolve.classes = x.withBases.linkOverrides.classes ∧
      x.resolve.graph.supertypeEdges = x.withBases.linkOverrides.graph.supertypeEdges ∧
      x.resolve.graph.overrideEdges = x.withBases.linkOverrides.graph.overrideEdges := by
  have hfields : x.withFields = x.withBases := declareFields_of_receivers hreceivers
  have hout := resolve_outline h.resolved_eq
  have hclasses : x.withOverrides.classes = x.classes :=
    (congrArg Extraction.classes x.withOverrides_notes :)
  rw [withOverrides, hfields] at hout hclasses
  generalize x.withBases.linkOverrides = y at hout hclasses ⊢
  have hgraph : x.resolve.graph.outline = y.graph.outline := (congrArg Extraction.graph hout :)
  exact ⟨hout, h.classes_resolve.2.trans hclasses.symm,
    (congrArg Graph.supertypeEdges hgraph :), (congrArg Graph.overrideEdges hgraph :)⟩

/-- **A member of a class overrides all members of its name in the classes above, through chains of
overrides, exactly when the searches from the bases of its class and of the classes between lead
there.** -/
theorem overrides_complete_iff (h : Gathered ms x) (hms : ∀ m ∈ ms, Legible m)
    (hac : x.resolve.graph.DerivesAcyclic) :
    ∀ q ∈ x.resolve.typeMembers,
      (∀ p ∈ x.resolve.typeMembers, Overridable x.resolve p q →
          TransGen x.resolve.graph.Overrides p.2.id q.2.id) ↔
        ∀ p ∈ x.resolve.typeMembers, Overridable x.resolve p q → LeadsTo x.resolve p q := by
  have hx := h.hierarchy hms
  intro q hq
  constructor
  · exact fun hall p hp hpair => hx.leadsTo_of_overrides hac hp hq (hall p hp hpair)
  · exact fun hlead p hp hpair => hx.overrides_of_leadsTo hac hq hlead hp hpair

/-- A disk, a store made of it and a vault made of that, which all run. -/
def ladderText : String :=
  "class Disk:\n    def run(): pass\n" ++
  "class Store(Disk):\n    def run(): pass\n" ++
  "class Vault(Store):\n    def run(): pass\n"

/-- The module with these classes. -/
def ladder : SourceModule where
  name := "vaults"
  path := ⟨"", ["vaults.py"]⟩
  source := ladderText
  tree := (Module.parse? ladderText).getD default

/-- The vault overrides the disk through the store. -/
theorem overrides_complete_iff_ladder :
    ∃ x, Gathered [ladder] x ∧ (∀ m ∈ [ladder], Legible m) ∧ x.resolve.graph.DerivesAcyclic ∧
      ∃ p ∈ x.resolve.typeMembers, ∃ q ∈ x.resolve.typeMembers,
        p.2.id = "vaults:Vault::run" ∧ q.2.id = "vaults:Disk::run" ∧ Overridable x.resolve p q ∧
        TransGen x.resolve.graph.Overrides p.2.id q.2.id := by
  let order : List SymbolId := ["vaults::Disk", "vaults::Store", "vaults::Vault"]
  obtain ⟨x, h, hlegible, hreceivers, hranked, hleads, p, hp, q, hq, hpid, hqid, hpair⟩ :
      ∃ x, Gathered [ladder] x ∧ (∀ m ∈ [ladder], Legible m) ∧
        (∀ f ∈ x.withBases.functions, f.receiver = none) ∧
        (∀ e ∈ x.withBases.linkOverrides.graph.supertypeEdges,
          order.idxOf e.2 < order.idxOf e.1) ∧
        (∀ p ∈ x.withBases.linkOverrides.typeMembers,
          ∀ q ∈ x.withBases.linkOverrides.typeMembers,
          Overridable x.withBases.linkOverrides p q → LeadsTo x.withBases.linkOverrides p q) ∧
        ∃ p ∈ x.withBases.linkOverrides.typeMembers,
          ∃ q ∈ x.withBases.linkOverrides.typeMembers,
          p.2.id = "vaults:Vault::run" ∧ q.2.id = "vaults:Disk::run" ∧
          Overridable x.withBases.linkOverrides p q :=
    exists_gathered (by decide +kernel)
  obtain ⟨hout, hclasses, hsupers, -⟩ := h.settled_of_receivers hreceivers
  have hac : x.resolve.graph.DerivesAcyclic := by
    refine Graph.derivesAcyclic_of_rank order.idxOf fun e he => hranked e ?_
    rwa [← hsupers]
  obtain ⟨m, hm, hmout⟩ := exists_typeMember hout hclasses hp
  obtain ⟨n, hn, hnout⟩ := exists_typeMember hout hclasses hq
  have hpair' := hpair.of_outline hout hmout hnout
  refine ⟨x, h, hlegible, hac, (p.1, m), hm, (q.1, n), hn, (Symbol.id_of_outline hmout).trans hpid,
    (Symbol.id_of_outline hnout).trans hqid, hpair', ?_⟩
  refine (overrides_complete_iff h hlegible hac (q.1, n) hn).2 (fun r hr hoverridable => ?_)
    (p.1, m) hm hpair'
  obtain ⟨k, hk, hkout⟩ := exists_typeMember hout.symm hclasses.symm hr
  exact (hleads (r.1, k) hk q hq (hoverridable.of_outline hout.symm hkout hnout.symm)).of_outline
    hout hclasses hkout.symm hnout

/-- A disk and a tape, a store made of both and a vault made of that; only the store does not run. -/
def vaultText : String :=
  "class Disk:\n    def run(): pass\n" ++
  "class Tape:\n    def run(): pass\n" ++
  "class Store(Disk, Tape): pass\n" ++
  "class Vault(Store):\n    def run(): pass\n"

/-- The module with these classes. -/
def vault : SourceModule where
  name := "vaults"
  path := ⟨"", ["vaults.py"]⟩
  source := vaultText
  tree := (Module.parse? vaultText).getD default

/-- The search from the store stops at the disk, so nothing relates the vault to the tape. -/
theorem not_overrides_complete_vault :
    ∃ x, Gathered [vault] x ∧ (∀ m ∈ [vault], Legible m) ∧ x.resolve.graph.DerivesAcyclic ∧
      ∃ p ∈ x.resolve.typeMembers, ∃ q ∈ x.resolve.typeMembers,
        p.2.id = "vaults:Vault::run" ∧ q.2.id = "vaults:Tape::run" ∧ Overridable x.resolve p q ∧
        ¬ TransGen x.resolve.graph.Overrides p.2.id q.2.id := by
  let order : List SymbolId := ["vaults::Disk", "vaults::Tape", "vaults::Store", "vaults::Vault"]
  obtain ⟨x, h, hlegible, hreceivers, hranked, hedges, p, hp, q, hq, hpid, hqid, hpair⟩ :
      ∃ x, Gathered [vault] x ∧ (∀ m ∈ [vault], Legible m) ∧
        (∀ f ∈ x.withBases.functions, f.receiver = none) ∧
        (∀ e ∈ x.withBases.linkOverrides.graph.supertypeEdges,
          order.idxOf e.2 < order.idxOf e.1) ∧
        x.withBases.linkOverrides.graph.overrideEdges =
          [("vaults:Vault::run", "vaults:Disk::run")] ∧
        ∃ p ∈ x.withBases.linkOverrides.typeMembers,
          ∃ q ∈ x.withBases.linkOverrides.typeMembers,
          p.2.id = "vaults:Vault::run" ∧ q.2.id = "vaults:Tape::run" ∧
          Overridable x.withBases.linkOverrides p q :=
    exists_gathered (by decide +kernel)
  obtain ⟨hout, hclasses, hsupers, hoverrides⟩ := h.settled_of_receivers hreceivers
  have hac : x.resolve.graph.DerivesAcyclic := by
    refine Graph.derivesAcyclic_of_rank order.idxOf fun e he => hranked e ?_
    rwa [← hsupers]
  have hlast : ∀ a, ¬ x.resolve.graph.Overrides a "vaults:Tape::run" := by
    intro a ha
    rw [Graph.Overrides, hoverrides, hedges] at ha
    simp at ha
  obtain ⟨m, hm, hmout⟩ := exists_typeMember hout hclasses hp
  obtain ⟨n, hn, hnout⟩ := exists_typeMember hout hclasses hq
  have hnid := (Symbol.id_of_outline hnout).trans hqid
  refine ⟨x, h, hlegible, hac, (p.1, m), hm, (q.1, n), hn, (Symbol.id_of_outline hmout).trans hpid,
    hnid, hpair.of_outline hout hmout hnout, fun hchain => ?_⟩
  obtain ⟨a, -, ha⟩ := TransGen.tail'_iff.1 hchain
  exact hlast a (hnid ▸ ha)

end Extraction

end Pseudonym
