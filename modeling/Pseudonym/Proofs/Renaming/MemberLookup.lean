import Pseudonym.Proofs.Graph.Supertype
import Pseudonym.Proofs.Renaming.Capture

/-!
# Look-up of members in a class hierarchy

A member of a class is looked up in the class and then in all its supertypes, the nearest first
(`memberOrder`). The member that a name finds is the first one under that name (`findMember`).

A plan is checked against the class of each symbol that it renames: the class itself, its supertypes
and its subtypes. A look-up also passes from one class to another when neither is a supertype of the
other and both are supertypes of the class it starts from. So a committed plan keeps the result of a
look-up exactly when no member that the look-up passes in such a class ends under the name
(`findMember_after_iff`); where every class has one direct supertype at most there is no such class.
With two bases a member of the first one may take the name of a member of the second one
(`findMember_lost_mixins`).
-/

namespace Pseudonym.Graph

open Relation

variable {g : Graph}

/-! ## The order of a look-up -/

/-- The members among which a name is looked up from a class: its own, then those of its supertypes,
the nearest first. -/
def memberOrder (g : Graph) (type : SymbolId) : List Symbol :=
  (type :: g.allSupertypes type).flatMap g.members

/-- The member that a name finds from a class. -/
def findMember (g : Graph) (type : SymbolId) (name : String) : Option Symbol :=
  (g.memberOrder type).find? (·.name = name)

/-- The members that a look-up passes before it comes to a member. -/
def passedBefore (g : Graph) (type : SymbolId) (m : Symbol) : List Symbol :=
  (g.memberOrder type).takeWhile (·.id ≠ m.id)

theorem mem_symbols_of_mem_memberOrder {t : SymbolId} {m : Symbol} (h : m ∈ g.memberOrder t) :
    m ∈ g.symbols := by
  obtain ⟨u, -, hm⟩ := List.mem_flatMap.1 h
  exact (mem_members.1 hm).1

theorem mem_memberOrder_of_mem_passedBefore {t : SymbolId} {m o : Symbol}
    (h : o ∈ g.passedBefore t m) : o ∈ g.memberOrder t :=
  (List.takeWhile_sublist _).subset h

/-- In a list without repeated ids, an item is the first one under its name exactly when no item
before it has the name. -/
theorem find?_name_eq_some {m : Symbol} : ∀ {xs : List Symbol}, (∀ x ∈ xs, x.id = m.id → x = m) →
    (xs.find? (·.name = m.name) = some m ↔
      m ∈ xs ∧ ∀ o ∈ xs.takeWhile (·.id ≠ m.id), o.name ≠ m.name)
  | [], _ => by simp
  | x :: xs, hunique => by
      have ih := find?_name_eq_some fun y hy => hunique y (List.mem_cons_of_mem _ hy)
      by_cases hid : x.id = m.id
      · obtain rfl := hunique x List.mem_cons_self hid
        simp
      · have hne : m ≠ x := fun h => hid (h ▸ rfl)
        rw [List.takeWhile_cons_of_pos (by simpa using hid)]
        by_cases hname : x.name = m.name
        · rw [List.find?_cons_of_pos (by simpa using hname)]
          simp [hname, Ne.symm hne]
        · rw [List.find?_cons_of_neg (by simpa using hname), ih]
          simp [hname, hne]

theorem findMember_eq_some (hg : g.WellFormed) {t : SymbolId} {m : Symbol} (hm : m ∈ g.symbols) :
    g.findMember t m.name = some m ↔
      m ∈ g.memberOrder t ∧ ∀ o ∈ g.passedBefore t m, o.name ≠ m.name :=
  find?_name_eq_some fun _ hx hid => hg.symbol_ext (mem_symbols_of_mem_memberOrder hx) hm hid

namespace Renamed

variable {ν : Symbol → String} {h : Graph} (r : Renamed ν g h)
include r

theorem memberOrder_eq (t : SymbolId) :
    h.memberOrder t = (g.memberOrder t).map fun s => s.withName (ν s) := by
  rw [memberOrder, memberOrder, r.allSupertypes_eq, List.map_flatMap]
  exact congrArg (List.flatMap · _) (funext r.members_eq)

theorem passedBefore_eq (t : SymbolId) (m : Symbol) :
    h.passedBefore t (m.withName (ν m)) =
      (g.passedBefore t m).map fun s => s.withName (ν s) := by
  rw [passedBefore, passedBefore, r.memberOrder_eq, List.takeWhile_map]
  rfl

/-- After renaming, a member is found under its new name exactly when no member passed before it
has that name. -/
theorem findMember_eq_some (hg : g.WellFormed) {t : SymbolId} {m : Symbol}
    (hm : m ∈ g.memberOrder t) :
    h.findMember t (ν m) = some (m.withName (ν m)) ↔ ∀ o ∈ g.passedBefore t m, ν o ≠ ν m := by
  have hunique : ∀ x ∈ h.memberOrder t, x.id = (m.withName (ν m)).id → x = m.withName (ν m) := by
    intro x hx hid
    rw [r.memberOrder_eq] at hx
    obtain ⟨y, hy, rfl⟩ := List.mem_map.1 hx
    have hym : y = m := hg.symbol_ext (mem_symbols_of_mem_memberOrder hy)
      (mem_symbols_of_mem_memberOrder hm) hid
    rw [hym]
  have hpassed := r.passedBefore_eq t m
  have hmem : m.withName (ν m) ∈ h.memberOrder t := by
    rw [r.memberOrder_eq]
    exact List.mem_map.2 ⟨m, hm, rfl⟩
  refine (find?_name_eq_some hunique).trans ((and_iff_right hmem).trans ?_)
  rw [passedBefore] at hpassed
  rw [hpassed, List.forall_mem_map]
  rfl

end Renamed

/-! ## Members that the checks compare -/

/-- Two members stand in one body, or in two classes of which one is a supertype of the other. -/
def Compared (g : Graph) (a b : Symbol) : Prop :=
  a.scope = b.scope ∨ ∃ A ∈ g.declaringType a, ∃ B ∈ g.declaringType b,
    B.id ∈ g.allSupertypes A.id ∨ A.id ∈ g.allSupertypes B.id

instance (g : Graph) (a b : Symbol) : Decidable (g.Compared a b) :=
  inferInstanceAs (Decidable (_ ∨ _))

theorem Compared.symm {a b : Symbol} (h : g.Compared a b) : g.Compared b a := by
  rcases h with h | ⟨A, hA, B, hB, h⟩
  · exact Or.inl h.symm
  · exact Or.inr ⟨B, hB, A, hA, h.symm⟩

variable {p : Plan}

/-- A member never takes the name of one that it is compared with. -/
theorem not_takesName_of_compared (hg : g.WellFormed) (hp : g.Accepted p) {a b : Symbol}
    {t : SymbolId} (ha : a ∈ g.symbols) (hb : b ∈ g.members t) (h : g.Compared a b) :
    ¬ TakesName p a b := by
  intro htake
  have hfree := htake.free hg hp ha
  obtain ⟨hbmem, c, -, hscope⟩ := mem_members.1 hb
  rcases h with hsame | ⟨A, hA, B, hB, hrelated⟩
  · exact htake.2 (hfree.declared c.id (hsame.trans hscope) b
      (mem_membersOfScope.2 ⟨hbmem, hscope⟩) rfl)
  · have hmember : b ∈ g.members B.id := (id_of_declaringType hg hb hB) ▸ hb
    refine htake.2 (hfree.inherited A hA B.id (List.mem_append.2 ?_) b hmember rfl)
    exact hrelated.imp id (mem_allSubtypes_of_mem_allSupertypes hg)

/-! ## Single inheritance -/

/-- Every class has at most one direct supertype, and what takes part in inheritance has a body. -/
structure SingleInheritance (g : Graph) : Prop where
  oneSupertype : ∀ t ∈ g.symbolIds, (g.supertypes t).length ≤ 1
  classBody : ∀ e ∈ g.supertypeEdges, ∀ c ∈ g.scopes, c.owner = some e.1 ∨ c.owner = some e.2 →
    c.kind = .type

instance (g : Graph) : Decidable g.SingleInheritance :=
  decidable_of_iff
    ((∀ t ∈ g.symbolIds, (g.supertypes t).length ≤ 1) ∧
      ∀ e ∈ g.supertypeEdges, ∀ c ∈ g.scopes, c.owner = some e.1 ∨ c.owner = some e.2 →
        c.kind = .type)
    ⟨fun ⟨a, b⟩ => ⟨a, b⟩, fun h => ⟨h.1, h.2⟩⟩

namespace SingleInheritance

variable (hs : g.SingleInheritance) (hg : g.WellFormed)
include hs hg

theorem rightUnique : Relator.RightUnique (Edge g.supertypes) := by
  intro a b c hab hac
  have hone := hs.oneSupertype a (hg.supertype_mem _ (mem_supertypes.1 hab)).1
  obtain ⟨x, hx⟩ := List.length_eq_one_iff.1 (Nat.le_antisymm hone (List.length_pos_of_mem hab))
  rw [Edge, hx, List.mem_singleton] at hab hac
  exact hab.trans hac.symm

/-- The classes that a look-up passes form a chain. -/
theorem chain {k t u : SymbolId} (ht : t ∈ k :: g.allSupertypes k)
    (hu : u ∈ k :: g.allSupertypes k) :
    t = u ∨ t ∈ g.allSupertypes u ∨ u ∈ g.allSupertypes t := by
  have hpath : ∀ {x}, x ∈ k :: g.allSupertypes k → ReflTransGen (Edge g.supertypes) k x := by
    intro x hx
    rcases List.mem_cons.1 hx with rfl | hx
    · exact .refl
    · have hk := (mem_symbolIds_of_mem_allSupertypes hg hx).1
      exact ((mem_allSupertypes hg hk).1 hx).2.to_reflTransGen
  have habove : ∀ {x y}, ReflTransGen (Edge g.supertypes) x y → x = y ∨ y ∈ g.allSupertypes x := by
    intro x y hwalk
    by_cases hxy : x = y
    · exact Or.inl hxy
    have hwalk := (reflTransGen_iff_eq_or_transGen.1 hwalk).resolve_left (Ne.symm hxy)
    obtain ⟨q, hq, -⟩ := TransGen.head'_iff.1 hwalk
    have hx := (hg.supertype_mem _ (mem_supertypes.1 hq)).1
    exact Or.inr ((mem_allSupertypes hg hx).2 ⟨Ne.symm hxy, hwalk⟩)
  -- Both classes lie on the one walk upwards from the first class.
  rcases ReflTransGen.total_of_right_unique (hs.rightUnique hg) (hpath ht) (hpath hu) with
    hwalk | hwalk
  · exact (habove hwalk).imp id Or.inr
  · exact (habove hwalk).imp Eq.symm Or.inl

theorem compared_of_supertype {a b : Symbol} {t u : SymbolId} (ha : a ∈ g.members t)
    (hb : b ∈ g.members u) (h : u ∈ g.allSupertypes t) : g.Compared a b := by
  obtain ⟨htid, huid⟩ := mem_symbolIds_of_mem_allSupertypes hg h
  have hwalk := ((mem_allSupertypes hg htid).1 h).2
  have hdeclares : ∀ {m : Symbol} {x : SymbolId}, m ∈ g.members x → x ∈ g.symbolIds →
      (∃ e ∈ g.supertypeEdges, e.1 = x ∨ e.2 = x) → ∃ X ∈ g.declaringType m, X.id = x := by
    rintro m x hm hx ⟨e, he, hend⟩
    obtain ⟨-, c, hc, -⟩ := mem_members.1 hm
    obtain ⟨hcmem, howner⟩ := ownedScope_eq_some hc
    have hkind : c.kind = .type := by
      refine hs.classBody e he c hcmem ?_
      rw [howner]
      exact hend.imp (congrArg some ·.symm) (congrArg some ·.symm)
    obtain ⟨X, hX, rfl⟩ := mem_symbolIds.1 hx
    refine ⟨X, ?_, rfl⟩
    rw [Option.mem_def, declaringType_of_mem_members hg hm hc, if_pos hkind, hg.symbol?_id hX]
  obtain ⟨q, hq, -⟩ := TransGen.head'_iff.1 hwalk
  obtain ⟨q', -, hq'⟩ := TransGen.tail'_iff.1 hwalk
  obtain ⟨A, hA, hAid⟩ := hdeclares ha htid ⟨_, mem_supertypes.1 hq, Or.inl rfl⟩
  obtain ⟨B, hB, hBid⟩ := hdeclares hb huid ⟨_, mem_supertypes.1 hq', Or.inr rfl⟩
  exact Or.inr ⟨A, hA, B, hB, Or.inl (by rwa [hAid, hBid])⟩

/-- All members that a look-up meets are compared with each other. -/
theorem compared {k : SymbolId} {a b : Symbol} (ha : a ∈ g.memberOrder k)
    (hb : b ∈ g.memberOrder k) : g.Compared a b := by
  obtain ⟨t, ht, hat⟩ := List.mem_flatMap.1 ha
  obtain ⟨u, hu, hbu⟩ := List.mem_flatMap.1 hb
  rcases hs.chain hg ht hu with rfl | htu | hut
  · obtain ⟨-, c, hc, hscope⟩ := mem_members.1 hat
    obtain ⟨-, d, hd, hscope'⟩ := mem_members.1 hbu
    rw [hc] at hd
    exact Or.inl (by rw [hscope, hscope', Option.some.inj hd])
  · exact (hs.compared_of_supertype hg hbu hat htu).symm
  · exact hs.compared_of_supertype hg hat hbu hut

end SingleInheritance

/-! ## Committed plans -/

/-- Members that are compared keep different names if they had different names. -/
theorem nameAfter_ne_of_compared (hg : g.WellFormed) (hp : g.Accepted p) (hcoh : g.Coherent p)
    {t : SymbolId} {a b : Symbol} (ha : a ∈ g.memberOrder t) (hb : b ∈ g.memberOrder t)
    (hname : a.name ≠ b.name) (h : g.Compared a b) :
    nameAfter p.entries a ≠ nameAfter p.entries b := by
  obtain ⟨A, -, haA⟩ := List.mem_flatMap.1 ha
  obtain ⟨B, -, hbB⟩ := List.mem_flatMap.1 hb
  have hamem := mem_symbols_of_mem_memberOrder ha
  have hbmem := mem_symbols_of_mem_memberOrder hb
  intro heq
  rcases nameAfter_eq_cases hg hcoh hamem hbmem heq with hsame | htake | htake
  · exact hname hsame
  · exact not_takesName_of_compared hg hp hamem hbB h htake
  · exact not_takesName_of_compared hg hp hbmem haA h.symm htake

/-- **Look-up of members.** A member that is found from a class is found there under its new name
exactly when no member passed before it, in a class that is neither a super- nor a subtype of its
own, ends under that name; with single inheritance it always is. -/
theorem findMember_after_iff {c c' : Changes} {g' : Graph} (hg : g.WellFormed)
    (hcoh : g.Coherent p) (hover : c.overloading = false) (hok : c.rename g p = ([], g', c'))
    (type : SymbolId) (m : Symbol) (hfound : g.findMember type m.name = some m) :
    (g'.findMember type (g'.nameOf m.id) = g'.symbol? m.id ↔
        ∀ o ∈ g.passedBefore type m, ¬ g.Compared o m → g'.nameOf o.id ≠ g'.nameOf m.id) ∧
      (g.SingleInheritance → g'.findMember type (g'.nameOf m.id) = g'.symbol? m.id) := by
  obtain ⟨-, hnone, rfl⟩ | ⟨hne, -⟩ := Changes.rename_cases hok
  swap
  · exact absurd rfl hne
  rw [hover] at hnone
  have hp := Accepted.of_conflicts hnone
  have hr := applyRenames_renamed hg.symbolIds_nodup p.entries_nodup
  have hmem := mem_symbols_of_mem_memberOrder (List.mem_of_find?_eq_some hfound)
  obtain ⟨hm, hfirst⟩ := (findMember_eq_some hg hmem).1 hfound
  rw [hr.nameOf_eq hg hmem, hr.symbol?_eq, hg.symbol?_id hmem, Option.map_some,
    hr.findMember_eq_some hg hm]
  -- What is compared is settled by the checks, so only the rest is left as a condition.
  have hcompared : ∀ o ∈ g.passedBefore type m, g.Compared o m →
      nameAfter p.entries o ≠ nameAfter p.entries m := fun o ho =>
    nameAfter_ne_of_compared hg hp hcoh (mem_memberOrder_of_mem_passedBefore ho) hm (hfirst o ho)
  have hname : ∀ o ∈ g.passedBefore type m,
      (Changes.applyRenames g p.entries).nameOf o.id = nameAfter p.entries o := fun o ho =>
    hr.nameOf_eq hg (mem_symbols_of_mem_memberOrder (mem_memberOrder_of_mem_passedBefore ho))
  refine ⟨⟨fun hall o ho _ => hname o ho ▸ hall o ho, fun hrest o ho => ?_⟩, fun hs o ho => ?_⟩
  · by_cases h : g.Compared o m
    · exact hcompared o ho h
    · exact hname o ho ▸ hrest o ho h
  · exact hcompared o ho (hs.compared hg (mem_memberOrder_of_mem_passedBefore ho) hm)

/-- A class with two bases, each with a method of its own. -/
def mixins : Graph where
  scopes := [
    { id := "Reader", kind := .type, owner := some "::Reader" },
    { id := "Writer", kind := .type, owner := some "::Writer" },
    { id := "Stream", kind := .type, owner := some "::Stream" }]
  symbols := [
    { id := "::Reader", name := "Reader", kind := .type },
    { id := "::Writer", name := "Writer", kind := .type },
    { id := "::Stream", name := "Stream", kind := .type },
    { id := "Reader::fill", name := "_fill", kind := .method, scope := some "Reader" },
    { id := "Writer::flush", name := "_flush", kind := .method, scope := some "Writer" }]
  naming := ["::Reader", "::Writer", "::Stream", "Reader::fill", "Writer::flush"]
  supertypeEdges := [("::Stream", "::Reader"), ("::Stream", "::Writer")]

/-- The method of the second base. -/
def mixinsFlush : Symbol := mixins.symbols.get ⟨4, by decide⟩

/-- The plan that gives the method of the first base a name. -/
def mixinsPlan (name : String) : Plan := { primary := "Reader::fill", name }

/-- The classes after that plan. -/
def mixinsAfter (name : String) : Graph := (Changes.rename {} mixins (mixinsPlan name)).2.1

/-- The method of the second base is found past the other one, which the checks do not compare with
it, as long as the names differ. -/
theorem findMember_after_iff_mixins :
    (mixinsAfter "_load").findMember "::Stream" "_flush" = some mixinsFlush ∧
      ∃ o ∈ mixins.passedBefore "::Stream" mixinsFlush, ¬ mixins.Compared o mixinsFlush := by
  have hok : Changes.rename {} mixins (mixinsPlan "_load") =
      ([], mixinsAfter "_load", (Changes.rename {} mixins (mixinsPlan "_load")).2.2) :=
    Prod.ext (by decide +kernel) rfl
  have hkept := (findMember_after_iff (by decide +kernel) (by decide +kernel) rfl hok "::Stream"
    mixinsFlush (by decide +kernel)).1.2 (by decide +kernel)
  have hname : (mixinsAfter "_load").nameOf mixinsFlush.id = "_flush" := by decide +kernel
  have hsame : (mixinsAfter "_load").symbol? mixinsFlush.id = some mixinsFlush := by
    decide +kernel
  rw [hname, hsame] at hkept
  exact ⟨hkept, by decide +kernel⟩

/-- When the method of the first base takes the name of the other one, the plan commits, and the
look-up finds the wrong method. -/
theorem findMember_lost_mixins :
    mixins.WellFormed ∧ mixins.Coherent (mixinsPlan "_flush") ∧
      (Changes.rename {} mixins (mixinsPlan "_flush")).1 = [] ∧
      mixins.findMember "::Stream" "_flush" = some mixinsFlush ∧
      (mixinsAfter "_flush").nameOf mixinsFlush.id = "_flush" ∧
      ((mixinsAfter "_flush").findMember "::Stream" "_flush").map (·.id) = some "Reader::fill" :=
  ⟨by decide +kernel, by decide +kernel, by decide +kernel, by decide +kernel, by decide +kernel,
    by decide +kernel⟩

end Pseudonym.Graph
