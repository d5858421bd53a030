import Pseudonym.Proofs.Graph.Supertype
import Pseudonym.Proofs.Renaming.Workflow
import Pseudonym.Proofs.Symbol.Marker

/-!
# Inherited markers

A declaration has the markers of what it overrides and of what encloses it, and a type those of its
supertypes. The walk that collects them is a recursion with one list of unseen declarations: a
declaration met again adds nothing. `Walk` is this recursion without a bound on its depth, and
`gatherWithin` is a walk as soon as its depth is the number of unseen nodes (`walk_gatherWithin`).

A branch cut short at a node met before hides nothing, because that node has been asked with
everything behind it that was unseen: the walk asks exactly what a search of the same nodes reaches
(`Walk.exact`). So the answer for a symbol is the look-up in all markers it carries
(`markerPresence_eq_lookup`), which more markers and more entries can only make stronger.
-/

namespace Pseudonym

open Relation

/-! ## The walk -/

section Walk

variable {α : Type} [DecidableEq α] {next : α → List α} {own : α → Presence}

/-- Nodes are asked one after the other, each with the nodes next to it and each once, until the
queue is empty. The walk gives the strongest answer and the nodes that are left unseen. -/
inductive Walk (next : α → List α) (own : α → Presence) :
    (unseen queue : List α) → Presence → (left : List α) → Prop
  | done (unseen : List α) : Walk next own unseen [] .absent unseen
  | seen {unseen rest left : List α} {a : α} {answer : Presence} : a ∉ unseen →
      Walk next own unseen rest answer left → Walk next own unseen (a :: rest) answer left
  | fresh {unseen middle rest left : List α} {a : α} {behind beside : Presence} : a ∈ unseen →
      Walk next own (unseen.erase a) (next a) behind middle →
      Walk next own middle rest beside left →
      Walk next own unseen (a :: rest) (((own a).join behind).join beside) left

namespace Walk

variable {unseen middle left queue rest : List α} {a : α} {answer beside : Presence}

theorem sublist (h : Walk next own unseen queue answer left) : left.Sublist unseen := by
  induction h with
  | done => exact .refl _
  | seen _ _ ih => exact ih
  | fresh _ _ _ ihbehind ihbeside => exact ihbeside.trans (ihbehind.trans List.erase_sublist)

/-- A walk from one node goes on with the rest of a queue. -/
theorem cons (hhead : Walk next own unseen [a] answer middle)
    (hrest : Walk next own middle rest beside left) :
    Walk next own unseen (a :: rest) (answer.join beside) left := by
  cases hhead with
  | seen ha hdone =>
      cases hdone
      rw [Presence.absent_join]
      exact .seen ha hrest
  | fresh ha hbehind hdone =>
      cases hdone
      rw [Presence.join_absent]
      exact .fresh ha hbehind hrest

/-- **A walk asks what a search reaches**, and leaves the other nodes unseen. -/
theorem exact (h : Walk next own unseen queue answer left) (hnd : unseen.Nodup) :
    answer = Presence.combine ((reach next unseen queue).map own) ∧
      ∀ x, x ∈ left ↔ x ∈ unseen ∧ x ∉ reach next unseen queue := by
  induction h with
  | done unseen => simp [reach_nil]
  | seen ha _ ih =>
      rw [reach_cons, if_neg ha]
      exact ih hnd
  | @fresh unseen middle rest left a behind beside ha hbehind hbeside ihbehind ihbeside =>
      obtain ⟨hanswer, hmiddle⟩ := ihbehind (hnd.erase a)
      obtain ⟨hanswer', hleft⟩ := ihbeside ((hnd.erase a).sublist hbehind.sublist)
      -- The rest of the queue starts without what was reached behind `a`, and misses nothing new.
      have hmem : ∀ x, x ∈ reach next unseen (a :: rest) ↔
          x = a ∨ x ∈ reach next (unseen.erase a) (next a) ∨ x ∈ reach next middle rest := by
        intro x
        have hcomm : x ∈ reach next (unseen.erase a) (rest ++ next a) ↔
            x ∈ reach next (unseen.erase a) (next a ++ rest) := by
          simp only [mem_reach, List.mem_append, or_comm]
        rw [reach_cons, if_pos ha, List.mem_cons, hcomm, mem_reach_append hmiddle]
      constructor
      · rw [hanswer, hanswer', Presence.join_assoc, ← Presence.combine_append,
          ← Presence.combine_cons, ← List.map_append, ← List.map_cons]
        refine Presence.combine_congr fun p => ?_
        simp only [List.mem_map, List.mem_cons, List.mem_append, hmem]
      · intro x
        rw [hleft, hmiddle, hmem, hnd.mem_erase_iff]
        tauto

/-- Steps that are walks from one node make a walk from a queue. -/
theorem foldl {depth : Nat} (step : Presence × List α → α → Presence × List α)
    (hstep : ∀ found b, found.2.length ≤ depth → ∃ answer,
      Walk next own found.2 [b] answer (step found b).2 ∧
        (step found b).1 = found.1.join answer) :
    ∀ (queue : List α) (found : Presence × List α), found.2.length ≤ depth → ∃ answer,
      Walk next own found.2 queue answer (queue.foldl step found).2 ∧
        (queue.foldl step found).1 = found.1.join answer
  | [], found, _ => ⟨.absent, .done _, Presence.join_absent.symm⟩
  | b :: queue, found, hlength => by
      obtain ⟨answer, hhead, hfound⟩ := hstep found b hlength
      obtain ⟨beside, hrest, hall⟩ := foldl step hstep queue (step found b)
        (hhead.sublist.length_le.trans hlength)
      exact ⟨answer.join beside, hhead.cons hrest,
        hall.trans (by rw [hfound, Presence.join_assoc])⟩

end Walk

/-- As deep as there are unseen nodes, the depth of a walk does not bound it. -/
theorem walk_gatherWithin {depth : Nat} : ∀ {unseen : List α} {a : α}, unseen.length ≤ depth →
    Walk next own unseen [a] (Filter.gatherWithin next own depth unseen a).1
      (Filter.gatherWithin next own depth unseen a).2 := by
  induction depth with
  | zero =>
      intro unseen a hdepth
      obtain rfl := List.length_eq_zero_iff.1 (Nat.le_zero.1 hdepth)
      exact .seen List.not_mem_nil (.done [])
  | succ depth ih =>
      intro unseen a hdepth
      rw [Filter.gatherWithin]
      split
      · next ha =>
          have hlength : (unseen.erase a).length ≤ depth := by
            rw [List.length_erase_of_mem ha]
            omega
          obtain ⟨behind, hbehind, hanswer⟩ := Walk.foldl
            (fun found b =>
              let answer := Filter.gatherWithin next own depth found.2 b
              (found.1.join answer.1, answer.2))
            (fun _ _ hfound => ⟨_, ih hfound, rfl⟩) (next a) (own a, unseen.erase a) hlength
          rw [hanswer, ← Presence.join_absent (p := (own a).join behind)]
          exact .fresh ha hbehind (.done _)
      · next ha => exact .seen ha (.done unseen)

end Walk

/-! ## Carried markers -/

namespace Graph

variable {g : Graph} {s t : Symbol} {f : Filter}

/-- The declarations whose markers `s` inherits: the symbol itself, and with a declaration all that
it overrides directly and the one around it. -/
inductive Inherits (g : Graph) (s : Symbol) : Symbol → Prop
  | self : Inherits g s s
  | overridden {t o : Symbol} : Inherits g s t → o ∈ g.symbols → g.Overrides t.id o.id →
      Inherits g s o
  | enclosing {t o : Symbol} : Inherits g s t → g.enclosing t = some o → Inherits g s o

/-- The markers of the declarations from which `s` inherits and, where one is a type, of all its
supertypes. -/
inductive Carries (g : Graph) (s : Symbol) (m : Option String) : Prop
  | inherited {t : Symbol} : g.Inherits s t → m ∈ t.markers → Carries g s m
  | supertype {t u : Symbol} : g.Inherits s t → t.kind = .type → u ∈ g.symbols →
      TransGen g.Derives t.id u.id → m ∈ u.markers → Carries g s m

theorem mem_inheritsFrom (hg : g.WellFormed) (ht : t ∈ g.symbols) {id : SymbolId} :
    id ∈ Filter.inheritsFrom g t.id ↔
      g.Overrides t.id id ∨ ∃ o, g.enclosing t = some o ∧ o.id = id := by
  simp only [Filter.inheritsFrom, List.mem_append, mem_superMembers, hg.symbol?_id ht,
    Option.bind_some, Option.mem_toList, Option.map_eq_some_iff]
  rfl

theorem inheritsFrom_subset (hg : g.WellFormed) {id : SymbolId} (hid : id ∈ g.symbolIds) :
    Filter.inheritsFrom g id ⊆ g.symbolIds := by
  obtain ⟨t, ht, rfl⟩ := mem_symbolIds.1 hid
  intro next hnext
  rcases (mem_inheritsFrom hg ht).1 hnext with h | ⟨o, ho, rfl⟩
  · exact (hg.override_mem _ h).2
  · exact mem_symbolIds_of_mem (mem_of_enclosing hg ho)

theorem Inherits.mem (hg : g.WellFormed) (hs : s ∈ g.symbols) (h : g.Inherits s t) :
    t ∈ g.symbols := by
  cases h with
  | self => exact hs
  | overridden _ ho _ => exact ho
  | enclosing _ ho => exact mem_of_enclosing hg ho

/-- The nodes that a walk from a symbol asks are those from which the symbol inherits. -/
theorem mem_reach_inheritsFrom (hg : g.WellFormed) (hs : s ∈ g.symbols) {id : SymbolId} :
    id ∈ reach (Filter.inheritsFrom g) g.symbolIds [s.id] ↔ ∃ t, g.Inherits s t ∧ t.id = id := by
  rw [mem_reach_of_closed fun _ => inheritsFrom_subset hg]
  simp only [List.mem_singleton, exists_eq_left, mem_symbolIds_of_mem hs, true_and]
  constructor
  · -- Every step of a path leads to something inherited.
    intro h
    induction h with
    | refl => exact ⟨s, .self, rfl⟩
    | tail _ hstep ih =>
        obtain ⟨t, ht, rfl⟩ := ih
        rcases (mem_inheritsFrom hg (ht.mem hg hs)).1 hstep with h | ⟨o, ho, rfl⟩
        · obtain ⟨o, ho, rfl⟩ := mem_symbolIds.1 (hg.override_mem _ h).2
          exact ⟨o, ht.overridden ho h, rfl⟩
        · exact ⟨o, ht.enclosing ho, rfl⟩
  · rintro ⟨t, ht, rfl⟩
    induction ht with
    | self => exact .refl
    | overridden ht _ h ih => exact ih.tail ((mem_inheritsFrom hg (ht.mem hg hs)).2 (Or.inl h))
    | enclosing ht ho ih =>
        exact ih.tail ((mem_inheritsFrom hg (ht.mem hg hs)).2 (Or.inr ⟨_, ho, rfl⟩))

/-- The markers of a declaration and, for a type, of its supertypes. -/
def ownMarkers (g : Graph) (s : Symbol) : List (Option String) :=
  (s :: if s.kind = .type then g.symbolsOf (g.allSupertypes s.id) else []).flatMap (·.markers)

/-- All markers that a symbol carries. -/
def carried (g : Graph) (s : Symbol) : List (Option String) :=
  (reach (Filter.inheritsFrom g) g.symbolIds [s.id]).flatMap fun id =>
    ((g.symbol? id).map g.ownMarkers).getD []

theorem mem_ownMarkers (hg : g.WellFormed) (ht : t ∈ g.symbols) {m : Option String} :
    m ∈ g.ownMarkers t ↔ m ∈ t.markers ∨
      t.kind = .type ∧ ∃ u ∈ g.symbols, TransGen g.Derives t.id u.id ∧ m ∈ u.markers := by
  rw [ownMarkers, List.flatMap_cons, List.mem_append, List.mem_flatMap]
  by_cases hkind : t.kind = .type
  · simp only [hkind, if_true, true_and, hg.mem_symbolsOf, mem_allSupertypes_iff hg]
    constructor
    · rintro (h | ⟨u, ⟨hu, -, htu⟩, h⟩)
      · exact Or.inl h
      · exact Or.inr ⟨u, hu, htu, h⟩
    · rintro (h | ⟨u, hu, htu, h⟩)
      · exact Or.inl h
      · by_cases hid : u.id = t.id
        · -- A type above itself adds no markers to its own.
          exact Or.inl (hg.symbol_ext hu ht hid ▸ h)
        · exact Or.inr ⟨u, ⟨hu, hid, htu⟩, h⟩
  · simp [hkind]

theorem mem_carried (hg : g.WellFormed) (hs : s ∈ g.symbols) {m : Option String} :
    m ∈ g.carried s ↔ g.Carries s m := by
  have hmarkers : ∀ {t}, g.Inherits s t →
      ((g.symbol? t.id).map g.ownMarkers).getD [] = g.ownMarkers t := fun ht => by
    rw [hg.symbol?_id (ht.mem hg hs)]
    rfl
  simp only [carried, List.mem_flatMap, mem_reach_inheritsFrom hg hs]
  constructor
  · rintro ⟨_, ⟨t, ht, rfl⟩, hm⟩
    rw [hmarkers ht, mem_ownMarkers hg (ht.mem hg hs)] at hm
    rcases hm with hm | ⟨hkind, u, hu, htu, hm⟩
    · exact .inherited ht hm
    · exact .supertype ht hkind hu htu hm
  · intro h
    cases h with
    | @inherited t ht hm =>
        refine ⟨_, ⟨t, ht, rfl⟩, ?_⟩
        rw [hmarkers ht, mem_ownMarkers hg (ht.mem hg hs)]
        exact Or.inl hm
    | @supertype t u ht hkind hu htu hm =>
        refine ⟨_, ⟨t, ht, rfl⟩, ?_⟩
        rw [hmarkers ht, mem_ownMarkers hg (ht.mem hg hs)]
        exact Or.inr ⟨hkind, u, hu, htu, hm⟩

theorem presenceOf_eq_lookup : f.presenceOf g = fun id =>
    f.ignoreMarkers.lookup (((g.symbol? id).map g.ownMarkers).getD []) := by
  funext id
  unfold Filter.presenceOf
  cases g.symbol? id with
  | none => rfl
  | some t => exact MarkerSet.combine_map_lookup _ _

/-- The walk for a symbol ends with the answer for it. -/
theorem walk_markerPresence : ∃ left, Walk (Filter.inheritsFrom g) (f.presenceOf g) g.symbolIds
    [s.id] (f.markerPresence g s) left :=
  ⟨_, walk_gatherWithin (by rw [symbolIds, List.length_map])⟩

/-- The answer for a symbol is the look-up in all markers it carries. -/
theorem markerPresence_eq_lookup (hg : g.WellFormed) :
    f.markerPresence g s = f.ignoreMarkers.lookup (g.carried s) := by
  obtain ⟨left, hwalk⟩ := walk_markerPresence (g := g) (s := s) (f := f)
  rw [(hwalk.exact hg.symbolIds_nodup).1, presenceOf_eq_lookup, MarkerSet.combine_map_lookup]
  rfl

end Graph

/-! ## More markers -/

/-- A symbol with other markers. -/
def Symbol.withMarkers (s : Symbol) (markers : List (Option String)) : Symbol := { s with markers }

/-- A graph with other markers on its symbols. -/
def Graph.withMarkers (g : Graph) (μ : Symbol → List (Option String)) : Graph :=
  { g with symbols := g.symbols.map fun s => s.withMarkers (μ s) }

namespace Graph

variable {g : Graph} {μ : Symbol → List (Option String)} {s t : Symbol} {f : Filter}

theorem symbolIds_withMarkers : (g.withMarkers μ).symbolIds = g.symbolIds := by
  simp only [symbolIds, withMarkers, List.map_map]
  rfl

theorem symbol?_withMarkers (id : SymbolId) :
    (g.withMarkers μ).symbol? id = (g.symbol? id).map fun s => s.withMarkers (μ s) := by
  rw [symbol?, withMarkers, List.find?_map]
  rfl

theorem findRoots_withMarkers (id : SymbolId) :
    (g.withMarkers μ).findRoots id = g.findRoots id := by
  rw [findRoots, symbolIds_withMarkers]
  rfl

theorem allSupertypes_withMarkers : (g.withMarkers μ).allSupertypes = g.allSupertypes :=
  allSupertypes_congr symbolIds_withMarkers rfl

theorem withMarkers_mem (hs : s ∈ g.symbols) : s.withMarkers (μ s) ∈ (g.withMarkers μ).symbols :=
  List.mem_map_of_mem hs

theorem WellFormed.withMarkers (hg : g.WellFormed) : (g.withMarkers μ).WellFormed where
  symbolIds_nodup := by rw [symbolIds_withMarkers]; exact hg.symbolIds_nodup
  scopeIds_nodup := hg.scopeIds_nodup
  naming_perm := by rw [symbolIds_withMarkers]; exact hg.naming_perm
  supertype_mem := by rw [symbolIds_withMarkers]; exact hg.supertype_mem
  override_mem := by rw [symbolIds_withMarkers]; exact hg.override_mem
  cache_exact := fun e he => by
    rw [symbolIds_withMarkers, findRoots_withMarkers]
    exact hg.cache_exact e he

theorem enclosing_withMarkers {o : Symbol} {markers : List (Option String)}
    (h : g.enclosing t = some o) :
    (g.withMarkers μ).enclosing (t.withMarkers markers) = some (o.withMarkers (μ o)) := by
  obtain ⟨id, c, owner, hid, hc, howner, ho⟩ := enclosing_eq_some.1 h
  refine enclosing_eq_some.2 ⟨id, c, owner, hid, hc, howner, ?_⟩
  rw [symbol?_withMarkers, ho, Option.map_some]

theorem declaringType_withMarkers {o : Symbol} {markers : List (Option String)}
    (h : g.declaringType t = some o) :
    (g.withMarkers μ).declaringType (t.withMarkers markers) = some (o.withMarkers (μ o)) := by
  obtain ⟨id, c, owner, hid, hc, hkind, howner, ho⟩ := declaringType_eq_some.1 h
  refine declaringType_eq_some.2 ⟨id, c, owner, hid, hc, hkind, howner, ?_⟩
  rw [symbol?_withMarkers, ho, Option.map_some]

theorem Inherits.withMarkers (h : g.Inherits s t) :
    (g.withMarkers μ).Inherits (s.withMarkers (μ s)) (t.withMarkers (μ t)) := by
  induction h with
  | self => exact .self
  | overridden _ ho h ih => exact ih.overridden (withMarkers_mem ho) h
  | enclosing _ ho ih => exact ih.enclosing (enclosing_withMarkers ho)

/-- A symbol carries with more markers in the program what it carried before. -/
theorem Carries.withMarkers (hg : g.WellFormed) (hs : s ∈ g.symbols)
    (hμ : ∀ t ∈ g.symbols, t.markers ⊆ μ t) {m : Option String} (h : g.Carries s m) :
    (g.withMarkers μ).Carries (s.withMarkers (μ s)) m := by
  cases h with
  | inherited ht hm => exact .inherited ht.withMarkers (hμ _ (ht.mem hg hs) hm)
  | supertype ht hkind hu htu hm =>
      exact .supertype ht.withMarkers hkind (withMarkers_mem hu) htu (hμ _ hu hm)

theorem symbolsOf_withMarkers (ids : List SymbolId) :
    (g.withMarkers μ).symbolsOf ids = (g.symbolsOf ids).map fun s => s.withMarkers (μ s) := by
  rw [symbolsOf, symbolsOf, List.map_filterMap]
  exact congrArg (List.filterMap · ids) (funext symbol?_withMarkers)

/-- A field of a serialized type stays one. -/
theorem isSerializedField_withMarkers (hg : g.WellFormed) (hμ : ∀ t ∈ g.symbols, t.markers ⊆ μ t)
    (h : f.isSerializedField g s) :
    f.isSerializedField (g.withMarkers μ) (s.withMarkers (μ s)) := by
  unfold Filter.isSerializedField at h ⊢
  rw [Bool.and_eq_true] at h ⊢
  refine ⟨h.1, ?_⟩
  have hblocks := h.2
  cases howner : g.declaringType s with
  | none =>
      rw [howner] at hblocks
      cases hblocks
  | some owner =>
      rw [howner] at hblocks
      rw [declaringType_withMarkers howner]
      dsimp only at hblocks ⊢
      rw [MarkerSet.combine_map_lookup] at hblocks ⊢
      refine MarkerSet.blocks_lookup_mono ?_ (fun _ => id) hblocks
      rw [show (owner.withMarkers (μ owner)).id = owner.id from rfl, allSupertypes_withMarkers,
        symbolsOf_withMarkers, ← List.map_cons (f := fun t : Symbol => t.withMarkers (μ t)),
        List.flatMap_map]
      intro m hm
      obtain ⟨t, ht, hm⟩ := List.mem_flatMap.1 hm
      refine List.mem_flatMap.2 ⟨t, ht, hμ t ?_ hm⟩
      rcases List.mem_cons.1 ht with rfl | ht
      · exact mem_of_enclosing hg (enclosing_of_declaringType howner)
      · exact (hg.mem_symbolsOf.1 ht).1

end Graph

namespace Filter

variable {f : Filter} {g : Graph} {s : Symbol}

/-- A symbol that is rejected for its markers carries some. -/
theorem blocks_of_check (hg : g.WellFormed)
    (h : (f.check g s).1 = .ignoredMarker ∨ (f.check g s).1 = .serialized) :
    (f.markerPresence g s).blocks ∨ f.isSerializedField g s := by
  obtain ⟨c, hroots⟩ := hg.deepestRoots_eq s.id
  unfold check at h
  cases hfirst : firstRule? s with
  | some verdict =>
      rw [hfirst] at h
      unfold firstRule? at hfirst
      split_ifs at hfirst <;> cases hfirst <;> simp at h
  | none =>
      rw [hfirst, hroots] at h
      dsimp only at h
      unfold laterRule at h
      split_ifs at h <;> simp at h
      · next hblocks => exact Or.inl hblocks
      · next hserialized => exact Or.inr hserialized

/-- An eligible symbol carries none. -/
theorem not_blocks_of_check (hg : g.WellFormed) (h : (f.check g s).1 = .eligible) :
    ¬ ((f.markerPresence g s).blocks ∨ f.isSerializedField g s) := by
  have hlater := (Workflow.check_eligible hg h).2.2
  unfold laterRule at hlater
  split_ifs at hlater with _ _ _ _ hblocks hserialized
  exact not_or.2 ⟨hblocks, hserialized⟩

end Filter

namespace Graph

variable {g : Graph} {s : Symbol}

/-- **Inherited markers.** The walk for a symbol ends. It finds a hit exactly when the symbol carries
a covered marker, otherwise an open question exactly when it carries an unresolved one, and nothing
else. More entries to ignore and more markers anywhere never make a symbol eligible that is rejected
for its markers. -/
theorem markers_exact (f : Filter) (hg : g.WellFormed) (hs : s ∈ g.symbols) :
    (∃ left, Walk (Filter.inheritsFrom g) (f.presenceOf g) g.symbolIds [s.id]
        (f.markerPresence g s) left) ∧
      (f.markerPresence g s = .present ↔ ∃ m, g.Carries s (some m) ∧ f.ignoreMarkers.covers m) ∧
      (f.markerPresence g s = .unknown ↔
        f.markerPresence g s ≠ .present ∧ g.Carries s none) ∧
      (f.markerPresence g s = .absent ↔
        f.markerPresence g s ≠ .present ∧ ¬ g.Carries s none) ∧
      ∀ (entries : List String) (μ : Symbol → List (Option String)),
        (∀ t ∈ g.symbols, t.markers ⊆ μ t) →
        (f.check g s).1 = .ignoredMarker ∨ (f.check g s).1 = .serialized →
        let stricter := { f with ignoreMarkers := entries.foldl .insert f.ignoreMarkers }
        (stricter.check (g.withMarkers μ) (s.withMarkers (μ s))).1 ≠ .eligible := by
  have hpresent : f.markerPresence g s = .present ↔
      ∃ m, g.Carries s (some m) ∧ f.ignoreMarkers.covers m := by
    simp only [markerPresence_eq_lookup hg, MarkerSet.lookup_eq_present, mem_carried hg hs]
  have hblocks : (f.markerPresence g s).blocks ↔
      g.Carries s none ∨ f.markerPresence g s = .present := by
    rw [hpresent]
    simp only [markerPresence_eq_lookup hg, MarkerSet.blocks_lookup, mem_carried hg hs]
  refine ⟨walk_markerPresence, hpresent, ?_, ?_, ?_⟩
  · generalize f.markerPresence g s = p at hblocks
    cases p <;> simp_all [Presence.blocks]
  · generalize f.markerPresence g s = p at hblocks
    cases p <;> simp_all [Presence.blocks]
  · intro entries μ hμ hcheck stricter heligible
    refine Filter.not_blocks_of_check hg.withMarkers heligible ?_
    rcases Filter.blocks_of_check hg hcheck with h | h
    · left
      rw [markerPresence_eq_lookup hg] at h
      rw [markerPresence_eq_lookup hg.withMarkers]
      refine MarkerSet.blocks_lookup_mono (fun m hm => ?_)
        (fun m => MarkerSet.covers_foldl_insert entries) h
      rw [mem_carried hg hs] at hm
      exact (mem_carried hg.withMarkers (withMarkers_mem hs)).2 (hm.withMarkers hg hs hμ)
    · exact Or.inr (isSerializedField_withMarkers hg hμ h)

/-- A method of a class that overrides a method of another class. -/
def jobRun : Symbol :=
  { id := "Job::run", name := "run", kind := .method, scope := some "Job", isOverride := true }

/-- The method of the other class, which overrides the first one in turn. -/
def taskRun : Symbol :=
  { id := "Task::run", name := "run", kind := .method, scope := some "Task", isOverride := true }

/-- The other class; only this one has a marker. -/
def task : Symbol :=
  { id := "Task", name := "Task", kind := .type, markers := [some "host.plugin.task"] }

/-- A variable of the first method. -/
def attempts : Symbol :=
  { id := "Job::run::attempts", name := "attempts", kind := .variable, scope := some "Job::run",
    isLocal := true }

/-- Two methods that override each other, and a variable of one of them. -/
def tangled : Graph where
  scopes := [{ id := "Job", kind := .type, owner := some "Job" },
    { id := "Task", kind := .type, owner := some "Task" },
    { id := "Job::run", kind := .function, owner := some "Job::run" }]
  symbols := [{ id := "Job", name := "Job", kind := .type }, task, jobRun, taskRun, attempts]
  naming := ["Job", "Task", "Job::run", "Task::run", "Job::run::attempts"]
  overrideEdges := [("Job::run", "Task::run"), ("Task::run", "Job::run")]

/-- A filter that keeps what has the marker of a framework. -/
def frameworkKeeper : Filter where
  ignoreMarkers := { names := ["host.plugin.task"] }

/-- The walk finds the marker behind the cycle, and the variable stays rejected whatever else is
ignored. -/
theorem markers_exact_tangled :
    frameworkKeeper.markerPresence tangled attempts = .present ∧
      (frameworkKeeper.check tangled attempts).1 = .ignoredMarker ∧
      ∀ entries : List String,
        let stricter :=
          { frameworkKeeper with
            ignoreMarkers := entries.foldl .insert frameworkKeeper.ignoreMarkers }
        (stricter.check (tangled.withMarkers Symbol.markers) attempts).1 ≠ .eligible := by
  have hg : tangled.WellFormed := by decide +kernel
  have hmem : attempts ∈ tangled.symbols := by decide +kernel
  have htask : tangled.Inherits attempts task :=
    ((Inherits.self.enclosing (o := jobRun) (by decide +kernel)).overridden (o := taskRun)
      (by decide +kernel) List.mem_cons_self).enclosing (by decide +kernel)
  have hcheck : (frameworkKeeper.check tangled attempts).1 = .ignoredMarker := by decide +kernel
  obtain ⟨-, hpresent, -, -, hmore⟩ := markers_exact frameworkKeeper hg hmem
  refine ⟨hpresent.2 ⟨_, .inherited htask (List.mem_singleton_self _), by decide +kernel⟩, hcheck,
    fun entries => ?_⟩
  exact hmore entries Symbol.markers (fun _ _ _ h => h) (Or.inl hcheck)

end Graph

end Pseudonym
