import Pseudonym.Proofs.Graph.Renamed
import Pseudonym.Renaming.Changes

/-!
# The effect of a plan

A plan names every symbol once (`Plan.entries_nodup`), so committing it gives each of its symbols
the new name of its one entry and leaves all others alone: the graph afterwards is the graph before
under `nameAfter` (`applyRenames_renamed`), and it is well formed (`WellFormed.applyRenames`).
-/

namespace Pseudonym

open Pseudonym.Graph

/-! ## The entries of a plan -/

namespace Plan

theorem distinct_subset : ∀ {rs : List Rename}, distinct rs ⊆ rs
  | [] => by simp [distinct]
  | r :: rs => by
      intro e he
      rcases List.mem_cons.1 he with rfl | he
      · exact List.mem_cons_self
      · exact List.mem_cons_of_mem _ (distinct_subset (List.mem_of_mem_filter he))

theorem distinct_nodup : ∀ rs : List Rename, ((distinct rs).map (·.symbol)).Nodup
  | [] => by simp [distinct]
  | r :: rs => by
      rw [distinct, List.map_cons, List.nodup_cons]
      constructor
      · intro hmem
        obtain ⟨e, he, heq⟩ := List.mem_map.1 hmem
        simpa [heq] using (List.mem_filter.1 he).2
      · exact (distinct_nodup rs).sublist (List.filter_sublist.map _)

/-- Every symbol keeps an entry. -/
theorem mem_distinct_symbols {id : SymbolId} : ∀ {rs : List Rename},
    id ∈ (distinct rs).map (·.symbol) ↔ id ∈ rs.map (·.symbol)
  | [] => by simp [distinct]
  | r :: rs => by
      have ih : id ∈ (distinct rs).map (·.symbol) ↔ id ∈ rs.map (·.symbol) := mem_distinct_symbols
      simp only [List.mem_map] at ih
      simp only [distinct, List.map_cons, List.mem_cons, List.mem_map, List.mem_filter,
        decide_eq_true_eq]
      by_cases hid : id = r.symbol
      · simp [hid]
      · simp only [hid, false_or, ← ih]
        constructor
        · rintro ⟨e, ⟨he, -⟩, heq⟩
          exact ⟨e, he, heq⟩
        · rintro ⟨e, he, heq⟩
          exact ⟨e, ⟨he, fun h => hid (heq.symm.trans h)⟩, heq⟩

variable {p : Plan}

theorem entries_nodup (p : Plan) : (p.entries.map (·.symbol)).Nodup := distinct_nodup _

theorem mem_symbols {id : SymbolId} :
    id ∈ p.symbols ↔ id = p.primary ∨ id ∈ p.cascade.map (·.symbol) := by
  rw [symbols, entries, mem_distinct_symbols, List.map_cons, List.mem_cons]

/-- An entry is the first one or depends on it. -/
theorem mem_entries {r : Rename} (h : r ∈ p.entries) : r = ⟨p.primary, p.name⟩ ∨ r ∈ p.cascade :=
  List.mem_cons.1 (distinct_subset h)

end Plan

/-! ## Names after a list of renames -/

/-- The name of a symbol after some renames. -/
def nameAfter (rs : List Rename) (s : Symbol) : String :=
  ((rs.find? (·.symbol = s.id)).map (·.name)).getD s.name

theorem nameAfter_cons (r : Rename) (rs : List Rename) (s : Symbol) :
    nameAfter (r :: rs) s = if r.symbol = s.id then r.name else nameAfter rs s := by
  unfold nameAfter
  by_cases h : r.symbol = s.id
  · rw [List.find?_cons_of_pos (by simpa using h), if_pos h]
    rfl
  · rw [List.find?_cons_of_neg (by simpa using h), if_neg h]

theorem nameAfter_of_not_mem {rs : List Rename} {s : Symbol} (h : s.id ∉ rs.map (·.symbol)) :
    nameAfter rs s = s.name := by
  have hnone : rs.find? (·.symbol = s.id) = none := by
    refine List.find?_eq_none.2 fun r hr => ?_
    have hne : r.symbol ≠ s.id := fun heq => h (List.mem_map.2 ⟨r, hr, heq⟩)
    simpa using hne
  rw [nameAfter, hnone]
  rfl

theorem nameAfter_of_mem {rs : List Rename} (hnd : (rs.map (·.symbol)).Nodup) {r : Rename}
    (hr : r ∈ rs) {s : Symbol} (h : r.symbol = s.id) : nameAfter rs s = r.name := by
  rw [nameAfter, (find?_key_eq_some hnd).2 ⟨hr, h⟩]
  rfl

namespace Graph

variable {g : Graph}

/-- Giving a symbol its current name is no exception: nothing happens, and nothing has to. -/
theorem rename_renamed (hg : g.symbolIds.Nodup) (id : SymbolId) (name : String) :
    Renamed (fun s => if s.id = id then name else s.name) g (g.rename id name) := by
  unfold Graph.rename
  split
  · next hname =>
      refine ⟨?_, rfl, rfl, rfl⟩
      conv_lhs => rw [← List.map_id g.symbols]
      refine List.map_congr_left fun s hs => ?_
      by_cases hid : s.id = id
      · have hfind : g.symbol? id = some s := (find?_key_eq_some hg).2 ⟨hs, hid⟩
        have hsname : s.name = name := by simpa [nameOf, hfind] using hname
        rw [if_pos hid, ← hsname]
        rfl
      · rw [if_neg hid]
        rfl
  · refine ⟨List.map_congr_left fun s _ => ?_, rfl, rfl, rfl⟩
    split <;> rfl

theorem applyRenames_renamed : ∀ {rs : List Rename} {g : Graph}, g.symbolIds.Nodup →
    (rs.map (·.symbol)).Nodup → Renamed (nameAfter rs) g (Changes.applyRenames g rs)
  | [], g, _, _ => Renamed.refl g
  | r :: rs, g, hg, hnd => by
      rw [List.map_cons, List.nodup_cons] at hnd
      have hfirst := rename_renamed hg r.symbol r.name
      have hids : (g.rename r.symbol r.name).symbolIds.Nodup := by rwa [hfirst.symbolIds_eq]
      have hrest := applyRenames_renamed hids hnd.2
      have hall := hfirst.trans hrest
      refine ⟨?_, hall.scopes_eq, hall.supertypeEdges_eq, hall.overrideEdges_eq⟩
      refine hall.symbols_eq.trans (List.map_congr_left fun s _ => congrArg s.withName ?_)
      rw [nameAfter_cons]
      by_cases hs : r.symbol = s.id
      · -- The first rename is the only one of its symbol, so the others keep its result.
        rw [if_pos hs, if_pos hs.symm, nameAfter_of_not_mem]
        · rfl
        · exact hs ▸ hnd.1
      · rw [if_neg hs, if_neg fun h => hs h.symm]
        rfl

theorem WellFormed.applyRenames : ∀ {rs : List Rename} {g : Graph}, g.WellFormed →
    (∀ r ∈ rs, r.symbol ∈ g.symbolIds) → (Changes.applyRenames g rs).WellFormed
  | [], _, hg, _ => hg
  | r :: rs, g, hg, hrs => by
      have hfirst := rename_renamed hg.symbolIds_nodup r.symbol r.name
      have hr := hrs r List.mem_cons_self
      have hrest : ∀ e ∈ rs, e.symbol ∈ (g.rename r.symbol r.name).symbolIds := fun e he => by
        rw [hfirst.symbolIds_eq]
        exact hrs e (List.mem_cons_of_mem _ he)
      show (Changes.applyRenames (g.rename r.symbol r.name) rs).WellFormed
      exact WellFormed.applyRenames (hg.rename hr r.name) hrest

end Graph

/-- A plan without conflicts is applied as a whole, any other one changes nothing. -/
theorem Changes.rename_cases {c c' : Changes} {g g' : Graph} {p : Plan} {conflicts : List Conflict}
    (h : c.rename g p = (conflicts, g', c')) :
    (conflicts = [] ∧ g.conflicts c.overloading p = [] ∧ g' = applyRenames g p.entries) ∨
      (conflicts ≠ [] ∧ g' = g ∧ c' = c) := by
  unfold Changes.rename at h
  split at h
  · next hnil =>
      obtain ⟨rfl, rfl, -⟩ := Prod.mk.inj h |>.imp_right Prod.mk.inj
      exact Or.inl ⟨rfl, hnil, rfl⟩
  · next hne =>
      obtain ⟨rfl, rfl, rfl⟩ := Prod.mk.inj h |>.imp_right Prod.mk.inj
      exact Or.inr ⟨hne, rfl, rfl⟩

/-- A plan without conflicts is added to the committed ones. -/
theorem Changes.changes_of_committed {c c' : Changes} {g g' : Graph} {p : Plan}
    (h : c.rename g p = ([], g', c')) : c' = { c with committed := c.committed ++ [p] } := by
  unfold Changes.rename at h
  split at h
  · exact (Prod.mk.inj (Prod.mk.inj h).2).2.symm
  · next hne => exact absurd (Prod.mk.inj h).1 hne

end Pseudonym
