import Pseudonym.Proofs.Python.Walk

/-!
# Names in trees

The names of a program are free of the signs that ids are made with (`Plain`, `Spelled`), and what a
walk through a tree meets is part of the tree.
-/

namespace Pseudonym

open Python Python.Tree

/-- A name without the signs that ids are made with: `#` stands before a number, `<` before a word
for something without a name. -/
def Plain (name : String) : Prop := '#' ∉ name.toList ∧ '<' ∉ name.toList

instance : DecidablePred Plain := fun name =>
  inferInstanceAs (Decidable ('#' ∉ name.toList ∧ '<' ∉ name.toList))

/-- The names that a label holds; dotted names are listed with their parts. -/
def Python.Label.names : Label → List String
  | .name id _ | .attribute id _ | .parameter id _ _ | .functionDef id _ | .classDef id => [id]
  | .handler id | .matchMapping id | .matchStar id | .matchAs id => id.toList
  | .importedName id asName => id :: id.splitOn "." ++ asName.toList
  | _ => []

namespace Python

/-- The names in a tree are plain. -/
def Spelled (t : Tree) : Prop := ∀ u ∈ t.nodes, ∀ name ∈ u.label.names, Plain name

instance : DecidablePred Spelled := fun t =>
  inferInstanceAs (Decidable (∀ u ∈ t.nodes, ∀ name ∈ u.label.names, Plain name))

theorem Spelled.of_mem_nodes {t u : Tree} (h : Spelled t) (hu : u ∈ t.nodes) : Spelled u :=
  fun v hv => h v (nodes_subset hu hv)

theorem Spelled.label {t : Tree} (h : Spelled t) {name : String} (hname : name ∈ t.label.names) :
    Plain name :=
  h t (mem_nodes_self t) name hname

theorem mem_nodes_of_mem_all {t u : Tree} {role : Role} (h : u ∈ t.all role) : u ∈ t.nodes :=
  mem_nodes_of_mem_children (List.mem_map.2 ⟨_, mem_parts_of_mem_all h, rfl⟩)

/-- Parts of parts. -/
theorem mem_nodes_of_mem_flatMap_all {t u : Tree} {us : List Tree} {role inner : Role}
    (hus : us ⊆ t.all role) (h : u ∈ us.flatMap (·.all inner)) : u ∈ t.nodes := by
  obtain ⟨v, hv, hu⟩ := List.mem_flatMap.1 h
  exact nodes_subset (mem_nodes_of_mem_all (hus hv)) (mem_nodes_of_mem_all hu)

theorem mem_nodes_of_mem_outerParts {t u : Tree} (h : u ∈ t.outerParts) : u ∈ t.nodes := by
  unfold outerParts at h
  split at h
  · simp only [List.mem_append] at h
    rcases h with (((h | h) | h) | h) | h
    · exact mem_nodes_of_mem_all h
    · exact mem_nodes_of_mem_all h
    · exact mem_nodes_of_mem_all h
    · exact mem_nodes_of_mem_flatMap_all (List.Subset.refl _) h
    · exact mem_nodes_of_mem_all h
  · simp only [List.mem_append] at h
    rcases h with (h | h) | h
    · exact mem_nodes_of_mem_all h
    · exact mem_nodes_of_mem_all h
    · exact mem_nodes_of_mem_flatMap_all (List.Subset.refl _) h
  · simp only [List.mem_append] at h
    rcases h with h | h <;> exact mem_nodes_of_mem_all h
  · exact mem_nodes_of_mem_flatMap_all (List.take_subset ..) h
  · simp at h

theorem mem_nodes_of_mem_innerParts {t u : Tree} (h : u ∈ t.innerParts) : u ∈ t.nodes := by
  unfold innerParts at h
  split at h
  · exact mem_nodes_of_mem_all h
  · exact mem_nodes_of_mem_all h
  · exact mem_nodes_of_mem_all h
  · simp only [List.mem_append, List.mem_flatMap] at h
    rcases h with (⟨c, hc, h⟩ | ⟨c, hc, h⟩) | h
    · have hnode := mem_nodes_of_mem_all (List.mem_of_mem_take hc)
      rcases h with h | h <;> exact nodes_subset hnode (mem_nodes_of_mem_all h)
    · have hnode := mem_nodes_of_mem_all (List.mem_of_mem_drop hc)
      rcases h with (h | h) | h <;> exact nodes_subset hnode (mem_nodes_of_mem_all h)
    · rcases h with (h | h) | h <;> exact mem_nodes_of_mem_all h
  · simp at h

theorem mem_nodes_of_mem_met_singleton {r t : Tree} (h : t ∈ met [r]) : t ∈ r.nodes := by
  rw [met_singleton] at h
  rcases List.mem_cons.1 h with rfl | h
  · exact mem_nodes_self t
  · obtain ⟨u, hu, ht⟩ := mem_met.1 h
    have hnode : u ∈ r.nodes := by
      unfold nextParts at hu
      split at hu
      · exact mem_nodes_of_mem_outerParts hu
      · exact mem_nodes_of_mem_children hu
    exact nodes_subset hnode (mem_nodes_of_mem_met_singleton ht)
termination_by sizeOf r
decreasing_by exact sizeOf_lt_of_mem_nextParts hu

/-- What a walk meets is spelled as what it started from. -/
theorem spelled_of_mem_met {ts : List Tree} (h : ∀ t ∈ ts, Spelled t) {t : Tree}
    (ht : t ∈ met ts) : Spelled t := by
  obtain ⟨r, hr, htr⟩ := mem_met.1 ht
  exact (h r hr).of_mem_nodes (mem_nodes_of_mem_met_singleton htr)

end Python

end Pseudonym
