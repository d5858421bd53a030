import Mathlib.Logic.Function.Basic
import Pseudonym.Graph.Hierarchy

/-!
# Relations read in both directions

Supertypes, overrides and nested scopes are asked for in both directions: which types are above a type
and which below it, and so on. The graph keeps one list of pairs for both questions. Kept as two maps,
one for each direction, the answers grow by one entry each with every new pair: at the end of the list
of its first part in the one map, and of its second part in the other. That is what the lemmas here
say, one for each direction of each relation; a pair that is there already changes nothing.
-/

namespace Pseudonym.Graph

open Function

variable {g : Graph}

section Edges

variable {α β : Type}

/-- A pair at the end of a list is an entry more under its first part. -/
theorem targets_concat [DecidableEq α] (edges : List (α × β)) (a : α) (b : β) :
    (fun x => ((edges ++ [(a, b)]).filter (·.1 = x)).map (·.2)) =
      update (fun x => (edges.filter (·.1 = x)).map (·.2)) a
        ((edges.filter (·.1 = a)).map (·.2) ++ [b]) := by
  funext x
  by_cases hx : a = x
  · subst hx
    simp
  · simp [hx, update_of_ne (Ne.symm hx)]

/-- A pair at the end of a list is an entry more under its second part. -/
theorem sources_concat [DecidableEq β] (edges : List (α × β)) (a : α) (b : β) :
    (fun y => ((edges ++ [(a, b)]).filter (·.2 = y)).map (·.1)) =
      update (fun y => (edges.filter (·.2 = y)).map (·.1)) b
        ((edges.filter (·.2 = b)).map (·.1) ++ [a]) := by
  funext y
  by_cases hy : b = y
  · subst hy
    simp
  · simp [hy, update_of_ne (Ne.symm hy)]

end Edges

/-- A new supertype is one entry more for the type, and the type one entry more for the supertype. -/
theorem addSupertype_maps (g : Graph) (type supertype : SymbolId) :
    let h := g.addSupertype type supertype
    if supertype ∈ g.supertypes type then h.supertypes = g.supertypes ∧ h.subtypes = g.subtypes
    else
      h.supertypes = update g.supertypes type (g.supertypes type ++ [supertype]) ∧
        h.subtypes = update g.subtypes supertype (g.subtypes supertype ++ [type]) := by
  have hmem : supertype ∈ g.supertypes type ↔ (type, supertype) ∈ g.supertypeEdges := by
    simp [supertypes]
  intro h
  by_cases hedge : (type, supertype) ∈ g.supertypeEdges
  · have hsame : h = g := by simp only [h, addSupertype, if_pos hedge]
    rw [if_pos (hmem.2 hedge), hsame]
    exact ⟨rfl, rfl⟩
  · have hedges : h.supertypeEdges = g.supertypeEdges ++ [(type, supertype)] := by
      simp only [h, addSupertype, if_neg hedge, forgetRoots]
    rw [if_neg fun hin => hedge (hmem.1 hin)]
    constructor
    · exact (hedges ▸ targets_concat g.supertypeEdges type supertype :)
    · exact (hedges ▸ sources_concat g.supertypeEdges type supertype :)

/-- A new override is one entry more for the member, and the member one entry more for what it
overrides. -/
theorem addOverride_maps (g : Graph) (member overridden : SymbolId) :
    let h := g.addOverride member overridden
    if member = overridden ∨ overridden ∈ g.superMembers member then
      h.superMembers = g.superMembers ∧ h.directOverriders = g.directOverriders
    else
      h.superMembers = update g.superMembers member (g.superMembers member ++ [overridden]) ∧
        h.directOverriders =
          update g.directOverriders overridden (g.directOverriders overridden ++ [member]) := by
  have hmem : overridden ∈ g.superMembers member ↔ (member, overridden) ∈ g.overrideEdges := by
    simp [superMembers]
  intro h
  by_cases hedge : member = overridden ∨ (member, overridden) ∈ g.overrideEdges
  · have hsame : h = g := by simp only [h, addOverride, if_pos hedge]
    rw [if_pos (hedge.imp_right hmem.2), hsame]
    exact ⟨rfl, rfl⟩
  · have hedges : h.overrideEdges = g.overrideEdges ++ [(member, overridden)] := by
      simp only [h, addOverride, if_neg hedge, forgetRoots, updateSymbol]
    rw [if_neg fun hin => hedge (hin.imp_right hmem.1)]
    constructor
    · exact (hedges ▸ targets_concat g.overrideEdges member overridden :)
    · exact (hedges ▸ sources_concat g.overrideEdges member overridden :)

/-- A new scope is one entry more for the scope around it. -/
theorem childScopes_addScope {h : Graph} {scope : Scope} (hadd : g.addScope scope = .ok h) :
    h.childScopes =
      match scope.parent with
      | some parent => update g.childScopes parent (g.childScopes parent ++ [scope])
      | none => g.childScopes := by
  have hscopes : h.scopes = g.scopes ++ [scope] := by
    unfold addScope at hadd
    split at hadd
    · cases hadd
    · cases hadd
      rfl
  cases hparent : scope.parent with
  | none =>
      funext id
      simp [childScopes, hscopes, hparent]
  | some parent =>
      funext id
      by_cases hid : parent = id
      · subst hid
        simp [childScopes, hscopes, hparent]
      · simp [childScopes, hscopes, hparent, hid, update_of_ne (Ne.symm hid)]

end Pseudonym.Graph
