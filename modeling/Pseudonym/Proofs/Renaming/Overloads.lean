import Pseudonym.Proofs.Renaming.Conflict

/-!
# Overloads after a plan

Where overloading is allowed, two methods of one scope may share a name if their signatures differ.
A plan is checked for this in two ways. A symbol of the plan is compared with every symbol outside
it that is declared in the same scope (`scopeConflicts_eq_nil`). Symbols of the plan are compared
with the first one that claims the same name in the same scope, and with no other
(`eq_claimant_or_mayOverload`). So two methods of the plan with one signature pass the check if they
both follow a third one, and this is the only way in which a plan can spoil the overloads of a graph
(`overloads_after_iff`, `not_overloads_after_reader`).
-/

namespace Pseudonym

namespace Graph

/-- Symbols that share a name in a scope are methods, told apart by their signatures. -/
def Overloads (g : Graph) : Prop :=
  ∀ s ∈ g.symbols, ∀ t ∈ g.symbols, s.id ≠ t.id → s.scope ≠ none → s.scope = t.scope →
    s.name = t.name → s.kind = .method ∧ t.kind = .method ∧ s.signature ≠ t.signature

instance (g : Graph) : Decidable g.Overloads :=
  decidable_of_iff
    (∀ s ∈ g.symbols, ∀ t ∈ g.symbols,
      s.id ≠ t.id ∧ s.scope ≠ none ∧ s.scope = t.scope ∧ s.name = t.name →
        s.kind = .method ∧ t.kind = .method ∧ s.signature ≠ t.signature)
    (by simp only [Overloads, and_imp])

/-- A plan takes a symbol in a scope to a name. -/
structure Takes (g : Graph) (p : Plan) (scope : Option ScopeId) (name : String) (s : Symbol) :
    Prop where
  mem : s ∈ g.symbols
  planned : s.id ∈ p.symbols
  scope_eq : s.scope = scope
  name_eq : nameAfter p.entries s = name

/-- A plan gives one name in one scope to two methods of one signature. -/
structure Clash (g : Graph) (p : Plan) (scope : ScopeId) (name : String) (s t : Symbol) : Prop where
  left : g.Takes p scope name s
  right : g.Takes p scope name t
  ne : s.id ≠ t.id
  signature_eq : s.signature = t.signature

variable {g : Graph} {p : Plan} {overloading : Bool}

theorem mayOverload_true {s t : Symbol} :
    mayOverload true s t ↔ s.kind = .method ∧ t.kind = .method ∧ s.signature ≠ t.signature := by
  simp [mayOverload, and_assoc]

/-! ## Claims -/

/-- The renames of a plan that are looked at, each with its symbol. -/
def claims (g : Graph) (p : Plan) : List (Symbol × String) :=
  p.entries.filterMap fun r => (g.symbol? r.symbol).map fun s => (s, r.name)

/-- Each claim was compared with the first one for its name and scope. -/
theorem mayOverload_of_claimant : ∀ {earlier rest : List (Symbol × String)},
    duplicates overloading earlier rest = [] → ∀ {before after : List (Symbol × String)}
      {s : Symbol} {name : String}, rest = before ++ (s, name) :: after →
        ∀ u, claimant? (earlier ++ before) s name = some u → mayOverload overloading s u := by
  intro earlier rest
  induction rest generalizing earlier with
  | nil => simp
  | cons first rest ih =>
      intro h before after s name hsplit u hu
      obtain ⟨t, n⟩ := first
      rw [duplicates, List.append_eq_nil_iff] at h
      cases before with
      | nil =>
          obtain ⟨⟨rfl, rfl⟩, -⟩ : (t = s ∧ n = name) ∧ rest = after := by simpa using hsplit
          rw [List.append_nil] at hu
          by_contra hmay
          simp [hu, hmay] at h
      | cons b before =>
          obtain ⟨rfl, hrest⟩ : (t, n) = b ∧ rest = before ++ (s, name) :: after := by
            simpa using hsplit
          exact ih h.2 hrest u (by simpa using hu)

/-- A claim is the first one for its name and scope, or it may share the name with the first. -/
theorem eq_claimant_or_mayOverload {named : List (Symbol × String)}
    (h : duplicates overloading [] named = []) {s : Symbol} {name : String}
    (hs : (s, name) ∈ named) :
    ∃ u, claimant? named s name = some u ∧ (u = s ∨ mayOverload overloading s u) := by
  obtain ⟨before, after, rfl⟩ := List.append_of_mem hs
  unfold claimant?
  rw [List.find?_append]
  generalize hfirst : List.find? _ before = found
  cases found with
  | none => exact ⟨s, by simp, Or.inl rfl⟩
  | some first =>
      refine ⟨first.1, by simp, Or.inr ?_⟩
      refine mayOverload_of_claimant h rfl first.1 ?_
      show (before.find? _).map (·.1) = some first.1
      rw [hfirst]
      rfl

/-! ## Symbols of an accepted plan -/

/-- The name that a symbol of a plan gets is that of its entry. -/
theorem exists_entry_of_mem (p : Plan) {s : Symbol} (h : s.id ∈ p.symbols) :
    ∃ r ∈ p.entries, r.symbol = s.id ∧ nameAfter p.entries s = r.name := by
  obtain ⟨r, hr, hid⟩ := List.mem_map.1 h
  exact ⟨r, hr, hid, nameAfter_of_mem p.entries_nodup hr hid⟩

section Accepted

variable (hg : g.WellFormed) (haccepted : g.conflicts true p = []) {scope : ScopeId}
  {name : String} {s t : Symbol}
include hg haccepted

/-- A symbol of the plan is the first that takes the name in its scope, or it may share the name
with the first. -/
theorem Takes.first (hs : g.Takes p scope name s) :
    ∃ u, claimant? (g.claims p) s name = some u ∧ g.Takes p scope name u ∧
      (u = s ∨ mayOverload true s u) := by
  have hduplicates : duplicates true [] (g.claims p) = [] := (List.append_eq_nil_iff.1 haccepted).1
  obtain ⟨r, hr, hid, hname⟩ := exists_entry_of_mem p hs.planned
  have hclaim : (s, name) ∈ g.claims p := by
    refine List.mem_filterMap.2 ⟨r, hr, ?_⟩
    rw [hid, hg.symbol?_id hs.mem, ← hs.name_eq, hname]
    rfl
  obtain ⟨u, hu, hfirst⟩ := eq_claimant_or_mayOverload hduplicates hclaim
  refine ⟨u, hu, ?_, hfirst⟩
  -- The first claim is one of the plan, and it has the name and the scope that were looked for.
  obtain ⟨⟨u', n⟩, hfound, rfl⟩ := Option.map_eq_some_iff.1 hu
  have hkey := List.find?_some hfound
  obtain ⟨r', hr', hsome⟩ := List.mem_filterMap.1 (List.mem_of_find?_eq_some hfound)
  obtain ⟨v, hv, heq⟩ := Option.map_eq_some_iff.1 hsome
  obtain ⟨rfl, rfl⟩ := Prod.mk.inj heq
  obtain ⟨hmem, hvid⟩ := hg.symbol?_eq_some.1 hv
  obtain ⟨hscope, hn⟩ : v.scope = s.scope ∧ r'.name = name := by simpa using hkey
  exact
    { mem := hmem
      planned := hvid ▸ List.mem_map_of_mem hr'
      scope_eq := hscope.trans hs.scope_eq
      name_eq := (nameAfter_of_mem p.entries_nodup hr' hvid.symm).trans hn }

/-- Two symbols of the plan that take one name in one scope may share it, unless a third one takes
it before them. -/
theorem Takes.overload_or_third (hs : g.Takes p scope name s) (ht : g.Takes p scope name t)
    (hne : s.id ≠ t.id) :
    s.kind = .method ∧ t.kind = .method ∧ (s.signature ≠ t.signature ∨
      ∃ u, g.Takes p scope name u ∧ u.signature ≠ s.signature ∧ u.signature ≠ t.signature) := by
  obtain ⟨u, hu, hthird, hsu⟩ := hs.first hg haccepted
  obtain ⟨v, hv, -, htv⟩ := ht.first hg haccepted
  obtain rfl : u = v := by
    have hkey : claimant? (g.claims p) s name = claimant? (g.claims p) t name := by
      simp only [claimant?, hs.scope_eq, ht.scope_eq]
    rw [hkey, hv] at hu
    exact (Option.some.inj hu).symm
  rcases hsu with rfl | hsu
  · -- The first of the two takes the name first.
    rcases htv with rfl | htv
    · exact absurd rfl hne
    · obtain ⟨hkind, hkind', hsignature⟩ := mayOverload_true.1 htv
      exact ⟨hkind', hkind, Or.inl (Ne.symm hsignature)⟩
  · obtain ⟨hkind, hkind', hsignature⟩ := mayOverload_true.1 hsu
    rcases htv with rfl | htv
    · exact ⟨hkind, hkind', Or.inl hsignature⟩
    · obtain ⟨hkind'', -, hsignature'⟩ := mayOverload_true.1 htv
      exact ⟨hkind, hkind'', Or.inr ⟨u, hthird, Ne.symm hsignature, Ne.symm hsignature'⟩⟩

/-- A symbol of the plan may share its new name with the symbols outside it. -/
theorem Takes.overload_outside (hs : g.Takes p scope name s) (ht : t ∈ g.symbols)
    (hscope : t.scope = some scope) (hname : t.name = name) (hout : t.id ∉ p.symbols) :
    s.kind = .method ∧ t.kind = .method ∧ s.signature ≠ t.signature := by
  obtain ⟨r, hr, hid, hnew⟩ := exists_entry_of_mem p hs.planned
  have hentries := List.flatMap_eq_nil_iff.1 (List.append_eq_nil_iff.1 haccepted).2
  have hrename : g.renameConflicts true p.symbols r = [] := hentries r hr
  simp only [renameConflicts, hid, hg.symbol?_id hs.mem, List.append_eq_nil_iff] at hrename
  obtain ⟨⟨⟨⟨⟨hmembers, -⟩, -⟩, -⟩, -⟩, -⟩ := hrename
  have hmay := scopeConflicts_eq_nil.1 hmembers scope hs.scope_eq t
    (mem_membersOfScope.2 ⟨ht, hscope⟩) (by rw [← hnew, hs.name_eq, hname])
  exact mayOverload_true.1 (hmay.resolve_left hout)

end Accepted

/-! ## The graph afterwards -/

/-- In a renamed graph, overloads are told by the new names. -/
theorem Renamed.overloads_iff {ν : Symbol → String} {h : Graph} (r : Renamed ν g h) :
    h.Overloads ↔ ∀ s ∈ g.symbols, ∀ t ∈ g.symbols, s.id ≠ t.id → s.scope ≠ none →
      s.scope = t.scope → ν s = ν t →
        s.kind = .method ∧ t.kind = .method ∧ s.signature ≠ t.signature := by
  unfold Overloads
  rw [r.symbols_eq]
  simp only [List.forall_mem_map]
  rfl

/-- Two symbols that have one name in one scope after an accepted plan may share it, unless the plan
gives it to both of them and their signatures agree. -/
theorem overload_after (hg : g.WellFormed) (hoverloads : g.Overloads)
    (haccepted : g.conflicts true p = []) {s t : Symbol} (hs : s ∈ g.symbols) (ht : t ∈ g.symbols)
    (hne : s.id ≠ t.id) {scope : ScopeId} (hscope : s.scope = some scope)
    (hscope' : t.scope = some scope) (hname : nameAfter p.entries s = nameAfter p.entries t) :
    s.kind = .method ∧ t.kind = .method ∧
      (s.signature ≠ t.signature ∨ g.Clash p scope (nameAfter p.entries t) s t) := by
  by_cases hsp : s.id ∈ p.symbols
  · have hs' : g.Takes p scope (nameAfter p.entries t) s := ⟨hs, hsp, hscope, hname⟩
    by_cases htp : t.id ∈ p.symbols
    · have ht' : g.Takes p scope (nameAfter p.entries t) t := ⟨ht, htp, hscope', rfl⟩
      obtain ⟨hkind, hkind', -⟩ := hs'.overload_or_third hg haccepted ht' hne
      refine ⟨hkind, hkind', ?_⟩
      by_cases hsignature : s.signature = t.signature
      · exact Or.inr ⟨hs', ht', hne, hsignature⟩
      · exact Or.inl hsignature
    · rw [nameAfter_of_not_mem htp] at hs'
      obtain ⟨hkind, hkind', hsignature⟩ :=
        hs'.overload_outside hg haccepted ht hscope' rfl htp
      exact ⟨hkind, hkind', Or.inl hsignature⟩
  · rw [nameAfter_of_not_mem hsp] at hname
    by_cases htp : t.id ∈ p.symbols
    · have ht' : g.Takes p scope s.name t := ⟨ht, htp, hscope', hname.symm⟩
      obtain ⟨hkind, hkind', hsignature⟩ :=
        ht'.overload_outside hg haccepted hs hscope rfl hsp
      exact ⟨hkind', hkind, Or.inl (Ne.symm hsignature)⟩
    · rw [nameAfter_of_not_mem htp] at hname
      obtain ⟨hkind, hkind', hsignature⟩ := hoverloads s hs t ht hne (by simp [hscope])
        (hscope.trans hscope'.symm) hname
      exact ⟨hkind, hkind', Or.inl hsignature⟩

/-- **Overloads after a plan.** Where overloading is allowed, an accepted plan keeps the overloads of
a graph apart exactly when it gives no name twice in a scope to methods of one signature. Where it
does, a third symbol of another signature takes the name in the same plan: with no more than two of
them, all overloads are kept apart. -/
theorem overloads_after_iff {c : Changes} (hg : g.WellFormed) (hoverloading : c.overloading = true)
    (hoverloads : g.Overloads) (haccepted : (c.rename g p).1 = []) :
    ((c.rename g p).2.1.Overloads ↔ ∀ scope name s t, ¬ g.Clash p scope name s t) ∧
      ∀ scope name s t, g.Clash p scope name s t →
        ∃ u, g.Takes p scope name u ∧ u.signature ≠ s.signature ∧ u.signature ≠ t.signature := by
  rcases hresult : c.rename g p with ⟨conflicts, g', c'⟩
  rw [hresult] at haccepted
  obtain ⟨-, hconflicts, hgraph⟩ | ⟨hrefused, -⟩ := Changes.rename_cases hresult
  · rw [hoverloading] at hconflicts
    rw [hgraph, (applyRenames_renamed hg.symbolIds_nodup p.entries_nodup).overloads_iff]
    refine ⟨⟨?_, ?_⟩, ?_⟩
    · intro hafter scope name s t hclash
      obtain ⟨hs, ht, hne, hsignature⟩ := hclash
      have hkept := hafter s hs.mem t ht.mem hne (by simp [hs.scope_eq])
        (hs.scope_eq.trans ht.scope_eq.symm) (hs.name_eq.trans ht.name_eq.symm)
      exact hkept.2.2 hsignature
    · intro hfree s hs t ht hne hscope hscopes hname
      obtain ⟨scope, hsome⟩ := Option.ne_none_iff_exists'.1 hscope
      obtain ⟨hkind, hkind', hsignature | hclash⟩ := overload_after hg hoverloads hconflicts hs ht
        hne hsome (hscopes.symm.trans hsome) hname
      · exact ⟨hkind, hkind', hsignature⟩
      · exact absurd hclash (hfree scope _ s t)
    · intro scope name s t hclash
      obtain ⟨hs, ht, hne, hsignature⟩ := hclash
      obtain ⟨-, -, hdiffer | hthird⟩ := hs.overload_or_third hg hconflicts ht hne
      · exact absurd hsignature hdiffer
      · exact hthird
  · exact absurd haccepted hrefused

/-- The methods of the reader, each with the type of its parameter. -/
def readerMethods : List (String × String) :=
  [("_open", "str"), ("_read", "int"), ("_scan", "int")]

/-- A class with three methods, two of which have one signature. -/
def reader : Graph where
  scopes := { id := "Reader", kind := .type, owner := some "::Reader" } ::
    readerMethods.map fun (method, _) =>
      { id := "Reader." ++ method, kind := .function, parent := some "Reader",
        owner := some ("Reader::" ++ method) }
  symbols := { id := "::Reader", name := "Reader", kind := .type } ::
    readerMethods.flatMap fun (method, type) => [
      { id := "Reader::" ++ method, name := method, kind := .method, visibility := .prot,
        scope := some "Reader", parameters := ["Reader." ++ method ++ "::at"],
        parameterTypes := [type] },
      { id := "Reader." ++ method ++ "::at", name := "at", kind := .variable, visibility := .priv,
        scope := some ("Reader." ++ method), isLocal := true }]
  naming := "::Reader" :: readerMethods.flatMap fun (method, _) =>
    ["Reader::" ++ method, "Reader." ++ method ++ "::at"]

/-- The plan that gives the first methods of the reader one name. -/
def merging (others : List String) : Plan where
  primary := "Reader::_open"
  name := "_load"
  cascade := others.map fun other => ⟨"Reader::" ++ other, "_load"⟩

/-- Two methods with different signatures are kept apart. -/
theorem overloads_after_iff_reader :
    let c : Changes := { overloading := true }
    (reader.WellFormed ∧ reader.Overloads ∧ (c.rename reader (merging ["_read"])).1 = []) ∧
      (c.rename reader (merging ["_read"])).2.1.Overloads ∧
      ∀ s t, ¬ reader.Clash (merging ["_read"]) "Reader" "_load" s t := by
  intro c
  have hg : reader.WellFormed := by decide +kernel
  have hoverloads : reader.Overloads := by decide +kernel
  have haccepted : (c.rename reader (merging ["_read"])).1 = [] := by decide +kernel
  have hafter : (c.rename reader (merging ["_read"])).2.1.Overloads := by decide +kernel
  obtain ⟨hiff, -⟩ := overloads_after_iff hg rfl hoverloads haccepted
  exact ⟨⟨hg, hoverloads, haccepted⟩, hafter, hiff.1 hafter "Reader" "_load"⟩

/-- The third method is compared with the first one only, and gets the name and the signature of the
second. -/
theorem not_overloads_after_reader :
    ¬ ∀ (c : Changes) (g : Graph) (p : Plan), c.overloading = true → g.WellFormed → g.Overloads →
      (∀ id ∈ p.symbols, id ∈ g.symbolIds) → (c.rename g p).1 = [] →
        (c.rename g p).2.1.Overloads := by
  intro h
  have hafter := h { overloading := true } reader (merging ["_read", "_scan"]) rfl
    (by decide +kernel) (by decide +kernel) (by decide +kernel) (by decide +kernel)
  exact absurd hafter (by decide +kernel)

end Graph

end Pseudonym
