import Pseudonym.Proofs.Graph.Scopes

/-!
# Graphs that differ in names

`Renamed ν g h` says that `h` is `g` with every symbol `s` under the name `ν s`: same ids, same
scopes, same relations. Renaming changes nothing else, so every question that does not look at names
has the same answer in both graphs. What is remembered about roots is no part of the relation.
-/

namespace Pseudonym

/-- A symbol under another name. -/
def Symbol.withName (s : Symbol) (name : String) : Symbol := { s with name }

namespace Symbol

variable (s : Symbol) (name : String)

@[simp] theorem withName_id : (s.withName name).id = s.id := rfl
@[simp] theorem withName_name : (s.withName name).name = name := rfl
@[simp] theorem withName_kind : (s.withName name).kind = s.kind := rfl
@[simp] theorem withName_scope : (s.withName name).scope = s.scope := rfl
@[simp] theorem withName_self : s.withName s.name = s := rfl

end Symbol

namespace Graph

/-- `h` is `g` with every symbol `s` under the name `ν s`. -/
structure Renamed (ν : Symbol → String) (g h : Graph) : Prop where
  symbols_eq : h.symbols = g.symbols.map fun s => s.withName (ν s)
  scopes_eq : h.scopes = g.scopes
  supertypeEdges_eq : h.supertypeEdges = g.supertypeEdges
  overrideEdges_eq : h.overrideEdges = g.overrideEdges

namespace Renamed

variable {ν : Symbol → String} {g h : Graph}

/-- What a graph remembers about roots and the order of its names do not matter. -/
theorem of_eq (hs : h.symbols = g.symbols) (hc : h.scopes = g.scopes)
    (ht : h.supertypeEdges = g.supertypeEdges) (ho : h.overrideEdges = g.overrideEdges) :
    Renamed Symbol.name g h :=
  ⟨by simp [hs], hc, ht, ho⟩

theorem refl (g : Graph) : Renamed Symbol.name g g := of_eq rfl rfl rfl rfl

theorem trans {μ : Symbol → String} {k : Graph} (hgh : Renamed ν g h) (hhk : Renamed μ h k) :
    Renamed (fun s => μ (s.withName (ν s))) g k where
  symbols_eq := by
    rw [hhk.symbols_eq, hgh.symbols_eq, List.map_map]
    rfl
  scopes_eq := hhk.scopes_eq.trans hgh.scopes_eq
  supertypeEdges_eq := hhk.supertypeEdges_eq.trans hgh.supertypeEdges_eq
  overrideEdges_eq := hhk.overrideEdges_eq.trans hgh.overrideEdges_eq

/-! ## Symbols -/

variable (r : Renamed ν g h)
include r

theorem mem_symbols {t : Symbol} : t ∈ h.symbols ↔ ∃ s ∈ g.symbols, s.withName (ν s) = t := by
  rw [r.symbols_eq, List.mem_map]

theorem withName_mem {s : Symbol} (hs : s ∈ g.symbols) : s.withName (ν s) ∈ h.symbols :=
  r.mem_symbols.2 ⟨s, hs, rfl⟩

theorem symbolIds_eq : h.symbolIds = g.symbolIds := by
  simp [symbolIds, r.symbols_eq]

theorem symbol?_eq (id : SymbolId) :
    h.symbol? id = (g.symbol? id).map fun s => s.withName (ν s) := by
  rw [symbol?, r.symbols_eq, List.find?_map]
  rfl

theorem symbolsOf_eq (ids : List SymbolId) :
    h.symbolsOf ids = (g.symbolsOf ids).map fun s => s.withName (ν s) := by
  rw [symbolsOf, symbolsOf, List.map_filterMap]
  exact congrArg (List.filterMap · ids) (funext r.symbol?_eq)

theorem nameOf_eq (hg : g.WellFormed) {s : Symbol} (hs : s ∈ g.symbols) : h.nameOf s.id = ν s := by
  rw [nameOf, r.symbol?_eq, hg.symbol?_id hs]
  rfl

/-! ## Scopes -/

theorem scope?_eq : h.scope? = g.scope? := by
  funext id
  simp [scope?, r.scopes_eq]

theorem scopeIds_eq : h.scopeIds = g.scopeIds := by
  simp [scopeIds, r.scopes_eq]

theorem parentIds_eq : h.parentIds = g.parentIds := by
  funext id
  simp [parentIds, r.scope?_eq]

theorem ancestors_eq (id : ScopeId) : h.ancestors id = g.ancestors id := by
  simp [ancestors, r.scope?_eq, r.scopeIds_eq, r.parentIds_eq]

theorem lookupPath_eq (id : ScopeId) : h.lookupPath id = g.lookupPath id := by
  simp [lookupPath, r.ancestors_eq]

theorem membersOfScope_eq (id : ScopeId) :
    h.membersOfScope id = (g.membersOfScope id).map fun s => s.withName (ν s) := by
  rw [membersOfScope, r.symbols_eq, List.filter_map]
  rfl

/-- A class has the same members, under their new names. -/
theorem members_eq (type : SymbolId) :
    h.members type = (g.members type).map fun s => s.withName (ν s) := by
  have howned : h.ownedScope type = g.ownedScope type := by rw [ownedScope, ownedScope, r.scopes_eq]
  rw [members, members, howned]
  cases g.ownedScope type with
  | none => rfl
  | some c => exact r.membersOfScope_eq c.id

/-- A scope binds the same symbols, under their new names. -/
theorem boundSymbols_eq (id : ScopeId) :
    h.boundSymbols id = (g.boundSymbols id).map fun s => s.withName (ν s) := by
  have himported : h.importedSymbols id =
      (g.importedSymbols id).map fun s => s.withName (ν s) := by
    rw [importedSymbols, importedSymbols, r.scope?_eq]
    cases g.scope? id with
    | none => rfl
    | some c => exact r.symbolsOf_eq c.imported
  rw [boundSymbols, boundSymbols, r.membersOfScope_eq, himported, List.map_append]

/-! ## Relations -/

theorem superMembers_eq : h.superMembers = g.superMembers := by
  funext id
  simp [superMembers, r.overrideEdges_eq]

theorem allSupertypes_eq (id : SymbolId) : h.allSupertypes id = g.allSupertypes id := by
  have hnext : h.supertypes = g.supertypes := by
    funext t
    simp [supertypes, r.supertypeEdges_eq]
  simp [allSupertypes, closure, r.symbolIds_eq, hnext]

theorem findRoots_eq (id : SymbolId) : h.findRoots id = g.findRoots id := by
  simp [findRoots, r.symbolIds_eq, r.superMembers_eq]

end Renamed

end Graph

end Pseudonym
