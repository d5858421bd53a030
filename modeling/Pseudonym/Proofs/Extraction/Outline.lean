import Pseudonym.Extraction.Resolution

/-!
# What resolution depends on

Names and attributes are resolved by what is declared: which symbols and scopes there are, what is
bound where, and how classes are derived. Uses, markers and flags do not matter. `Extraction.outline`
keeps the declarations and drops the rest; an extraction and its outline resolve everything alike
(`resolveName_outline`, `resolveAttribute_outline`). Steps that record uses keep the outline, so a
question may be asked before or after them.
-/

namespace Pseudonym

open Python

/-- What is settled when a symbol is declared. -/
def Symbol.outline (s : Symbol) : Symbol :=
  { s with
    references := []
    markers := []
    parameters := []
    parameterTypes := []
    isOverride := false
    isSynthesized := false
    isTypeParameter := false
    isPhysical := true
    isCanonical := true
    isConstant := false
    isDefaultMethod := false
    isDynamic := false
    literal := none
    statementLines := none }

namespace Symbol

variable {s t : Symbol} (h : s.outline = t.outline)
include h

theorem id_of_outline : s.id = t.id := (congrArg Symbol.id h :)

theorem name_of_outline : s.name = t.name := (congrArg Symbol.name h :)

theorem declaredName_of_outline : s.declaredName = t.declaredName :=
  (congrArg Symbol.declaredName h :)

theorem kind_of_outline : s.kind = t.kind := (congrArg Symbol.kind h :)

theorem scope_of_outline : s.scope = t.scope := (congrArg Symbol.scope h :)

end Symbol

/-- What is settled when a scope is opened, and what it imports. -/
def Scope.outline (c : Scope) : Scope := { c with unresolved := [] }

namespace Graph

/-- The declarations of a graph. -/
def outline (g : Graph) : Graph where
  symbols := g.symbols.map Symbol.outline
  scopes := g.scopes.map Scope.outline
  naming := g.naming
  supertypeEdges := g.supertypeEdges
  overrideEdges := g.overrideEdges

variable (g : Graph)

theorem symbol?_outline (id : SymbolId) :
    g.outline.symbol? id = (g.symbol? id).map Symbol.outline := by
  rw [symbol?, outline, List.find?_map]
  rfl

theorem scope?_outline (id : ScopeId) : g.outline.scope? id = (g.scope? id).map Scope.outline := by
  rw [scope?, outline, List.find?_map]
  rfl

@[simp] theorem symbolIds_outline : g.outline.symbolIds = g.symbolIds := by
  simp [symbolIds, outline, Symbol.outline]

@[simp] theorem scopeIds_outline : g.outline.scopeIds = g.scopeIds := by
  simp [scopeIds, outline, Scope.outline]

theorem symbolsOf_outline (ids : List SymbolId) :
    g.outline.symbolsOf ids = (g.symbolsOf ids).map Symbol.outline := by
  rw [symbolsOf, symbolsOf, List.map_filterMap]
  exact congrArg (List.filterMap · ids) (funext g.symbol?_outline)

theorem importedSymbols_outline (id : ScopeId) :
    g.outline.importedSymbols id = (g.importedSymbols id).map Symbol.outline := by
  rw [importedSymbols, importedSymbols, scope?_outline]
  cases g.scope? id with
  | none => rfl
  | some c => exact g.symbolsOf_outline c.imported

theorem membersOfScope_outline (id : ScopeId) :
    g.outline.membersOfScope id = (g.membersOfScope id).map Symbol.outline := by
  rw [membersOfScope, outline, List.filter_map]
  rfl

@[simp] theorem parentIds_outline : g.outline.parentIds = g.parentIds := by
  funext id
  rw [parentIds, parentIds, scope?_outline]
  cases g.scope? id <;> rfl

theorem ancestors_outline (id : ScopeId) :
    g.outline.ancestors id = (g.ancestors id).map Scope.outline := by
  rw [ancestors, ancestors, parentIds_outline, scopeIds_outline, List.map_filterMap]
  exact congrArg (List.filterMap · _) (funext g.scope?_outline)

theorem ownedScope_outline (id : SymbolId) :
    g.outline.ownedScope id = (g.ownedScope id).map Scope.outline := by
  rw [ownedScope, outline, List.filter_map, List.getLast?_map]
  rfl

@[simp] theorem supertypes_outline : g.outline.supertypes = g.supertypes := rfl

@[simp] theorem allSupertypes_outline (id : SymbolId) :
    g.outline.allSupertypes id = g.allSupertypes id := by
  rw [allSupertypes, allSupertypes, closure, closure, symbolIds_outline]
  rfl

/-! ## Changes that keep the outline -/

theorem updateSymbol_outline (id : SymbolId) {f : Symbol → Symbol}
    (hf : ∀ s, (f s).outline = s.outline) : (g.updateSymbol id f).outline = g.outline := by
  have hsymbols : (g.symbols.map fun s => if s.id = id then f s else s).map Symbol.outline =
      g.symbols.map Symbol.outline := by
    rw [List.map_map]
    refine List.map_congr_left fun s _ => ?_
    simp only [Function.comp]
    split
    · exact hf s
    · rfl
  simp [outline, updateSymbol, hsymbols]

theorem updateScope_outline (id : ScopeId) {f : Scope → Scope}
    (hf : ∀ c, (f c).outline = c.outline) : (g.updateScope id f).outline = g.outline := by
  have hscopes : (g.scopes.map fun c => if c.id = id then f c else c).map Scope.outline =
      g.scopes.map Scope.outline := by
    rw [List.map_map]
    refine List.map_congr_left fun c _ => ?_
    simp only [Function.comp]
    split
    · exact hf c
    · rfl
  simp [outline, updateScope, hscopes]

theorem forgetRoots_outline : g.forgetRoots.outline = g.outline := rfl

end Graph

namespace Extraction

/-- The declarations of an extraction. -/
def outline (x : Extraction) : Extraction where
  graph := x.graph.outline
  modules := x.modules
  index := x.index
  moduleAliases := x.moduleAliases
  externalNames := x.externalNames
  aliasTargets := x.aliasTargets
  receivers := x.receivers

variable (x : Extraction)

/-! ## Names -/

@[simp] theorem declared?_outline : x.outline.declared? = x.declared? := rfl

theorem lookup_outline (scope : ScopeId) (name : String) :
    x.outline.lookup scope name = x.lookup scope name := by
  have hgraph : x.outline.graph = x.graph.outline := rfl
  rw [lookup, lookup, hgraph, Graph.importedSymbols_outline, List.find?_map, Option.map_map]
  rfl

theorem resolveName_outline (scope : ScopeId) (name : String) :
    x.outline.resolveName scope name = x.resolveName scope name := by
  have hgraph : x.outline.graph = x.graph.outline := rfl
  rw [resolveName, resolveName, hgraph, Graph.ancestors_outline, List.filter_map,
    List.findSome?_map]
  simp only [lookup_outline]
  rfl

theorem followAliases_outline (unseen : List SymbolId) (id : SymbolId) :
    x.outline.followAliases unseen id = x.followAliases unseen id := by
  fun_induction followAliases x unseen id with
  | case1 unseen id hid target htarget ih =>
      rw [followAliases, dif_pos hid]
      have htarget' : valueOf? x.outline.aliasTargets id = some target := htarget
      rw [htarget']
      exact ih
  | case2 unseen id hid hnone =>
      rw [followAliases, dif_pos hid]
      have hnone' : valueOf? x.outline.aliasTargets id = none := hnone
      rw [hnone']
  | case3 unseen id hid => rw [followAliases, dif_neg hid]

theorem referent_outline (id : SymbolId) : x.outline.referent id = x.referent id := by
  have hfollow := x.followAliases_outline (x.aliasTargets.map (·.1)) id
  unfold referent
  have haliases : x.outline.aliasTargets = x.aliasTargets := rfl
  simp only [haliases, hfollow]
  rfl

/-! ## Members -/

theorem classMember?_outline (type : SymbolId) (name : String) :
    x.outline.classMember? type name = x.classMember? type name := by
  have hgraph : x.outline.graph = x.graph.outline := rfl
  have howned : ∀ t, ((x.graph.outline.ownedScope t).bind fun scope =>
        x.outline.declared? scope.id name) =
      (x.graph.ownedScope t).bind fun scope => x.declared? scope.id name := fun t => by
    rw [Graph.ownedScope_outline, Option.bind_map]
    rfl
  rw [classMember?, classMember?, hgraph, Graph.allSupertypes_outline]
  simp only [howned]

theorem ownerType?_outline (id : SymbolId) : x.outline.ownerType? id = x.ownerType? id := by
  have hgraph : x.outline.graph = x.graph.outline := rfl
  rw [ownerType?, ownerType?, hgraph, Graph.symbol?_outline]
  cases x.graph.symbol? id <;> rfl

theorem enclosingClass?_outline (scope : ScopeId) :
    x.outline.enclosingClass? scope = x.enclosingClass? scope := by
  have hgraph : x.outline.graph = x.graph.outline := rfl
  have hchain : (x.graph.outline.scope? scope).toList ++ x.graph.outline.ancestors scope =
      ((x.graph.scope? scope).toList ++ x.graph.ancestors scope).map Scope.outline := by
    rw [Graph.scope?_outline, Graph.ancestors_outline, List.map_append]
    cases x.graph.scope? scope <;> rfl
  rw [enclosingClass?, enclosingClass?, hgraph, hchain, List.find?_map, Option.bind_map]
  rfl

theorem memberOf_outline (base : Referent) (name : String) :
    x.outline.memberOf base name = x.memberOf base name := by
  cases base with
  | module module =>
      simp only [memberOf, lookup_outline, funext x.referent_outline]
      rfl
  | external qualname => rfl
  | symbol id =>
      simp only [memberOf, ownerType?_outline, classMember?_outline, funext x.referent_outline]

/-! ## Expressions and attributes -/

theorem resolveExpr_outline (scope : ScopeId) (loose : Bool) (t : Tree) :
    x.outline.resolveExpr scope loose t = x.resolveExpr scope loose t := by
  rw [resolveExpr, resolveExpr]
  split
  · rw [resolveName_outline]
    split
    · rw [referent_outline]
    · rfl
  · split
    · rw [resolveExpr_outline scope loose, funext fun base => x.memberOf_outline base _]
    · rfl
  · split
    · rw [resolveExpr_outline scope loose]
    · rfl
  · split
    · rw [resolveExpr_outline scope loose]
    · rfl
  · rfl
termination_by sizeOf t
decreasing_by all_goals exact Tree.sizeOf_lt_of_get? (by assumption)

theorem isSuperCall_outline (scope : ScopeId) (t : Tree) :
    x.outline.isSuperCall scope t = x.isSuperCall scope t := by
  unfold isSuperCall
  simp only [resolveName_outline]

theorem superTarget_outline (scope : ScopeId) (name : String) :
    x.outline.superTarget scope name = x.superTarget scope name := by
  have hgraph : x.outline.graph = x.graph.outline := rfl
  unfold superTarget
  rw [enclosingClass?_outline]
  simp only [hgraph, Graph.allSupertypes_outline, classMember?_outline]

theorem memberTarget_outline (base : Referent) (name : String) :
    x.outline.memberTarget base name = x.memberTarget base name := by
  cases base with
  | module module =>
      simp only [memberTarget, lookup_outline]
      rfl
  | external qualname => rfl
  | symbol id => simp only [memberTarget, ownerType?_outline, classMember?_outline]

/-- **Attributes are resolved by the outline.** -/
theorem resolveAttribute_outline (scope : ScopeId) (t : Tree) :
    x.outline.resolveAttribute scope t = x.resolveAttribute scope t := by
  unfold resolveAttribute
  simp only [isSuperCall_outline, superTarget_outline, resolveExpr_outline, memberTarget_outline]

/-! ## Changes that keep the outline -/

theorem withGraph_outline {g : Graph} (h : g.outline = x.graph.outline) :
    ({ x with graph := g } : Extraction).outline = x.outline := by
  simp only [outline, h]

theorem updateSymbol_outline (id : SymbolId) {f : Symbol → Symbol}
    (hf : ∀ s, (f s).outline = s.outline) : (x.updateSymbol id f).outline = x.outline :=
  x.withGraph_outline (x.graph.updateSymbol_outline id hf)

@[simp] theorem markDynamic_outline (id : SymbolId) : (x.markDynamic id).outline = x.outline :=
  x.updateSymbol_outline id fun _ => rfl

@[simp] theorem markAllDynamic_outline (ids : List SymbolId) :
    (x.markAllDynamic ids).outline = x.outline := by
  unfold markAllDynamic
  induction ids generalizing x with
  | nil => rfl
  | cons id ids ih => rw [List.foldl_cons, ih, markDynamic_outline]

@[simp] theorem keepNamed_outline (id : SymbolId) : (x.keepNamed id).outline = x.outline := rfl

theorem outline_addReference (s : Symbol) (r : Reference) :
    (s.addReference r).outline = s.outline := by
  unfold Symbol.addReference
  split <;> rfl

@[simp] theorem addReference_outline (m : SourceModule) (id : SymbolId) (span : Option Span)
    (scope : Option ScopeId) (binds : Bool) :
    (x.addReference m id span scope binds).outline = x.outline := by
  unfold addReference
  split
  · split
    · exact x.markDynamic_outline id
    · rfl
  · split
    · exact x.updateSymbol_outline id fun _ => rfl
    · exact x.updateSymbol_outline id fun s => outline_addReference s _

end Extraction

end Pseudonym
