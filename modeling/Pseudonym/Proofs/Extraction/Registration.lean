import Mathlib.Logic.Relation
import Pseudonym.Proofs.Extraction.Numbering
import Pseudonym.Proofs.Extraction.Outline
import Pseudonym.Proofs.Graph.WellFormed

/-!
# Elementary steps of an extraction

However a module binds its names and however a program is linked, the declarations change only in a
few ways: a symbol is declared, a scope is opened, a symbol is taken over into a scope, a class is
derived from another one, and something becomes known about what is there. `Step` lists these.
Nothing that was declared is ever lost (`Steps.grows`), and the ids, the index and what was noted
about classes and imports stay in order (`Registered`): no id is given out twice, the index has an
entry for every symbol and no others, and nothing of one file gets into a scope of another.

Functions of the extraction are shown to be sequences of steps elsewhere; a new invariant of the
declarations needs a proof for the cases of `Step` only.
-/

namespace Pseudonym

open Files Python Relation

/-! ## Facts that refer to the graph -/

/-- A scope of some file is registered. -/
def Graph.ScopeIn (g : Graph) (file : Option Path) (id : ScopeId) : Prop :=
  ∃ c ∈ g.scopes, c.id = id ∧ c.file = file

/-- A symbol of some file is registered. -/
def Graph.SymbolIn (g : Graph) (file : Option Path) (id : SymbolId) : Prop :=
  ∃ s ∈ g.symbols, s.id = id ∧ s.file = file

theorem Graph.ScopeIn.mem {g : Graph} {file : Option Path} {id : ScopeId} (h : g.ScopeIn file id) :
    id ∈ g.scopeIds := by
  obtain ⟨c, hc, hid, -⟩ := h
  exact mem_scopeIds.2 ⟨c, hc, hid⟩

theorem Graph.SymbolIn.mem {g : Graph} {file : Option Path} {id : SymbolId}
    (h : g.SymbolIn file id) : id ∈ g.symbolIds := by
  obtain ⟨s, hs, hid, -⟩ := h
  exact mem_symbolIds.2 ⟨s, hs, hid⟩

/-- The symbol and the body of a class are registered. -/
structure ClassFact.Known (x : Extraction) (c : ClassFact) : Prop where
  symbol_in : x.graph.SymbolIn (some c.module.path) c.symbol
  body : ∃ b ∈ x.graph.scopes, b.id = c.bodyScope ∧ b.kind = .type ∧ b.owner = some c.symbol ∧
    b.file = some c.module.path

theorem ClassFact.Known.body_in {x : Extraction} {c : ClassFact} (h : c.Known x) :
    x.graph.ScopeIn (some c.module.path) c.bodyScope := by
  obtain ⟨b, hb, hid, -, -, hfile⟩ := h.body
  exact ⟨b, hb, hid, hfile⟩

/-- A function stands in a module, its class and its receiver are registered, and its names are
names. -/
structure FunctionFact.Known (x : Extraction) (f : FunctionFact) : Prop where
  module_mem : f.module ∈ x.modules
  node_mem : f.node ∈ f.module.tree.nodes
  spelled : Spelled f.node
  owner_in : ∀ id ∈ f.owner, x.graph.SymbolIn (some f.module.path) id
  receiver_mem : ∀ id ∈ f.receiver, id ∈ x.graph.symbolIds

/-- The scope of an import is registered, and its names are names. -/
structure PendingImport.Known (x : Extraction) (i : PendingImport) : Prop where
  scope_in : x.graph.ScopeIn (some i.module.path) i.scope
  spelled : Spelled i.importedName

/-- What a scope is from the start on. -/
def Scope.frame (c : Scope) : Scope := { c with unresolved := [], imported := [] }

namespace Graph

variable {g g' : Graph}

theorem addScope_eq_ok {c : Scope} (h : g.addScope c = .ok g') :
    c.id ∉ g.scopeIds ∧ g' = { g with scopes := g.scopes ++ [c] } := by
  unfold addScope at h
  split at h
  · cases h
  · next hnew =>
      refine ⟨fun hmem => hnew ?_, (Except.ok.inj h).symm⟩
      obtain ⟨d, hd, hid⟩ := mem_scopeIds.1 hmem
      exact List.find?_isSome.2 ⟨d, hd, by simpa using hid⟩

theorem addScope_of_not_mem {c : Scope} (h : c.id ∉ g.scopeIds) :
    g.addScope c = .ok { g with scopes := g.scopes ++ [c] } := by
  have hfree : (g.scope? c.id).isSome = false := by
    rw [Bool.eq_false_iff]
    intro hsome
    obtain ⟨d, hd, hid⟩ := List.find?_isSome.1 hsome
    exact h (mem_scopeIds.2 ⟨d, hd, of_decide_eq_true hid⟩)
  rw [addScope, hfree]
  rfl

theorem addSymbol_of_not_mem {s : Symbol} (h : s.id ∉ g.symbolIds) :
    g.addSymbol s = .ok { g with symbols := g.symbols ++ [s], naming := g.naming ++ [s.id] } := by
  have hfree : g.contains s.id = false := by
    rw [contains, List.any_eq_false]
    exact fun t ht hid => h (mem_symbolIds.2 ⟨t, ht, of_decide_eq_true hid⟩)
  rw [addSymbol, hfree]
  rfl

theorem contains_iff {id : SymbolId} : g.contains id = true ↔ id ∈ g.symbolIds := by
  rw [contains, List.any_eq_true, mem_symbolIds]
  simp only [decide_eq_true_eq]

/-- What a change of a scope keeps, it keeps of all scopes. -/
theorem updateScope_map {α : Type} (π : Scope → α) {id : ScopeId} {f : Scope → Scope}
    (hf : ∀ c, π (f c) = π c) : (g.updateScope id f).scopes.map π = g.scopes.map π := by
  simp only [updateScope, List.map_map]
  refine List.map_congr_left fun c _ => ?_
  simp only [Function.comp]
  split
  · exact hf c
  · rfl

theorem WellFormed.updateScope (h : g.WellFormed) (id : ScopeId) {f : Scope → Scope}
    (hf : ∀ c, (f c).id = c.id) : (g.updateScope id f).WellFormed :=
  { h with
    scopeIds_nodup := by
      rw [scopeIds, updateScope_map Scope.id hf]
      exact h.scopeIds_nodup }

@[simp] theorem addSupertype_symbols (type base : SymbolId) :
    (g.addSupertype type base).symbols = g.symbols := by
  unfold addSupertype
  split <;> rfl

@[simp] theorem addSupertype_scopes (type base : SymbolId) :
    (g.addSupertype type base).scopes = g.scopes := by
  unfold addSupertype
  split <;> rfl

end Graph

namespace Extraction

/-- Binds a symbol of another module in a scope. -/
def takeOver (x : Extraction) (scope : ScopeId) (target : SymbolId) : Extraction :=
  { x with graph := x.graph.updateScope scope fun s =>
      if s.imported.contains target then s else { s with imported := s.imported ++ [target] } }

theorem takeOver_frames (x : Extraction) (scope : ScopeId) (target : SymbolId) :
    (x.takeOver scope target).graph.scopes.map Scope.frame = x.graph.scopes.map Scope.frame := by
  refine Graph.updateScope_map Scope.frame fun c => ?_
  split <;> rfl

/-! ## Steps -/

/-- One elementary change of an extraction. -/
inductive Step (x : Extraction) : Extraction → Prop
  /-- Something is noted that is no declaration. -/
  | note {y : Extraction} (hgraph : y.graph = x.graph) (hindex : y.index = x.index)
      (hcounter : x.counter ≤ y.counter) (hmodules : y.modules = x.modules)
      (hresolved : y.resolved = x.resolved) (hkept : x.classes ⊆ y.classes)
      (hclasses : ∀ c ∈ y.classes, c ∈ x.classes ∨ c.Known x)
      (hfunctions : ∀ f ∈ y.functions, f ∈ x.functions ∨ f.Known x)
      (himports : ∀ i ∈ y.pendingImports, i ∈ x.pendingImports ∨ i.Known x) : Step x y
  /-- Something becomes known about a symbol. -/
  | adjust (id : SymbolId) {f : Symbol → Symbol} (hf : ∀ s, (f s).outline = s.outline) :
      Step x (x.updateSymbol id f)
  /-- A symbol is declared. -/
  | declare (m : SourceModule) {scope : ScopeId} (hscope : x.graph.ScopeIn (some m.path) scope)
      {name : String} (hname : Plain name) (hfree : x.declared? scope name = none)
      (kind : SymbolKind) (span : Option Span) (canonical : Bool) :
      Step x (x.newSymbol m scope name kind span canonical).2
  /-- A field is declared in the body of a class. -/
  | field (hresolved : x.resolved = true) {c : ClassFact} (hc : c ∈ x.classes) {name : String}
      (hname : Plain name) (hfree : x.classMember? c.symbol name = none) (span : Option Span) :
      Step x (x.newSymbol c.module c.bodyScope name .variable span true).2
  /-- A scope is opened. -/
  | enter (hresolved : x.resolved = false) {c : Scope} {g : Graph}
      (hadd : x.graph.addScope c = .ok g) (hid : Numbered x.counter c.id) (hinside : Inside c.id)
      (hparent : ∀ p ∈ c.parent, x.graph.ScopeIn c.file p)
      (howner : ∀ o ∈ c.owner, x.graph.SymbolIn c.file o) (himported : c.imported = []) :
      Step x { x with graph := g }
  /-- A symbol is taken over into a scope. -/
  | take (hresolved : x.resolved = true) (scope : ScopeId) {target : SymbolId}
      (htarget : target ∈ x.graph.symbolIds) : Step x (x.takeOver scope target)
  /-- A class is derived from another one. -/
  | derive {type base : SymbolId} (htype : type ∈ x.graph.symbolIds)
      (hbase : base ∈ x.graph.symbolIds) :
      Step x { x with graph := x.graph.addSupertype type base }

/-- Elementary changes one after another. -/
abbrev Steps : Extraction → Extraction → Prop := ReflTransGen Step

/-! ## Growth -/

/-- What was declared stays declared. -/
structure Grows (x y : Extraction) : Prop where
  symbols : x.graph.symbols.map Symbol.outline <+: y.graph.symbols.map Symbol.outline
  scopes : x.graph.scopes.map Scope.frame <+: y.graph.scopes.map Scope.frame
  /-- No scope is opened while a program is linked. -/
  frames : x.resolved = true → y.graph.scopes.map Scope.frame = x.graph.scopes.map Scope.frame
  index : x.index <:+ y.index
  classes : x.classes ⊆ y.classes
  modules : y.modules = x.modules
  resolved : y.resolved = x.resolved

namespace Grows

variable {x y z : Extraction}

theorem refl (x : Extraction) : Grows x x :=
  ⟨List.prefix_rfl, List.prefix_rfl, fun _ => rfl, List.suffix_rfl, List.Subset.refl _, rfl, rfl⟩

theorem trans (h : Grows x y) (h' : Grows y z) : Grows x z where
  symbols := h.symbols.trans h'.symbols
  scopes := h.scopes.trans h'.scopes
  frames := fun hx => (h'.frames (h.resolved.trans hx)).trans (h.frames hx)
  index := h.index.trans h'.index
  classes := List.Subset.trans h.classes h'.classes
  modules := h'.modules.trans h.modules
  resolved := h'.resolved.trans h.resolved

theorem symbolIds_subset (h : Grows x y) : x.graph.symbolIds ⊆ y.graph.symbolIds := by
  have hids := (h.symbols.map Symbol.id).subset
  rw [List.map_map, List.map_map] at hids
  exact hids

theorem scope (h : Grows x y) {c : Scope} (hc : c ∈ x.graph.scopes) :
    ∃ d ∈ y.graph.scopes, d.frame = c.frame :=
  List.mem_map.1 (h.scopes.subset (List.mem_map_of_mem hc))

theorem symbol (h : Grows x y) {s : Symbol} (hs : s ∈ x.graph.symbols) :
    ∃ t ∈ y.graph.symbols, t.outline = s.outline :=
  List.mem_map.1 (h.symbols.subset (List.mem_map_of_mem hs))

theorem scopeIn (h : Grows x y) {file : Option Path} {id : ScopeId}
    (hid : x.graph.ScopeIn file id) : y.graph.ScopeIn file id := by
  obtain ⟨c, hc, rfl, rfl⟩ := hid
  obtain ⟨d, hd, hframe⟩ := h.scope hc
  exact ⟨d, hd, (congrArg Scope.id hframe :), (congrArg Scope.file hframe :)⟩

theorem symbolIn (h : Grows x y) {file : Option Path} {id : SymbolId}
    (hid : x.graph.SymbolIn file id) : y.graph.SymbolIn file id := by
  obtain ⟨s, hs, rfl, rfl⟩ := hid
  obtain ⟨t, ht, hout⟩ := h.symbol hs
  exact ⟨t, ht, Symbol.id_of_outline hout, (congrArg Symbol.file hout :)⟩

theorem known (h : Grows x y) {c : ClassFact} (hc : c.Known x) : c.Known y := by
  obtain ⟨b, hb, hid, hkind, howner, hfile⟩ := hc.body
  obtain ⟨d, hd, hframe⟩ := h.scope hb
  exact ⟨h.symbolIn hc.symbol_in, d, hd, (congrArg Scope.id hframe).trans hid,
    (congrArg Scope.kind hframe).trans hkind, (congrArg Scope.owner hframe).trans howner,
    (congrArg Scope.file hframe).trans hfile⟩

theorem known_function (h : Grows x y) {f : FunctionFact} (hf : f.Known x) : f.Known y :=
  ⟨h.modules ▸ hf.module_mem, hf.node_mem, hf.spelled,
    fun id hid => h.symbolIn (hf.owner_in id hid),
    fun id hid => h.symbolIds_subset (hf.receiver_mem id hid)⟩

theorem known_import (h : Grows x y) {i : PendingImport} (hi : i.Known x) : i.Known y :=
  ⟨h.scopeIn hi.scope_in, hi.spelled⟩

end Grows

/-! ## Order -/

/-- What holds of the declarations at all times. -/
structure Registered (x : Extraction) : Prop where
  wellFormed : x.graph.WellFormed
  symbolId : ∀ id ∈ x.graph.symbolIds, Numbered x.counter id ∧ Inside id
  scopeId : ∀ id ∈ x.graph.scopeIds, Numbered x.counter id ∧ Inside id
  /-- Entries of the index are symbols. -/
  indexed : ∀ e ∈ x.index, ∃ s ∈ x.graph.symbols,
    s.id = e.2 ∧ s.scope = some e.1.1 ∧ s.declaredName = e.1.2
  /-- Symbols have their entries, and scopes in their files. -/
  listed : ∀ s ∈ x.graph.symbols, ∃ scope, x.graph.ScopeIn s.file scope ∧
    s.scope = some scope ∧ ((scope, s.declaredName), s.id) ∈ x.index
  named : ∀ s ∈ x.graph.symbols, s.name = s.declaredName
  /-- Nothing is taken over before the program is linked. -/
  untaken : x.resolved = false → ∀ c ∈ x.graph.scopes, c.imported = []
  taken : ∀ c ∈ x.graph.scopes, c.imported ⊆ x.graph.symbolIds
  unlinked : x.graph.overrideEdges = []
  /-- Scopes around a scope and the symbol whose body it is are of the same file. -/
  parents : ∀ c ∈ x.graph.scopes, ∀ p ∈ c.parent, x.graph.ScopeIn c.file p
  owners : ∀ c ∈ x.graph.scopes, ∀ o ∈ c.owner, x.graph.SymbolIn c.file o
  classes : ∀ c ∈ x.classes, c.Known x
  functions : ∀ f ∈ x.functions, f.Known x
  imports : ∀ i ∈ x.pendingImports, i.Known x

theorem Registered.empty (look : Library.Introspection) :
    Registered { introspection := look } := by
  constructor <;> simp [Graph.WellFormed.empty, Graph.symbolIds, Graph.scopeIds]

section

variable {x y : Extraction}

/-- A new symbol gets a new id and an entry. -/
theorem Registered.newSymbol_eq (hx : Registered x) (m : SourceModule) {scope : ScopeId}
    (hscope : scope ∈ x.graph.scopeIds) {name : String} (hname : Plain name) (kind : SymbolKind)
    (span : Option Span) (canonical : Bool) :
    ∃ id counter, id ∉ x.graph.symbolIds ∧ x.counter ≤ counter ∧ Numbered counter id ∧
      Inside id ∧ x.newSymbol m scope name kind span canonical =
        (id,
          { x with
            graph :=
              { x.graph with
                symbols := x.graph.symbols ++ [x.makeSymbol m scope name kind span canonical id]
                naming := x.graph.naming ++ [id] }
            counter
            index := ((scope, name), id) :: x.index }) := by
  have hinside := inside_member (hx.scopeId _ hscope).2 name
  have hid : ∀ plain, plain = s!"{scope}::{name}" → ∃ id counter, id ∉ x.graph.symbolIds ∧
      x.counter ≤ counter ∧ Numbered counter id ∧ Inside id ∧
      id = (if x.graph.contains plain then s!"{plain}#{x.counter}" else plain) ∧
      counter = if x.graph.contains plain then x.counter + 1 else x.counter := by
    rintro plain rfl
    by_cases htaken : x.graph.contains s!"{scope}::{name}" = true
    · refine ⟨_, x.counter + 1, fun hmem => ?_, Nat.le_succ _, .next _ _,
        inside_numbered hinside _, (if_pos htaken).symm, (if_pos htaken).symm⟩
      exact (hx.symbolId _ hmem).1.ne rfl
    · refine ⟨s!"{scope}::{name}", x.counter, fun hmem => ?_, Nat.le_refl _,
        numbered_member scope hname, hinside, (if_neg htaken).symm, (if_neg htaken).symm⟩
      exact htaken (Graph.contains_iff.2 hmem)
  obtain ⟨id, counter, hnew, hle, hnumbered, hinside, hideq, hcounter⟩ := hid _ rfl
  have hadd := Graph.addSymbol_of_not_mem
    (s := x.makeSymbol m scope name kind span canonical id) hnew
  refine ⟨id, counter, hnew, hle, hnumbered, hinside, ?_⟩
  unfold newSymbol
  simp only [← hideq, ← hcounter, hadd]
  rfl

theorem Registered.newSymbol_grows (hx : Registered x) (m : SourceModule) {scope : ScopeId}
    (hscope : scope ∈ x.graph.scopeIds) {name : String} (hname : Plain name) (kind : SymbolKind)
    (span : Option Span) (canonical : Bool) :
    Grows x (x.newSymbol m scope name kind span canonical).2 := by
  obtain ⟨id, counter, -, -, -, -, heq⟩ := hx.newSymbol_eq m hscope hname kind span canonical
  rw [heq]
  refine ⟨?_, List.prefix_rfl, fun _ => rfl, List.suffix_cons _ _, List.Subset.refl _, rfl, rfl⟩
  rw [List.map_append]
  exact List.prefix_append _ _

theorem Registered.bodyScope_mem (hx : Registered x) {c : ClassFact} (hc : c ∈ x.classes) :
    c.bodyScope ∈ x.graph.scopeIds :=
  (hx.classes c hc).body_in.mem

/-- A step keeps what was declared. -/
theorem Step.grows (hx : Registered x) (h : Step x y) : Grows x y := by
  cases h with
  | note hgraph hindex _ hmodules hresolved hkept _ _ _ =>
      exact ⟨hgraph ▸ List.prefix_rfl, hgraph ▸ List.prefix_rfl, fun _ => by rw [hgraph],
        hindex ▸ List.suffix_rfl, hkept, hmodules, hresolved⟩
  | adjust id hf =>
      have houtline := congrArg Graph.symbols (x.graph.updateSymbol_outline id hf)
      exact ⟨⟨[], (List.append_nil _).trans houtline.symm⟩, List.prefix_rfl, fun _ => rfl,
        List.suffix_rfl, List.Subset.refl _, rfl, rfl⟩
  | declare m hscope hname _ kind span canonical =>
      exact hx.newSymbol_grows m hscope.mem hname kind span canonical
  | field _ hc hname _ span => exact hx.newSymbol_grows _ (hx.bodyScope_mem hc) hname _ span _
  | enter hresolved hadd _ _ _ _ _ =>
      obtain ⟨-, rfl⟩ := Graph.addScope_eq_ok hadd
      refine ⟨List.prefix_rfl, ?_, fun hx => ?_, List.suffix_rfl, List.Subset.refl _, rfl, rfl⟩
      · rw [List.map_append]
        exact List.prefix_append _ _
      · rw [hresolved] at hx
        cases hx
  | @take _ scope target _ =>
      have hframes := x.takeOver_frames scope target
      exact ⟨List.prefix_rfl, ⟨[], (List.append_nil _).trans hframes.symm⟩, fun _ => hframes,
        List.suffix_rfl, List.Subset.refl _, rfl, rfl⟩
  | derive _ _ =>
      exact ⟨Graph.addSupertype_symbols .. ▸ List.prefix_rfl,
        Graph.addSupertype_scopes .. ▸ List.prefix_rfl,
        fun _ => by rw [Graph.addSupertype_scopes], List.suffix_rfl, List.Subset.refl _, rfl, rfl⟩

/-- A symbol of an adjusted graph was there before. -/
theorem exists_of_outline_eq {g g' : Graph} (h : g'.outline = g.outline) {s : Symbol}
    (hs : s ∈ g'.symbols) : ∃ t ∈ g.symbols, t.outline = s.outline := by
  have hsymbols : g'.symbols.map Symbol.outline = g.symbols.map Symbol.outline :=
    congrArg Graph.symbols h
  exact List.mem_map.1 (hsymbols ▸ List.mem_map_of_mem hs)

theorem Registered.adjust (hx : Registered x) (id : SymbolId) {f : Symbol → Symbol}
    (hf : ∀ s, (f s).outline = s.outline) : Registered (x.updateSymbol id f) := by
  have hgrows := Step.grows hx (.adjust id hf)
  have hid : ∀ s, (f s).id = s.id := fun s => Symbol.id_of_outline (hf s)
  have hids : (x.updateSymbol id f).graph.symbolIds = x.graph.symbolIds :=
    Graph.updateSymbol_symbolIds hid
  have hback := fun s => exists_of_outline_eq (s := s) (x.graph.updateSymbol_outline id hf)
  exact
    { wellFormed := hx.wellFormed.updateSymbol id hid
      symbolId := by rw [hids]; exact hx.symbolId
      scopeId := hx.scopeId
      indexed := fun e he => by
        obtain ⟨s, hs, hsid, hscope, hname⟩ := hx.indexed e he
        obtain ⟨t, ht, hts⟩ := hgrows.symbol hs
        exact ⟨t, ht, (Symbol.id_of_outline hts).trans hsid,
          (Symbol.scope_of_outline hts).trans hscope,
          (Symbol.declaredName_of_outline hts).trans hname⟩
      listed := fun s hs => by
        obtain ⟨t, ht, hts⟩ := hback s hs
        obtain ⟨scope, hmem, hscope, hentry⟩ := hx.listed t ht
        rw [Symbol.declaredName_of_outline hts, Symbol.id_of_outline hts] at hentry
        have hfile : t.file = s.file := (congrArg Symbol.file hts :)
        exact ⟨scope, hfile ▸ hmem, (Symbol.scope_of_outline hts).symm.trans hscope, hentry⟩
      named := fun s hs => by
        obtain ⟨t, ht, hts⟩ := hback s hs
        rw [← Symbol.name_of_outline hts, hx.named t ht, Symbol.declaredName_of_outline hts]
      untaken := hx.untaken
      taken := by rw [hids]; exact hx.taken
      unlinked := hx.unlinked
      parents := fun c hc p hp => hgrows.scopeIn (hx.parents c hc p hp)
      owners := fun c hc o ho => hgrows.symbolIn (hx.owners c hc o ho)
      classes := fun c hc => hgrows.known (hx.classes c hc)
      functions := fun f hf => hgrows.known_function (hx.functions f hf)
      imports := fun i hi => hgrows.known_import (hx.imports i hi) }

theorem Registered.declare (hx : Registered x) (m : SourceModule) {scope : ScopeId}
    (hscope : x.graph.ScopeIn (some m.path) scope) {name : String} (hname : Plain name) (kind : SymbolKind)
    (span : Option Span) (canonical : Bool) :
    Registered (x.newSymbol m scope name kind span canonical).2 := by
  have hgrows := hx.newSymbol_grows m hscope.mem hname kind span canonical
  obtain ⟨id, counter, hnew, hcounter, hnumbered, hinside, heq⟩ :=
    hx.newSymbol_eq m hscope.mem hname kind span canonical
  rw [heq] at hgrows ⊢
  have hadd := Graph.addSymbol_of_not_mem
    (s := x.makeSymbol m scope name kind span canonical id) hnew
  have hids : Graph.symbolIds
      { x.graph with
        symbols := x.graph.symbols ++ [x.makeSymbol m scope name kind span canonical id]
        naming := x.graph.naming ++ [id] } = x.graph.symbolIds ++ [id] := by
    simp [Graph.symbolIds, makeSymbol]
  exact
    { wellFormed := hx.wellFormed.addSymbol hadd
      symbolId := fun i hi => by
        rw [hids] at hi
        rcases List.mem_append.1 hi with hi | hi
        · exact ⟨(hx.symbolId i hi).1.mono hcounter, (hx.symbolId i hi).2⟩
        · obtain rfl := List.mem_singleton.1 hi
          exact ⟨hnumbered, hinside⟩
      scopeId := fun i hi => ⟨(hx.scopeId i hi).1.mono hcounter, (hx.scopeId i hi).2⟩
      indexed := fun e he => by
        rcases List.mem_cons.1 he with rfl | he
        · exact ⟨_, List.mem_append_right _ (List.mem_singleton_self _), rfl, rfl, rfl⟩
        · obtain ⟨s, hs, h⟩ := hx.indexed e he
          exact ⟨s, List.mem_append_left _ hs, h⟩
      listed := fun s hs => by
        rcases List.mem_append.1 hs with hs | hs
        · obtain ⟨scope, hmem, hsc, hentry⟩ := hx.listed s hs
          exact ⟨scope, hmem, hsc, List.mem_cons_of_mem _ hentry⟩
        · obtain rfl := List.mem_singleton.1 hs
          exact ⟨scope, hscope, rfl, List.mem_cons_self⟩
      named := fun s hs => by
        rcases List.mem_append.1 hs with hs | hs
        · exact hx.named s hs
        · obtain rfl := List.mem_singleton.1 hs
          rfl
      untaken := hx.untaken
      taken := fun c hc => List.Subset.trans (hx.taken c hc) hgrows.symbolIds_subset
      unlinked := hx.unlinked
      parents := fun c hc p hp => hgrows.scopeIn (hx.parents c hc p hp)
      owners := fun c hc o ho => hgrows.symbolIn (hx.owners c hc o ho)
      classes := fun c hc => hgrows.known (hx.classes c hc)
      functions := fun f hf => hgrows.known_function (hx.functions f hf)
      imports := fun i hi => hgrows.known_import (hx.imports i hi) }

theorem Registered.enter (hx : Registered x) (hresolved : x.resolved = false) {c : Scope}
    {g : Graph} (hadd : x.graph.addScope c = .ok g) (hid : Numbered x.counter c.id)
    (hinside : Inside c.id) (hparent : ∀ p ∈ c.parent, x.graph.ScopeIn c.file p)
    (howner : ∀ o ∈ c.owner, x.graph.SymbolIn c.file o) (himported : c.imported = []) :
    Registered { x with graph := g } := by
  have hgrows := Step.grows hx (.enter hresolved hadd hid hinside hparent howner himported)
  have hwell := hx.wellFormed.addScope hadd
  obtain ⟨-, rfl⟩ := Graph.addScope_eq_ok hadd
  have hids : Graph.scopeIds { x.graph with scopes := x.graph.scopes ++ [c] } =
      x.graph.scopeIds ++ [c.id] := by
    simp [Graph.scopeIds]
  exact
    { hx with
      wellFormed := hwell
      scopeId := fun i hi => by
        rw [hids] at hi
        rcases List.mem_append.1 hi with hi | hi
        · exact hx.scopeId i hi
        · obtain rfl := List.mem_singleton.1 hi
          exact ⟨hid, hinside⟩
      listed := fun s hs => by
        obtain ⟨scope, hmem, h⟩ := hx.listed s hs
        exact ⟨scope, hgrows.scopeIn hmem, h⟩
      untaken := fun hresolved d hd => by
        rcases List.mem_append.1 hd with hd | hd
        · exact hx.untaken hresolved d hd
        · obtain rfl := List.mem_singleton.1 hd
          exact himported
      taken := fun d hd => by
        rcases List.mem_append.1 hd with hd | hd
        · exact hx.taken d hd
        · obtain rfl := List.mem_singleton.1 hd
          rw [himported]
          exact List.nil_subset _
      parents := fun d hd p hp => by
        rcases List.mem_append.1 hd with hd | hd
        · exact hgrows.scopeIn (hx.parents d hd p hp)
        · obtain rfl := List.mem_singleton.1 hd
          exact hgrows.scopeIn (hparent p hp)
      owners := fun d hd o ho => by
        rcases List.mem_append.1 hd with hd | hd
        · exact hx.owners d hd o ho
        · obtain rfl := List.mem_singleton.1 hd
          exact howner o ho
      classes := fun d hd => hgrows.known (hx.classes d hd)
      functions := fun f hf => hgrows.known_function (hx.functions f hf)
      imports := fun i hi => hgrows.known_import (hx.imports i hi) }

theorem Registered.takeOver (hx : Registered x) (hresolved : x.resolved = true) (scope : ScopeId)
    {target : SymbolId} (htarget : target ∈ x.graph.symbolIds) :
    Registered (x.takeOver scope target) := by
  have hgrows := Step.grows hx (.take hresolved scope htarget)
  have hids : (x.takeOver scope target).graph.scopeIds = x.graph.scopeIds := by
    refine Graph.updateScope_map Scope.id fun c => ?_
    split <;> rfl
  have hback : ∀ d ∈ (x.takeOver scope target).graph.scopes,
      ∃ c ∈ x.graph.scopes, c.frame = d.frame := fun d hd =>
    List.mem_map.1 (x.takeOver_frames scope target ▸ List.mem_map_of_mem hd)
  exact
    { hx with
      wellFormed := hx.wellFormed.updateScope scope fun c => by split <;> rfl
      scopeId := by rw [hids]; exact hx.scopeId
      listed := fun s hs => by
        obtain ⟨home, hmem, h⟩ := hx.listed s hs
        exact ⟨home, hgrows.scopeIn hmem, h⟩
      parents := fun d hd p hp => by
        obtain ⟨c, hc, hframe⟩ := hback d hd
        have hfile : c.file = d.file := (congrArg Scope.file hframe :)
        have hparent : c.parent = d.parent := (congrArg Scope.parent hframe :)
        exact hfile ▸ hgrows.scopeIn (hx.parents c hc p (hparent ▸ hp))
      owners := fun d hd o ho => by
        obtain ⟨c, hc, hframe⟩ := hback d hd
        have hfile : c.file = d.file := (congrArg Scope.file hframe :)
        have howner : c.owner = d.owner := (congrArg Scope.owner hframe :)
        exact hfile ▸ hx.owners c hc o (howner ▸ ho)
      untaken := fun hnot => by
        rw [show (x.takeOver scope target).resolved = x.resolved from rfl, hresolved] at hnot
        cases hnot
      taken := fun d hd => by
        obtain ⟨c, hc, rfl⟩ := List.mem_map.1 hd
        dsimp only
        split
        · split
          · exact hx.taken c hc
          · exact List.append_subset.2 ⟨hx.taken c hc, List.cons_subset.2 ⟨htarget, List.nil_subset _⟩⟩
        · exact hx.taken c hc
      classes := fun d hd => hgrows.known (hx.classes d hd)
      functions := fun f hf => hgrows.known_function (hx.functions f hf)
      imports := fun i hi => hgrows.known_import (hx.imports i hi) }

/-- **A step keeps the declarations in order.** -/
theorem Registered.step (hx : Registered x) (h : Step x y) : Registered y := by
  cases h with
  | @note y hgraph hindex hcounter hmodules hresolved hkept hclasses hfunctions himports =>
      have hgrows := Step.grows hx
        (.note hgraph hindex hcounter hmodules hresolved hkept hclasses hfunctions himports)
      exact
        { wellFormed := by rw [hgraph]; exact hx.wellFormed
          symbolId := fun id hid => by
            rw [hgraph] at hid
            exact ⟨(hx.symbolId id hid).1.mono hcounter, (hx.symbolId id hid).2⟩
          scopeId := fun id hid => by
            rw [hgraph] at hid
            exact ⟨(hx.scopeId id hid).1.mono hcounter, (hx.scopeId id hid).2⟩
          indexed := by rw [hgraph, hindex]; exact hx.indexed
          listed := by rw [hgraph, hindex]; exact hx.listed
          named := by rw [hgraph]; exact hx.named
          untaken := by rw [hgraph, hresolved]; exact hx.untaken
          taken := by rw [hgraph]; exact hx.taken
          unlinked := by rw [hgraph]; exact hx.unlinked
          parents := by rw [hgraph]; exact hx.parents
          owners := by rw [hgraph]; exact hx.owners
          classes := fun c hc => hgrows.known ((hclasses c hc).elim (hx.classes c) id)
          functions := fun f hf => hgrows.known_function ((hfunctions f hf).elim (hx.functions f) id)
          imports := fun i hi => hgrows.known_import ((himports i hi).elim (hx.imports i) id) }
  | adjust id hf => exact hx.adjust id hf
  | declare m hscope hname _ kind span canonical =>
      exact hx.declare m hscope hname kind span canonical
  | field _ hc hname _ span => exact hx.declare _ (hx.classes _ hc).body_in hname _ span _
  | enter hresolved hadd hid hinside hparent howner himported =>
      exact hx.enter hresolved hadd hid hinside hparent howner himported
  | take hresolved scope htarget => exact hx.takeOver hresolved scope htarget
  | @derive type base htype hbase =>
      have hgrows := Step.grows hx (.derive htype hbase)
      have hunlinked : (x.graph.addSupertype type base).overrideEdges = [] := by
        rw [← hx.unlinked]
        unfold Graph.addSupertype
        split <;> rfl
      exact
        { wellFormed := hx.wellFormed.addSupertype htype hbase
          symbolId := by
            simp only [Graph.symbolIds, Graph.addSupertype_symbols]
            exact hx.symbolId
          scopeId := by
            simp only [Graph.scopeIds, Graph.addSupertype_scopes]
            exact hx.scopeId
          indexed := by
            rw [Graph.addSupertype_symbols]
            exact hx.indexed
          listed := fun s hs => by
            rw [Graph.addSupertype_symbols] at hs
            obtain ⟨home, hmem, h⟩ := hx.listed s hs
            exact ⟨home, hgrows.scopeIn hmem, h⟩
          named := by
            rw [Graph.addSupertype_symbols]
            exact hx.named
          untaken := by
            rw [Graph.addSupertype_scopes]
            exact hx.untaken
          taken := by
            simp only [Graph.symbolIds, Graph.addSupertype_symbols, Graph.addSupertype_scopes]
            exact hx.taken
          unlinked := hunlinked
          parents := fun c hc p hp => by
            rw [Graph.addSupertype_scopes] at hc
            exact hgrows.scopeIn (hx.parents c hc p hp)
          owners := fun c hc o ho => by
            rw [Graph.addSupertype_scopes] at hc
            exact hgrows.symbolIn (hx.owners c hc o ho)
          classes := fun c hc => hgrows.known (hx.classes c hc)
          functions := fun f hf => hgrows.known_function (hx.functions f hf)
          imports := fun i hi => hgrows.known_import (hx.imports i hi) }

/-- **A run keeps the declarations in order and loses none.** -/
theorem Steps.registered_grows (hx : Registered x) (h : Steps x y) : Registered y ∧ Grows x y := by
  induction h with
  | refl => exact ⟨hx, .refl x⟩
  | tail _ hstep ih => exact ⟨ih.1.step hstep, ih.2.trans (hstep.grows ih.1)⟩

theorem Registered.steps (hx : Registered x) (h : Steps x y) : Registered y :=
  (h.registered_grows hx).1

theorem Registered.grows (hx : Registered x) (h : Steps x y) : Grows x y :=
  (h.registered_grows hx).2

end

end Extraction

end Pseudonym
