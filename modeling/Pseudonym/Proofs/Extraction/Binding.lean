import Pseudonym.Proofs.Extraction.Overriding

/-!
# Names that a scope binds

A scope binds the symbols that are declared in it and those that it takes over from other modules.
Declarations ask the index first, so a name is declared once. Taking a symbol over asks the index as
well, but leaves no entry there: what is declared later does not see it. A name that a scope takes
over and binds in another way too is bound twice (`not_boundOnce_recorder`). `boundOnce_of_separate`
says that there is no other way, but for fields of a class that is defined again.

## Proof shape

Linking an import does one of three things (`linkImport_cases`), which say what happens to a name of
a scope (`Change`). The rest is bookkeeping about the imports that are left, carried through the
rounds by `linkRounds_induction`.
-/

namespace Pseudonym

open Python Python.Tree Relation

namespace PendingImport

/-- The name that an import binds; none if it binds all names of a module. -/
def boundName? (i : PendingImport) : Option String :=
  match i.statement.label, i.importedName.label with
  | .importModules, .importedName _ (some asName) => some asName
  | .importModules, .importedName name none => some ((name.splitOn ".").head?.getD "")
  | .importFrom .., .importedName name asName =>
    if name = "*" then none else some (asName.getD name)
  | _, _ => none

/-- The module that an import takes a name from. -/
def source? (i : PendingImport) : Option String :=
  match i.statement.label with
  | .importFrom module level => Extraction.absoluteModule? i.module module level
  | _ => none

/-- An import binds a name in a scope. -/
def Binds (i : PendingImport) (scope : ScopeId) (name : String) : Prop :=
  i.scope = scope ∧ i.boundName? = some name

instance (i : PendingImport) (scope : ScopeId) (name : String) : Decidable (i.Binds scope name) :=
  inferInstanceAs (Decidable (_ ∧ _))

/-- An import takes a name over, as it is, from a module of the program. -/
def Takes (x : Extraction) (i : PendingImport) (scope : ScopeId) (name : String) : Prop :=
  i.Binds scope name ∧ i.importedName.label = .importedName name none ∧
    ∃ source ∈ i.source?, (x.module? source).isSome = true

instance (x : Extraction) (i : PendingImport) (scope : ScopeId) (name : String) :
    Decidable (i.Takes x scope name) :=
  inferInstanceAs (Decidable (_ ∧ _ ∧ _))

end PendingImport

namespace Extraction

variable {x y z : Extraction} {scope : ScopeId} {name : String}

/-! ## What is bound -/

/-- A symbol is declared in a scope under a name. -/
def Declared (x : Extraction) (scope : ScopeId) (name : String) (id : SymbolId) : Prop :=
  ((scope, name), id) ∈ x.index

/-- A symbol was declared under a name. -/
def Named (x : Extraction) (id : SymbolId) (name : String) : Prop :=
  ∃ s ∈ x.graph.symbols, s.id = id ∧ s.declaredName = name

/-- A symbol of another module is bound in a scope, under its name. -/
def TakenOver (x : Extraction) (scope : ScopeId) (name : String) (id : SymbolId) : Prop :=
  (∃ c ∈ x.graph.scopes, c.id = scope ∧ id ∈ c.imported) ∧ x.Named id name

/-- A name of a scope is bound to one symbol at most. -/
def BoundOnce (x : Extraction) (scope : ScopeId) (name : String) : Prop :=
  ∀ i j, (x.Declared scope name i ∨ x.TakenOver scope name i) →
    (x.Declared scope name j ∨ x.TakenOver scope name j) → i = j

theorem declared?_eq_none : x.declared? scope name = none ↔ ∀ id, ¬ x.Declared scope name id := by
  unfold declared? valueOf? Declared
  rw [Option.map_eq_none_iff, List.find?_eq_none]
  constructor
  · exact fun h id hmem => h _ hmem (by simp)
  · rintro h ⟨⟨s, n⟩, id⟩ hmem heq
    obtain ⟨rfl, rfl⟩ : s = scope ∧ n = name := by simpa using heq
    exact h id hmem

theorem Grows.named_iff (h : Grows x y) (hy : Registered y) {id : SymbolId}
    (hid : id ∈ x.graph.symbolIds) : y.Named id name ↔ x.Named id name := by
  obtain ⟨s, hs, rfl⟩ := Graph.mem_symbolIds.1 hid
  obtain ⟨t, ht, hout⟩ := h.symbol hs
  have hname := Symbol.declaredName_of_outline hout
  constructor
  · rintro ⟨u, hu, huid, rfl⟩
    obtain rfl := hy.wellFormed.symbol_ext hu ht (huid.trans (Symbol.id_of_outline hout).symm)
    exact ⟨s, hs, rfl, hname.symm⟩
  · rintro ⟨u, hu, huid, rfl⟩
    obtain ⟨v, hv, hvout⟩ := h.symbol hu
    exact ⟨v, hv, (Symbol.id_of_outline hvout).trans huid, Symbol.declaredName_of_outline hvout⟩

theorem Grows.takenOver_iff (h : Grows x y) (hx : Registered x) (hy : Registered y)
    (hscopes : y.graph.scopes = x.graph.scopes) (id : SymbolId) :
    y.TakenOver scope name id ↔ x.TakenOver scope name id := by
  unfold TakenOver
  rw [hscopes]
  refine and_congr_right fun hmem => ?_
  obtain ⟨c, hc, -, hid⟩ := hmem
  exact h.named_iff hy (hx.taken c hc hid)

/-- What scopes take over after one more symbol was. -/
theorem mem_imported_takeOver {into : ScopeId} {target id : SymbolId}
    (h : ∃ c ∈ (x.takeOver into target).graph.scopes, c.id = scope ∧ id ∈ c.imported) :
    (∃ c ∈ x.graph.scopes, c.id = scope ∧ id ∈ c.imported) ∨ into = scope ∧ id = target := by
  obtain ⟨d, hd, hid, hmem⟩ := h
  obtain ⟨c, hc, rfl⟩ := List.mem_map.1 hd
  by_cases hinto : c.id = into
  · rw [if_pos hinto] at hid hmem
    dsimp only at hid hmem
    by_cases hthere : c.imported.contains target = true
    · rw [if_pos hthere] at hid hmem
      exact .inl ⟨c, hc, hid, hmem⟩
    · rw [if_neg hthere] at hid hmem
      rcases List.mem_append.1 hmem with hmem | hmem
      · exact .inl ⟨c, hc, hid, hmem⟩
      · exact .inr ⟨hinto.symm.trans hid, List.mem_singleton.1 hmem⟩
  · rw [if_neg hinto] at hid hmem
    exact .inl ⟨c, hc, hid, hmem⟩

/-- What was taken over stays. -/
theorem imported_takeOver (into : ScopeId) (target : SymbolId) {id : SymbolId}
    (h : ∃ c ∈ x.graph.scopes, c.id = scope ∧ id ∈ c.imported) :
    ∃ c ∈ (x.takeOver into target).graph.scopes, c.id = scope ∧ id ∈ c.imported := by
  obtain ⟨c, hc, hid, hmem⟩ := h
  refine ⟨_, List.mem_map_of_mem hc, ?_⟩
  split
  · dsimp only
    split
    · exact ⟨hid, hmem⟩
    · exact ⟨hid, List.mem_append_left _ hmem⟩
  · exact ⟨hid, hmem⟩

theorem Registered.named_unique (hx : Registered x) {id : SymbolId} {other : String}
    (h : x.Named id name) (h' : x.Named id other) : name = other := by
  obtain ⟨s, hs, hid, rfl⟩ := h
  obtain ⟨t, ht, hid', rfl⟩ := h'
  rw [hx.wellFormed.symbol_ext hs ht (hid.trans hid'.symm)]

/-! ## Linking an import -/

/-- What decides which names are bound where. -/
def ties (x : Extraction) : List ((ScopeId × String) × SymbolId) × List Scope :=
  (x.index, x.graph.scopes)

theorem addReference_ties (x : Extraction) (m : SourceModule) (id : SymbolId) (span : Option Span)
    (at? : Option ScopeId) (binds : Bool) : (x.addReference m id span at? binds).ties = x.ties := by
  unfold addReference
  split
  · split <;> rfl
  · split <;> rfl

theorem newSymbol_ties (x : Extraction) (m : SourceModule) (scope : ScopeId) (name : String)
    (kind : SymbolKind) (span : Option Span) (canonical : Bool) :
    (x.newSymbol m scope name kind span canonical).2.ties =
      (((scope, name), (x.newSymbol m scope name kind span canonical).1) :: x.index,
        x.graph.scopes) := by
  refine Prod.ext rfl ?_
  unfold newSymbol ties
  dsimp only
  generalize s!"{scope}::{name}" = plain
  generalize (if x.graph.contains plain then s!"{plain}#{x.counter}" else plain) = id
  unfold Graph.addSymbol
  split
  · next hadd =>
      split at hadd
      · cases hadd
      · obtain rfl := Except.ok.inj hadd
        rfl
  · rfl

/-- A name is bound anew if it is not declared. -/
theorem bindImport_ties (x : Extraction) (m : SourceModule) (scope : ScopeId) (name : String)
    (span : Option Span) :
    (x.bindImport m scope name span).2.ties = x.ties ∨
      x.declared? scope name = none ∧
        ∃ id, (x.bindImport m scope name span).2.ties =
          (((scope, name), id) :: x.index, x.graph.scopes) := by
  unfold bindImport
  split
  · exact .inl (addReference_ties ..)
  · next hfree => exact .inr ⟨hfree, _, newSymbol_ties ..⟩

/-- What binding a name in a scope can do. -/
inductive Ties (x z : Extraction) (scope : ScopeId) (name : String) (takes : Prop) : Prop
  | keep (h : z.ties = x.ties)
  | declare (hfree : x.declared? scope name = none) (id : SymbolId)
      (h : z.ties = (((scope, name), id) :: x.index, x.graph.scopes))
  | take (htakes : takes) (hfree : x.declared? scope name = none) {target : SymbolId}
      (hnamed : x.Named target name)
      (h : z.ties = (x.index, (x.takeOver scope target).graph.scopes))

theorem bindImport_tied {m : SourceModule} {span : Option Span} {takes : Prop}
    (h : z.ties = (x.bindImport m scope name span).2.ties) : Ties x z scope name takes := by
  rcases x.bindImport_ties m scope name span with hkept | ⟨hfree, id, hnew⟩
  · exact .keep (h.trans hkept)
  · exact .declare hfree id (h.trans hnew)

theorem bindSymbol_tied (item : PendingImport) (asName : Option String) (span : Option Span)
    {target : SymbolId} (hnamed : x.Named target name) :
    Ties x (x.bindSymbol item name asName span target) item.scope (asName.getD name)
      (asName = none) := by
  have hused : ∀ at? binds, ((x.keepNamed target).addReference item.module target
      (item.module.headSpan? item.importedName name) at? binds).ties = x.ties :=
    fun at? binds => addReference_ties ..
  unfold bindSymbol
  dsimp only
  split
  · next bound =>
      have hstart := hused none false
      generalize (x.keepNamed target).addReference item.module target
        (item.module.headSpan? item.importedName name) none false = y at hstart ⊢
      have hindex : y.index = x.index := congrArg Prod.fst hstart
      have hscopes : y.graph.scopes = x.graph.scopes := congrArg Prod.snd hstart
      rcases y.bindImport_ties item.module item.scope bound span with h | ⟨hfree, id, h⟩
      · exact .keep (h.trans hstart)
      · rw [declared?, hindex] at hfree
        rw [hindex, hscopes] at h
        exact .declare hfree id h
  · split
    · exact .keep (addReference_ties ..)
    · next hfree =>
        refine .take rfl hfree hnamed ?_
        have hstart := hused (some item.scope) true
        generalize (x.keepNamed target).addReference item.module target
          (item.module.headSpan? item.importedName name) (some item.scope) true = y at hstart ⊢
        have hindex : y.index = x.index := congrArg Prod.fst hstart
        have hscopes : y.graph.scopes = x.graph.scopes := congrArg Prod.snd hstart
        simp only [ties, takeOver, Graph.updateScope, hindex, hscopes]

theorem linkFrom_tied (hx : Registered x) {item : PendingImport} {asName module : Option String}
    {final : Bool} (h : x.linkFrom item name asName module final = some z) :
    Ties x z item.scope (asName.getD name)
      (asName = none ∧ ∃ source ∈ module, (x.module? source).isSome = true) := by
  unfold linkFrom at h
  dsimp only at h
  split at h
  · obtain rfl := Option.some.inj h
    exact bindImport_tied (m := item.module) rfl
  · next source =>
      split at h
      · obtain rfl := Option.some.inj h
        exact bindImport_tied (m := item.module) rfl
      · split at h
        · next target hlookup =>
            obtain rfl := Option.some.inj h
            split at hlookup
            · next hmodule =>
                have hnamed := hx.symbol_of_lookup hlookup
                cases bindSymbol_tied item asName _ hnamed with
                | keep h => exact .keep h
                | declare hfree id h => exact .declare hfree id h
                | take htakes hfree hnamed h =>
                    exact .take ⟨htakes, source, rfl, hmodule⟩ hfree hnamed h
            · cases hlookup
        · split at h
          · obtain rfl := Option.some.inj h
            exact bindImport_tied (m := item.module) rfl
          · split at h
            · obtain rfl := Option.some.inj h
              exact bindImport_tied (m := item.module) rfl
            · cases h

/-- **Linking an import keeps all bindings, declares its name, or takes a symbol over.** -/
theorem linkImport_tied (hx : Registered x) {item : PendingImport} {final : Bool}
    (h : x.linkImport item final = some z) :
    z.ties = x.ties ∨ ∃ name, item.boundName? = some name ∧
      Ties x z item.scope name (item.Takes x item.scope name) := by
  unfold linkImport at h
  dsimp only at h
  split at h
  · next hstatement hlabel =>
      obtain rfl := Option.some.inj h
      exact .inr ⟨_, by rw [PendingImport.boundName?, hstatement, hlabel], bindImport_tied (m := item.module) rfl⟩
  · next hstatement hlabel =>
      obtain rfl := Option.some.inj h
      exact .inr ⟨_, by rw [PendingImport.boundName?, hstatement, hlabel], bindImport_tied (m := item.module) rfl⟩
  · next module level name asName hstatement hlabel =>
      split at h
      · left
        split at h
        · obtain rfl := Option.some.inj h
          split <;> rfl
        · obtain rfl := Option.some.inj h
          rfl
      · next hstar =>
          have hbound : item.boundName? = some (asName.getD name) := by
            rw [PendingImport.boundName?, hstatement, hlabel]
            exact if_neg hstar
          refine .inr ⟨_, hbound, ?_⟩
          cases linkFrom_tied hx h with
          | keep h => exact .keep h
          | declare hfree id h => exact .declare hfree id h
          | take htakes hfree hnamed hties =>
              obtain ⟨rfl, source, hsource, hmodule⟩ := htakes
              refine .take ⟨⟨rfl, hbound⟩, hlabel, source, ?_, hmodule⟩ hfree hnamed hties
              rw [PendingImport.source?, hstatement]
              exact hsource
  · obtain rfl := Option.some.inj h
    exact .inl rfl

/-- What linking an import does to one name of one scope. -/
inductive Change (x z : Extraction) (item : PendingImport) (scope : ScopeId) (name : String) : Prop
  | none (hdeclared : ∀ id, z.Declared scope name id ↔ x.Declared scope name id)
      (htaken : ∀ id, z.TakenOver scope name id ↔ x.TakenOver scope name id)
  | declare (hbinds : item.Binds scope name) (hfree : ∀ id, ¬ x.Declared scope name id)
      (new : SymbolId) (hdeclared : ∀ id, z.Declared scope name id ↔ id = new)
      (htaken : ∀ id, z.TakenOver scope name id ↔ x.TakenOver scope name id)
  | take (htakes : item.Takes x scope name) (hfree : ∀ id, ¬ x.Declared scope name id)
      (new : SymbolId) (hdeclared : ∀ id, ¬ z.Declared scope name id)
      (htaken : ∀ id, z.TakenOver scope name id → x.TakenOver scope name id ∨ id = new)

theorem linkImport_change (hx : Registered x) (hresolved : x.resolved = true)
    {item : PendingImport} (hitem : item.Known x) {final : Bool}
    (h : x.linkImport item final = some z) (scope : ScopeId) (name : String) :
    Change x z item scope name := by
  have hsteps := linkImport_steps hx hresolved hitem h
  have hz := hx.steps hsteps
  have hgrows := hx.grows hsteps
  have same : z.graph.scopes = x.graph.scopes →
      ∀ id, z.TakenOver scope name id ↔ x.TakenOver scope name id :=
    fun hscopes id => hgrows.takenOver_iff hx hz hscopes id
  have kept : z.ties = x.ties → Change x z item scope name := by
    intro hties
    have hindex : z.index = x.index := congrArg Prod.fst hties
    exact .none (fun id => by rw [Declared, Declared, hindex]) (same (congrArg Prod.snd hties :))
  rcases linkImport_tied hx h with hties | ⟨bound, hbound, htied⟩
  · exact kept hties
  · cases htied with
    | keep hties => exact kept hties
    | declare hfree new hties =>
        have hindex : z.index = ((item.scope, bound), new) :: x.index := congrArg Prod.fst hties
        have htaken := same (congrArg Prod.snd hties :)
        by_cases hkey : (item.scope, bound) = (scope, name)
        · obtain ⟨rfl, rfl⟩ := Prod.mk.inj hkey
          have hfree := declared?_eq_none.1 hfree
          refine .declare ⟨rfl, hbound⟩ hfree new (fun id => ?_) htaken
          rw [Declared, hindex, List.mem_cons]
          constructor
          · rintro (heq | hmem)
            · exact (Prod.mk.inj heq).2
            · exact absurd hmem (hfree id)
          · rintro rfl
            exact .inl rfl
        · refine .none (fun id => ?_) htaken
          rw [Declared, hindex, List.mem_cons]
          exact or_iff_right fun heq => hkey (Prod.mk.inj heq).1.symm
    | @take htakes hfree target hnamed hties =>
        have hindex : z.index = x.index := congrArg Prod.fst hties
        have hscopes : z.graph.scopes = (x.takeOver item.scope target).graph.scopes :=
          congrArg Prod.snd hties
        have htarget : target ∈ x.graph.symbolIds := by
          obtain ⟨s, hs, rfl, -⟩ := hnamed
          exact Graph.mem_symbolIds_of_mem hs
        -- What is new was taken over here, under the name that the import binds.
        have hnew : ∀ id, z.TakenOver scope name id →
            x.TakenOver scope name id ∨ (item.scope, bound) = (scope, name) ∧ id = target := by
          rintro id ⟨hmem, hid⟩
          rw [hscopes] at hmem
          rcases mem_imported_takeOver hmem with ⟨c, hc, hcid, hin⟩ | ⟨rfl, rfl⟩
          · exact .inl ⟨⟨c, hc, hcid, hin⟩, (hgrows.named_iff hz (hx.taken c hc hin)).1 hid⟩
          · have hname := hz.named_unique ((hgrows.named_iff hz htarget).2 hnamed) hid
            exact .inr ⟨by rw [hname], rfl⟩
        by_cases hkey : (item.scope, bound) = (scope, name)
        · obtain ⟨rfl, rfl⟩ := Prod.mk.inj hkey
          have hfree := declared?_eq_none.1 hfree
          refine .take htakes hfree target (fun id => ?_) (fun id hid => (hnew id hid).imp_right And.right)
          rw [Declared, hindex]
          exact hfree id
        · refine .none (fun id => by rw [Declared, Declared, hindex]) fun id => ⟨fun hid => ?_, ?_⟩
          · exact (hnew id hid).resolve_right fun heq => hkey heq.1
          · rintro ⟨hmem, s, hs, hid, hname⟩
            refine ⟨?_, (hgrows.named_iff hz (hid ▸ Graph.mem_symbolIds_of_mem hs)).2
              ⟨s, hs, hid, hname⟩⟩
            rw [hscopes]
            exact imported_takeOver item.scope target hmem

/-! ## Rounds -/

theorem linkFrom_final_isSome (x : Extraction) (item : PendingImport) (name : String)
    (asName module : Option String) : (x.linkFrom item name asName module true).isSome = true := by
  unfold linkFrom
  dsimp only
  split
  · rfl
  · split
    · rfl
    · split
      · rfl
      · split <;> rfl

/-- In the last round every import is linked. -/
theorem linkImport_final_isSome (x : Extraction) (item : PendingImport) :
    (x.linkImport item true).isSome = true := by
  unfold linkImport
  dsimp only
  split
  · rfl
  · rfl
  · split
    · split <;> rfl
    · exact linkFrom_final_isSome ..
  · rfl

section

variable {motive : Extraction → List PendingImport → Prop}
  (hstep : ∀ {y z : Extraction} {before after : List PendingImport} {item : PendingImport}
    {final : Bool}, y.linkImport item final = some z → motive y (before ++ item :: after) →
    motive z (before ++ after))

include hstep

theorem linkRound_induction {items : List PendingImport} (h : motive y items) :
    motive (y.linkRound items).1 (y.linkRound items).2 := by
  -- What is left after some of the imports, and those still to come.
  have hfold : ∀ (items left : List PendingImport) (y : Extraction), motive y (left ++ items) →
      motive (items.foldl linkOne (y, left)).1 (items.foldl linkOne (y, left)).2 := by
    intro items
    induction items with
    | nil =>
        intro left y h
        rwa [List.append_nil] at h
    | cons item items ih =>
        intro left y h
        rw [List.foldl_cons, linkOne]
        split
        · next hlink => exact ih left _ (hstep hlink h)
        · refine ih (left ++ [item]) y ?_
          rwa [List.append_assoc, List.singleton_append]
  rw [linkRound_eq]
  exact hfold items [] y h

theorem linkRounds_induction : ∀ (rounds : Nat) {items : List PendingImport} {y : Extraction},
    motive y items → ∃ left, motive (linkRounds rounds items y) left
  | 0, items, _, h => ⟨items, h⟩
  | rounds + 1, items, y, h => by
      have hround := linkRound_induction hstep h
      rw [Extraction.linkRounds]
      dsimp only
      split
      · exact linkRounds_induction rounds hround
      · -- What is left is linked now.
        have hlast : ∀ (left : List PendingImport) (y : Extraction), motive y left →
            motive (left.foldl (fun x item => (x.linkImport item true).getD x) y) [] := by
          intro left
          induction left with
          | nil => exact fun y h => h
          | cons item left ih =>
              intro y h
              obtain ⟨z, hz⟩ := Option.isSome_iff_exists.1 (y.linkImport_final_isSome item)
              rw [List.foldl_cons, hz]
              have hnext : motive z ([] ++ left) := hstep hz h
              exact ih z hnext
        exact ⟨[], hlast _ _ hround⟩

/-- **What holds when linking begins and is kept by each import that is linked holds in the end.** -/
theorem withImports_induction (h : motive { x with resolved := true } x.pendingImports) :
    ∃ left, motive x.withImports left :=
  linkRounds_induction hstep _ h

end

section

variable {motive : Extraction → List PendingImport → Prop}
  (hstep : ∀ {y z : Extraction} {before after : List PendingImport} {item : PendingImport}
    {final : Bool}, Registered y → y.resolved = true → item.Known y → y.modules = x.modules →
    y.linkImport item final = some z → motive y (before ++ item :: after) →
    motive z (before ++ after))

/-- A state and the imports that are left, while a program that starts as another one is linked. -/
structure Underway (x : Extraction) (motive : Extraction → List PendingImport → Prop)
    (y : Extraction) (left : List PendingImport) : Prop where
  registered : Registered y
  resolved : y.resolved = true
  modules : y.modules = x.modules
  known : ∀ i ∈ left, i.Known y
  holds : motive y left

include hstep

theorem Underway.linkImport {before after : List PendingImport} {item : PendingImport}
    {final : Bool} (h : Underway x motive y (before ++ item :: after))
    (hlink : y.linkImport item final = some z) : Underway x motive z (before ++ after) := by
  have hitem := h.known item (List.mem_append_right _ List.mem_cons_self)
  have hsteps := linkImport_steps h.registered h.resolved hitem hlink
  have hgrows := h.registered.grows hsteps
  refine ⟨h.registered.steps hsteps, hgrows.resolved.trans h.resolved,
    hgrows.modules.trans h.modules, fun i hi => hgrows.known_import (h.known i ?_),
    hstep h.registered h.resolved hitem h.modules hlink h.holds⟩
  rcases List.mem_append.1 hi with hi | hi
  · exact List.mem_append_left _ hi
  · exact List.mem_append_right _ (List.mem_cons_of_mem _ hi)

/-- The same for programs whose declarations are in order. -/
theorem linkImports_induction (hx : Registered x) (h : motive { x with resolved := true }
    x.pendingImports) : ∃ left, motive x.withImports left := by
  obtain ⟨left, hleft⟩ := withImports_induction (motive := Underway x motive)
    (fun hlink hold => hold.linkImport hstep hlink) ⟨hx.begun, rfl, rfl, hx.begun.imports, h⟩
  exact ⟨left, hleft.holds⟩

end

/-! ## Names that are bound in one way -/

/-- A method of a class assigns a field of its object. -/
def Assigns (x : Extraction) (c : ClassFact) (field : String) : Prop :=
  ∃ f ∈ x.methodsOf c.symbol, ∃ r ∈ x.graph.symbols, f.receiver = some r.id ∧
    ∃ t ∈ (f.node.all .body).flatMap walkOutsideClasses, assignedField? r.declaredName t = some field

/-- The ways to bind a name in a scope do not meet. -/
structure Separate (x : Extraction) (scope : ScopeId) (name : String) : Prop where
  /-- A field is declared in the body that its class is known by. -/
  owned : ∀ c ∈ x.classes, c.bodyScope = scope → x.Assigns c name →
    (x.graph.ownedScope c.symbol).map (·.id) = some scope
  /-- If a name that no statement binds is taken over, nothing else binds it. -/
  alone : x.declared? scope name = none → (∃ i ∈ x.pendingImports, i.Takes x scope name) →
    (x.pendingImports.filter (·.Binds scope name)).length ≤ 1 ∧
      ∀ c ∈ x.classes, c.bodyScope = scope → ¬ x.Assigns c name

/-- Names are declared once while modules are added. -/
theorem Step.declared_unique (hresolved : x.resolved = false) (h : Step x y)
    (hx : ∀ i j, x.Declared scope name i → x.Declared scope name j → i = j) :
    ∀ i j, y.Declared scope name i → y.Declared scope name j → i = j := by
  cases h with
  | note _ hindex _ _ _ _ _ _ _ =>
      intro i j hi hj
      rw [Declared, hindex] at hi hj
      exact hx i j hi hj
  | adjust _ _ => exact hx
  | @declare m into _ other _ hfree kind span canonical =>
      have hindex : (x.newSymbol m into other kind span canonical).2.index =
          ((into, other), (x.newSymbol m into other kind span canonical).1) :: x.index :=
        congrArg Prod.fst (x.newSymbol_ties m into other kind span canonical)
      intro i j hi hj
      rw [Declared, hindex] at hi hj
      rcases List.mem_cons.1 hi with hinew | hiold <;> rcases List.mem_cons.1 hj with hjnew | hjold
      · exact (Prod.mk.inj hinew).2.trans (Prod.mk.inj hjnew).2.symm
      · obtain ⟨rfl, rfl⟩ := Prod.mk.inj (Prod.mk.inj hinew).1
        exact absurd hjold (declared?_eq_none.1 hfree j)
      · obtain ⟨rfl, rfl⟩ := Prod.mk.inj (Prod.mk.inj hjnew).1
        exact absurd hiold (declared?_eq_none.1 hfree i)
      · exact hx i j hiold hjold
  | field hnot _ _ _ _ =>
      rw [hresolved] at hnot
      cases hnot
  | enter _ _ _ _ _ => exact hx
  | take _ _ _ => exact hx
  | derive _ _ => exact hx

theorem Steps.declared_unique (hx : Registered x) (hresolved : x.resolved = false)
    (h : Steps x y) (hunique : ∀ i j, x.Declared scope name i → x.Declared scope name j → i = j) :
    ∀ i j, y.Declared scope name i → y.Declared scope name j → i = j := by
  induction h with
  | refl => exact hunique
  | tail hsteps hstep ih =>
      exact hstep.declared_unique ((hx.grows hsteps).resolved.trans hresolved) ih

theorem Gathered.declared_unique {ms : List SourceModule} (h : Gathered ms x)
    (hms : ∀ m ∈ ms, Legible m) :
    ∀ i j, x.Declared scope name i → x.Declared scope name j → i = j := by
  induction h with
  | nil => exact fun i j hi => absurd hi List.not_mem_nil
  | @add ms m x y hbefore hadd ih =>
      have hlegible : ∀ k ∈ ms, Legible k := fun k hk => hms k (List.mem_append_left _ hk)
      have hm := hms m (List.mem_append_right _ (List.mem_singleton_self m))
      obtain ⟨hresolved, g, hscope, rfl⟩ := addRead_eq_ok hadd
      have hentered := (hbefore.registered hlegible).entered hresolved hm.1 hscope
      have hsteps := declareRegions_steps (m.tree.size + 1) hentered hresolved
        (fun r hr => List.mem_singleton.1 hr ▸ bodyRegion_known hm hscope)
      exact hsteps.declared_unique hentered hresolved (ih hlegible)

/-- Nothing takes the name over, now or later. -/
structure NeverTaken (x : Extraction) (scope : ScopeId) (name : String) (y : Extraction)
    (left : List PendingImport) : Prop where
  unique : ∀ i j, y.Declared scope name i → y.Declared scope name j → i = j
  untaken : ∀ id, ¬ y.TakenOver scope name id
  guarded : (∃ id, y.Declared scope name id) ∨ ∀ i ∈ left, ¬ i.Takes x scope name

theorem NeverTaken.change {before after : List PendingImport} {item : PendingImport}
    (hmodules : y.modules = x.modules) (hchange : Change y z item scope name)
    (h : NeverTaken x scope name y (before ++ item :: after)) :
    NeverTaken x scope name z (before ++ after) := by
  have hrest : before ++ after ⊆ before ++ item :: after := fun i hi => by
    rcases List.mem_append.1 hi with hi | hi
    · exact List.mem_append_left _ hi
    · exact List.mem_append_right _ (List.mem_cons_of_mem _ hi)
  cases hchange with
  | none hdeclared htaken =>
      refine ⟨fun i j hi hj => h.unique i j ((hdeclared i).1 hi) ((hdeclared j).1 hj),
        fun id hid => h.untaken id ((htaken id).1 hid), ?_⟩
      exact h.guarded.imp (fun ⟨id, hid⟩ => ⟨id, (hdeclared id).2 hid⟩)
        (fun hleft i hi => hleft i (hrest hi))
  | declare _ _ new hdeclared htaken =>
      exact ⟨fun i j hi hj => ((hdeclared i).1 hi).trans ((hdeclared j).1 hj).symm,
        fun id hid => h.untaken id ((htaken id).1 hid), .inl ⟨new, (hdeclared new).2 rfl⟩⟩
  | take htakes hfree _ _ _ =>
      have htakes : item.Takes x scope name := by
        obtain ⟨hbinds, hlabel, source, hsource, hmodule⟩ := htakes
        rw [module?, hmodules] at hmodule
        exact ⟨hbinds, hlabel, source, hsource, hmodule⟩
      rcases h.guarded with ⟨id, hid⟩ | hleft
      · exact absurd hid (hfree id)
      · exact absurd htakes (hleft item (List.mem_append_right _ List.mem_cons_self))

/-- One import binds the name, or is still to do so. -/
structure Lone (scope : ScopeId) (name : String) (y : Extraction) (left : List PendingImport) :
    Prop where
  once : y.BoundOnce scope name
  rest : (∀ i ∈ left, ¬ i.Binds scope name) ∨
    (∀ id, ¬ (y.Declared scope name id ∨ y.TakenOver scope name id)) ∧
      (left.filter (·.Binds scope name)).length ≤ 1

theorem Lone.change {before after : List PendingImport} {item : PendingImport}
    (hchange : Change y z item scope name) (h : Lone scope name y (before ++ item :: after)) :
    Lone scope name z (before ++ after) := by
  have hsub : (before ++ after).Sublist (before ++ item :: after) :=
    (List.Sublist.refl before).append (List.sublist_cons_self item after)
  -- Where the import binds the name, it is the only one.
  have hlast : item.Binds scope name → (∀ i ∈ before ++ after, ¬ i.Binds scope name) ∧
      ∀ id, ¬ (y.Declared scope name id ∨ y.TakenOver scope name id) := by
    intro hbinds
    rcases h.rest with hnone | ⟨hunbound, hcount⟩
    · exact absurd hbinds (hnone item (List.mem_append_right _ List.mem_cons_self))
    · refine ⟨fun i hi hi' => ?_, hunbound⟩
      have hmem : i ∈ (before ++ after).filter (·.Binds scope name) :=
        List.mem_filter.2 ⟨hi, decide_eq_true hi'⟩
      rw [List.filter_append,
        List.filter_cons_of_pos (p := fun j : PendingImport => decide (j.Binds scope name))
          (decide_eq_true hbinds), List.length_append, List.length_cons] at hcount
      rw [List.filter_append] at hmem
      have hlength := List.length_pos_of_mem hmem
      rw [List.length_append] at hlength
      omega
  cases hchange with
  | none hdeclared htaken =>
      have hbound : ∀ id, (z.Declared scope name id ∨ z.TakenOver scope name id) ↔
          (y.Declared scope name id ∨ y.TakenOver scope name id) :=
        fun id => or_congr (hdeclared id) (htaken id)
      refine ⟨fun i j hi hj => h.once i j ((hbound i).1 hi) ((hbound j).1 hj), ?_⟩
      refine h.rest.imp (fun hnone i hi => hnone i (hsub.subset hi)) fun ⟨hunbound, hcount⟩ =>
        ⟨fun id hid => hunbound id ((hbound id).1 hid), ?_⟩
      exact (hsub.filter _).length_le.trans hcount
  | declare hbinds _ new hdeclared htaken =>
      obtain ⟨hnone, hunbound⟩ := hlast hbinds
      have hnew : ∀ id, (z.Declared scope name id ∨ z.TakenOver scope name id) → id = new := by
        rintro id (hid | hid)
        · exact (hdeclared id).1 hid
        · exact absurd (.inr ((htaken id).1 hid)) (hunbound id)
      exact ⟨fun i j hi hj => (hnew i hi).trans (hnew j hj).symm, .inl hnone⟩
  | take htakes _ new hdeclared htaken =>
      obtain ⟨hnone, hunbound⟩ := hlast htakes.1
      have hnew : ∀ id, (z.Declared scope name id ∨ z.TakenOver scope name id) → id = new := by
        rintro id (hid | hid)
        · exact absurd hid (hdeclared id)
        · exact (htaken id hid).resolve_left fun hold => hunbound id (.inr hold)
      exact ⟨fun i j hi hj => (hnew i hi).trans (hnew j hj).symm, .inl hnone⟩

/-- Some class declares the name as a field in the scope. -/
def HasField (x : Extraction) (scope : ScopeId) (name : String) : Prop :=
  ∃ c ∈ x.classes, c.bodyScope = scope ∧ x.Assigns c name

/-- A name is bound once, and not taken over where fields are declared. -/
structure Settled (x : Extraction) (scope : ScopeId) (name : String) (y : Extraction) : Prop where
  once : y.BoundOnce scope name
  untaken : x.HasField scope name → ∀ id, ¬ y.TakenOver scope name id

theorem NeverTaken.settled {left : List PendingImport} (h : NeverTaken x scope name y left) :
    Settled x scope name y := by
  refine ⟨?_, fun _ => h.untaken⟩
  rintro i j (hi | hi) (hj | hj)
  · exact h.unique i j hi hj
  · exact absurd hj (h.untaken j)
  · exact absurd hi (h.untaken i)
  · exact absurd hi (h.untaken i)

/-- Imports leave a name bound once. -/
theorem settled_withImports {ms : List SourceModule} (h : Gathered ms x)
    (hms : ∀ m ∈ ms, Legible m) (hseparate : Separate x scope name) :
    Settled x scope name x.withImports := by
  have hx := h.registered hms
  have hunique : ∀ i j, x.Declared scope name i → x.Declared scope name j → i = j :=
    h.declared_unique hms
  have huntaken : ∀ id, ¬ ({ x with resolved := true } : Extraction).TakenOver scope name id := by
    rintro id ⟨⟨c, hc, -, hmem⟩, -⟩
    rw [hx.untaken h.resolved_eq c hc] at hmem
    cases hmem
  by_cases hguarded : (∃ id, x.Declared scope name id) ∨
      ∀ i ∈ x.pendingImports, ¬ i.Takes x scope name
  · obtain ⟨left, hleft⟩ := linkImports_induction (motive := NeverTaken x scope name)
      (fun hy hresolved hitem hmodules hlink hold =>
        hold.change hmodules (linkImport_change hy hresolved hitem hlink scope name))
      hx ⟨hunique, huntaken, hguarded⟩
    exact hleft.settled
  · obtain ⟨hfree, htakes⟩ := not_or.1 hguarded
    have hfree := not_exists.1 hfree
    obtain ⟨hcount, hfields⟩ := hseparate.alone (declared?_eq_none.2 hfree)
      (by simpa only [not_forall, not_not, exists_prop] using htakes)
    have hunbound : ∀ id, ¬ (({ x with resolved := true } : Extraction).Declared scope name id ∨
        ({ x with resolved := true } : Extraction).TakenOver scope name id) :=
      fun id hid => hid.elim (hfree id) (huntaken id)
    obtain ⟨left, hleft⟩ := linkImports_induction (motive := Lone scope name)
      (fun hy hresolved hitem _ hlink hold =>
        hold.change (linkImport_change hy hresolved hitem hlink scope name))
      hx ⟨fun i _ hi => absurd hi (hunbound i), .inr ⟨hunbound, hcount⟩⟩
    exact ⟨hleft.once, fun ⟨c, hc, hbody, hassigns⟩ => absurd hassigns (hfields c hc hbody)⟩

/-! ## Classes and fields -/

theorem addMarker_ties (x : Extraction) (id : SymbolId) (marker : Option String) :
    (x.addMarker id marker).ties = x.ties := rfl

theorem addDecorators_ties (x : Extraction) (id : SymbolId) (at' : ScopeId)
    (decorators : List Tree) : (x.addDecorators id at' decorators).ties = x.ties :=
  proj_foldl ties (fun y _ => y.addMarker_ties _ _) decorators x

theorem linkBase_ties (c : ClassFact) (x : Extraction) (base : Tree) :
    (linkBase c x base).ties = x.ties := by
  unfold linkBase
  dsimp only
  split
  · split
    · exact Prod.ext rfl (Graph.addSupertype_scopes ..)
    · split <;> rfl
  · split <;> rfl
  · split <;> rfl

theorem linkMetaclass_ties (c : ClassFact) (x : Extraction) (keyword : Tree) :
    (linkMetaclass c x keyword).ties = x.ties := by
  unfold linkMetaclass
  split <;> rfl

theorem linkClass_ties (x : Extraction) (c : ClassFact) : (x.linkClass c).ties = x.ties := by
  unfold linkClass
  dsimp only
  rw [proj_foldl ties (linkMetaclass_ties c), proj_foldl ties (linkBase_ties c),
    addDecorators_ties]

theorem markDefaultMethod_ties (x : Extraction) (f : FunctionFact) :
    (x.markDefaultMethod f).ties = x.ties := by
  unfold markDefaultMethod
  split
  · split <;> rfl
  · rfl

theorem markTypeParameter_ties (x : Extraction) (item : ScopeId × String × Tree) :
    (x.markTypeParameter item).ties = x.ties := by
  unfold markTypeParameter
  dsimp only
  split
  · split <;> rfl
  · rfl

/-- Nothing is bound while classes are related. -/
theorem withBases_ties (x : Extraction) : x.withBases.ties = x.withImports.ties := by
  unfold withBases linkClasses
  dsimp only
  rw [proj_foldl ties markTypeParameter_ties, proj_foldl ties, proj_foldl ties,
    proj_foldl ties linkClass_ties]
  · exact fun y f => addDecorators_ties ..
  · intro y c
    split
    · exact proj_foldl ties markDefaultMethod_ties _ _
    · rfl

/-- A field is declared in the body of its class, unless the class has such a member. -/
theorem declareField_ties (c : ClassFact) (receiver : String) (x : Extraction) (t : Tree) :
    (declareField c receiver x t).ties = x.ties ∨
      ∃ field, assignedField? receiver t = some field ∧ x.classMember? c.symbol field = none ∧
        ∃ id, (declareField c receiver x t).ties =
          (((c.bodyScope, field), id) :: x.index, x.graph.scopes) := by
  unfold declareField
  split
  · next field hfield =>
      split
      · exact .inl rfl
      · next hnone =>
          exact .inr ⟨field, hfield, by simpa using hnone, _, newSymbol_ties ..⟩
  · exact .inl rfl

theorem Settled.of_ties (h : Settled x scope name y) (hy : Registered y) (hz : Registered z)
    (hgrows : Grows y z) (hties : z.ties = y.ties) : Settled x scope name z := by
  have hindex : z.index = y.index := congrArg Prod.fst hties
  have hscopes : z.graph.scopes = y.graph.scopes := congrArg Prod.snd hties
  have hdeclared : ∀ id, z.Declared scope name id ↔ y.Declared scope name id :=
    fun id => by rw [Declared, Declared, hindex]
  have htaken : ∀ id, z.TakenOver scope name id ↔ y.TakenOver scope name id :=
    hgrows.takenOver_iff hy hz hscopes
  exact
    { once := fun i j hi hj => h.once i j (hi.imp (hdeclared i).1 (htaken i).1)
        (hj.imp (hdeclared j).1 (htaken j).1)
      untaken := fun hfield id hid => h.untaken hfield id ((htaken id).1 hid) }

/-- Scopes are owned by the same symbols as long as none is opened. -/
theorem ownedScope_of_frames {g g' : Graph}
    (h : g'.scopes.map Scope.frame = g.scopes.map Scope.frame) (id : SymbolId) :
    (g'.ownedScope id).map (·.id) = (g.ownedScope id).map (·.id) := by
  have hframe : ∀ g : Graph, (g.ownedScope id).map (·.id) =
      (((g.scopes.map Scope.frame).filter (·.owner = some id)).getLast?).map (·.id) := by
    intro g
    rw [List.filter_map, List.getLast?_map, Option.map_map]
    rfl
  rw [hframe, hframe, h]

/-- A class whose search finds no member declares none in the body that it is known by. -/
theorem declared?_of_classMember?_none {type : SymbolId} (h : x.classMember? type name = none)
    (howned : (x.graph.ownedScope type).map (·.id) = some scope) :
    x.declared? scope name = none := by
  obtain ⟨b, hb, hid⟩ := Option.map_eq_some_iff.1 howned
  have hfirst := List.findSome?_eq_none_iff.1 h type List.mem_cons_self
  rw [hb, Option.bind_some, hid] at hfirst
  exact hfirst

/-- A method of a class assigns a field of its object at a node. -/
def AssignsAt (x : Extraction) (c : ClassFact) (t : Tree) (field : String) : Prop :=
  ∃ f ∈ x.methodsOf c.symbol, ∃ r ∈ x.graph.symbols, f.receiver = some r.id ∧
    t ∈ (f.node.all .body).flatMap walkOutsideClasses ∧ assignedField? r.declaredName t = some field

theorem AssignsAt.assigns {c : ClassFact} {t : Tree} {field : String}
    (h : x.AssignsAt c t field) : x.Assigns c field := by
  obtain ⟨f, hf, r, hr, hreceiver, ht, hfield⟩ := h
  exact ⟨f, hf, r, hr, hreceiver, t, ht, hfield⟩

/-- A state in which fields are declared, with what is known of the program before. -/
structure Fielding (x : Extraction) (motive : Extraction → Prop) (y : Extraction) : Prop where
  registered : Registered y
  grows : Grows { x with resolved := true } y
  functions : y.functions = x.functions
  holds : motive y

theorem declareField_functions (c : ClassFact) (receiver : String) (x : Extraction) (t : Tree) :
    (declareField c receiver x t).functions = x.functions := by
  unfold declareField
  split
  · split <;> rfl
  · rfl

section

variable {motive : Extraction → Prop}
  (hstep : ∀ {y : Extraction} {c : ClassFact} {receiver : String} {t : Tree}, Registered y →
    Grows { x with resolved := true } y → c ∈ x.classes → Spelled t →
    (∀ field, assignedField? receiver t = some field → x.AssignsAt c t field) →
    motive y → motive (declareField c receiver y t))

include hstep

theorem Fielding.declareMethodFields (hx : Registered x) {c : ClassFact} (hc : c ∈ x.classes)
    {f : FunctionFact} (hf : f ∈ x.methodsOf c.symbol) (hy : Fielding x motive y) :
    Fielding x motive (declareMethodFields c y f) := by
  have hknown := hx.functions f (List.mem_filter.1 hf).1
  unfold Extraction.declareMethodFields
  split
  · next receiver hreceiver =>
      obtain ⟨id, hid, hsome⟩ := Option.bind_eq_some_iff.1 hreceiver
      obtain ⟨hmem, rfl⟩ := hy.registered.wellFormed.symbol?_eq_some.1 hsome
      -- The receiver has the name that it had before.
      obtain ⟨r, hr, hrid⟩ := Graph.mem_symbolIds.1 (hknown.receiver_mem _ hid)
      obtain ⟨s, hs, hout⟩ := hy.grows.symbol (x := { x with resolved := true }) hr
      have hsame := hy.registered.wellFormed.symbol_ext hs hmem
        ((Symbol.id_of_outline hout).trans hrid)
      have hname : receiver.declaredName = r.declaredName := by
        rw [← hsame]
        exact Symbol.declaredName_of_outline hout
      refine keep_foldl_mem (Fielding x motive) (fun z t ht hz => ?_) hy
      have hspelled : Spelled t := by
        obtain ⟨u, hu, htu⟩ := List.mem_flatMap.1 ht
        exact hknown.spelled.of_mem_nodes
          (nodes_subset (mem_nodes_of_mem_all hu) (mem_nodes_of_mem_walkOutsideClasses htu))
      have hsteps := declareField_steps (hz.grows.resolved.trans rfl) (hz.grows.classes hc)
        receiver.declaredName hspelled
      refine ⟨hz.registered.steps hsteps, hz.grows.trans (hz.registered.grows hsteps),
        (declareField_functions ..).trans hz.functions, ?_⟩
      refine hstep hz.registered hz.grows hc hspelled (fun field hfield => ?_) hz.holds
      rw [hname] at hfield
      exact ⟨f, hf, r, hr, hid.trans (by rw [hrid]), ht, hfield⟩
  · exact hy

/-- What the declaration of each field keeps, the declaration of all fields keeps. -/
theorem withFields_induction (hx : Registered x) (hbases : motive x.withBases) :
    motive x.withFields := by
  have himports := hx.begun.steps (withImports_steps hx)
  have hinitial : Fielding x motive x.withBases :=
    { registered := himports.steps (withBases_steps_withImports hx)
      grows := hx.begun.grows (withBases_steps hx)
      functions := (congrArg Extraction.functions x.withBases_notes :)
      holds := hbases }
  have hclasses : x.withBases.classes = x.classes :=
    (congrArg Extraction.classes x.withBases_notes :)
  refine (keep_foldl_mem (Fielding x motive) (fun y c hc hy => ?_) hinitial).holds
  have hmem : c ∈ x.classes := hclasses ▸ (List.mergeSort_perm _ _).subset hc
  refine keep_foldl_mem (Fielding x motive) (fun z f hf hz => ?_) hy
  refine hz.declareMethodFields hstep hx hmem ?_
  rwa [methodsOf, hy.functions] at hf

end

/-- Declaring a field leaves a name bound once. -/
theorem Settled.declareField (hseparate : Separate x scope name) {c : ClassFact}
    (hc : c ∈ x.classes) {receiver : String} {t : Tree} (ht : Spelled t)
    (hassigns : ∀ field, assignedField? receiver t = some field → x.Assigns c field)
    (hy : Registered y) (hbegun : Grows { x with resolved := true } y)
    (hsettled : Settled x scope name y) : Settled x scope name (declareField c receiver y t) := by
  have hsteps := declareField_steps (hbegun.resolved.trans rfl) (hbegun.classes hc) receiver ht
  have hz := hy.steps hsteps
  have hgrows := hy.grows hsteps
  rcases declareField_ties c receiver y t with hties | ⟨field, hfield, hfree, new, hties⟩
  · exact hsettled.of_ties hy hz hgrows hties
  · have hindex : (Extraction.declareField c receiver y t).index =
        ((c.bodyScope, field), new) :: y.index := congrArg Prod.fst hties
    have hscopes : (Extraction.declareField c receiver y t).graph.scopes = y.graph.scopes :=
      congrArg Prod.snd hties
    have htaken : ∀ id, (Extraction.declareField c receiver y t).TakenOver scope name id ↔
        y.TakenOver scope name id := hgrows.takenOver_iff hy hz hscopes
    refine ⟨?_, fun hfield id hid => hsettled.untaken hfield id ((htaken id).1 hid)⟩
    by_cases hkey : (c.bodyScope, field) = (scope, name)
    · obtain ⟨hbody, rfl⟩ := Prod.mk.inj hkey
      have hassigned := hassigns field hfield
      have huntaken := hsettled.untaken ⟨c, hc, hbody, hassigned⟩
      -- The class is known by this body, so its members were looked up here.
      have howned : (y.graph.ownedScope c.symbol).map (·.id) = some scope := by
        rw [ownedScope_of_frames (hbegun.frames rfl)]
        exact hseparate.owned c hc hbody hassigned
      have hnone := declared?_of_classMember?_none hfree howned
      have hnew : ∀ id, (Extraction.declareField c receiver y t).Declared scope field id ∨
          (Extraction.declareField c receiver y t).TakenOver scope field id → id = new := by
        rintro id (hid | hid)
        · rw [Declared, hindex] at hid
          rcases List.mem_cons.1 hid with heq | hold
          · exact (Prod.mk.inj heq).2
          · exact absurd hold (declared?_eq_none.1 hnone id)
        · exact absurd ((htaken id).1 hid) (huntaken id)
      exact fun i j hi hj => (hnew i hi).trans (hnew j hj).symm
    · have hdeclared : ∀ id, (Extraction.declareField c receiver y t).Declared scope name id →
          y.Declared scope name id := by
        intro id hid
        rw [Declared, hindex] at hid
        exact (List.mem_cons.1 hid).resolve_left fun heq => hkey (Prod.mk.inj heq).1.symm
      exact fun i j hi hj => hsettled.once i j (hi.imp (hdeclared i) (htaken i).1)
        (hj.imp (hdeclared j) (htaken j).1)

/-- Fields leave a name bound once. -/
theorem settled_withFields {ms : List SourceModule} (h : Gathered ms x)
    (hms : ∀ m ∈ ms, Legible m) (hseparate : Separate x scope name) :
    Settled x scope name x.withFields := by
  have hx := h.registered hms
  have himports := hx.begun.steps (withImports_steps hx)
  have hsteps := withBases_steps_withImports hx
  refine withFields_induction (fun hy hgrows hc ht hassigns hsettled =>
    hsettled.declareField hseparate hc ht (fun field hfield => (hassigns field hfield).assigns)
      hy hgrows) hx ?_
  exact (settled_withImports h hms hseparate).of_ties himports (himports.steps hsteps)
    (himports.grows hsteps) x.withBases_ties

/-! ## Resolved programs -/

/-- Scopes that are not for what is outside were there before overrides were linked. -/
theorem Gathered.exists_scope {ms : List SourceModule} (h : Gathered ms x)
    (hms : ∀ m ∈ ms, Legible m) {c : Scope} (hc : c ∈ x.resolve.graph.scopes)
    (hkind : c.kind ≠ .external) :
    c.id ≠ externalScope ∧
      ∃ d ∈ x.withFields.graph.scopes, d.id = c.id ∧ d.imported = c.imported := by
  obtain ⟨extra, hscopes, hextra⟩ := (h.beside_resolve hms).scopes
  have hmem : c.outline ∈ x.resolve.graph.scopes.map Scope.outline := List.mem_map_of_mem hc
  rw [hscopes] at hmem
  rcases List.mem_append.1 hmem with hmem | hmem
  · obtain ⟨d, hd, hout⟩ := List.mem_map.1 hmem
    have hid : d.id = c.id := (congrArg Scope.id hout :)
    refine ⟨fun heq => ?_, d, hd, hid, (congrArg Scope.imported hout :)⟩
    exact (h.registered_withFields hms).externalScope_not_mem
      (heq ▸ hid ▸ Graph.mem_scopeIds_of_mem hd)
  · have hexternal : c.kind = .external := (congrArg Scope.kind (hextra _ hmem) :)
    exact absurd hexternal hkind

/-- What a resolved program binds was bound before overrides were linked. -/
theorem Gathered.bound_withFields {ms : List SourceModule} (h : Gathered ms x)
    (hms : ∀ m ∈ ms, Legible m) {c : Scope} (hc : c ∈ x.resolve.graph.scopes)
    (hkind : c.kind ≠ .external) {s : Symbol} (hs : s ∈ x.resolve.graph.boundSymbols c.id) :
    x.withFields.Declared c.id s.name s.id ∨ x.withFields.TakenOver c.id s.name s.id := by
  have hy := h.registered_withFields hms
  have hbeside := h.beside_resolve hms
  have hwell := h.wellFormed_resolve hms
  obtain ⟨hne, -⟩ := h.exists_scope hms hc hkind
  rcases List.mem_append.1 hs with hs | hs
  · obtain ⟨n, hn, hout⟩ := hbeside.exists_member hne hs
    obtain ⟨hn, hscope⟩ := Graph.mem_membersOfScope.1 hn
    obtain ⟨scope, -, hhome, hentry⟩ := hy.listed n hn
    obtain rfl : scope = c.id := Option.some.inj (hhome.symm.trans hscope)
    rw [← hy.named n hn, Symbol.name_of_outline hout, Symbol.id_of_outline hout] at hentry
    exact .inl hentry
  · obtain ⟨hs, e, he, hid, hmem⟩ := hwell.mem_importedSymbols.1 hs
    have hec : e = c := by
      have hsame : some e = some c := by rw [← hwell.scope?_id he, ← hwell.scope?_id hc, hid]
      exact Option.some.inj hsame
    obtain ⟨-, d, hd, hdid, himported⟩ := h.exists_scope hms he (hec ▸ hkind)
    rw [← himported] at hmem
    -- The symbol was there already, under the same name.
    obtain ⟨n, hn, hnid⟩ := Graph.mem_symbolIds.1 (hy.taken d hd hmem)
    obtain ⟨extra, hsymbols, -⟩ := hbeside.symbols
    have hout : n.outline ∈ x.resolve.graph.symbols.map Symbol.outline := by
      rw [hsymbols]
      exact List.mem_append_left _ (List.mem_map_of_mem hn)
    obtain ⟨t, ht, htn⟩ := List.mem_map.1 hout
    obtain rfl := hwell.symbol_ext ht hs ((Symbol.id_of_outline htn).trans hnid)
    refine .inr ⟨⟨d, hd, hdid.trans hid, hmem⟩, n, hn, hnid, ?_⟩
    rw [← hy.named n hn, Symbol.name_of_outline htn]

/-- What is bound in a scope when overrides are linked is bound in the end. -/
theorem Gathered.exists_bound {ms : List SourceModule} (h : Gathered ms x) {s : Symbol}
    (hs : s ∈ x.withOverrides.graph.boundSymbols scope) :
    ∃ t ∈ x.resolve.graph.boundSymbols scope, t.outline = s.outline := by
  have hgraph : x.resolve.graph.outline = x.withOverrides.graph.outline :=
    (congrArg Extraction.graph (resolve_outline h.resolved_eq) :)
  have hbound : ∀ g : Graph,
      g.outline.boundSymbols scope = (g.boundSymbols scope).map Symbol.outline := by
    intro g
    rw [Graph.boundSymbols, Graph.boundSymbols, Graph.membersOfScope_outline,
      Graph.importedSymbols_outline, List.map_append]
  have hmem : s.outline ∈ (x.resolve.graph.boundSymbols scope).map Symbol.outline := by
    rw [← hbound, hgraph, hbound]
    exact List.mem_map_of_mem hs
  exact List.mem_map.1 hmem

/-- Scopes that are there when overrides are linked are there in the end. -/
theorem Gathered.scope_exists {ms : List SourceModule} (h : Gathered ms x) {c : Scope}
    (hc : c ∈ x.withOverrides.graph.scopes) :
    ∃ d ∈ x.resolve.graph.scopes, d.id = c.id ∧ d.kind = c.kind := by
  have hscopes : x.resolve.graph.scopes.map Scope.outline =
      x.withOverrides.graph.scopes.map Scope.outline :=
    (congrArg (fun y : Extraction => y.graph.scopes) (resolve_outline h.resolved_eq) :)
  obtain ⟨d, hd, hout⟩ := List.mem_map.1 (hscopes ▸ List.mem_map_of_mem hc)
  exact ⟨d, hd, (congrArg Scope.id hout :), (congrArg Scope.kind hout :)⟩

/-- **In a resolved program, a name is bound once in a scope unless the ways to bind it meet: it is
taken over and bound in another way too, or it is a field of a class that is defined again.** -/
theorem boundOnce_of_separate {ms : List SourceModule} (h : Gathered ms x)
    (hms : ∀ m ∈ ms, Legible m) :
    ∀ c ∈ x.resolve.graph.scopes, c.kind ≠ .external →
      ∀ a ∈ x.resolve.graph.boundSymbols c.id, ∀ b ∈ x.resolve.graph.boundSymbols c.id,
        a.name = b.name → Separate x c.id a.name → a = b := by
  intro c hc hkind a ha b hb hname hseparate
  have hwell := h.wellFormed_resolve hms
  have hbound := h.bound_withFields hms hc hkind hb
  rw [← hname] at hbound
  have hid := (settled_withFields h hms hseparate).once a.id b.id
    (h.bound_withFields hms hc hkind ha) hbound
  have hmem : ∀ s ∈ x.resolve.graph.boundSymbols c.id, s ∈ x.resolve.graph.symbols := by
    intro s hs
    rcases List.mem_append.1 hs with hs | hs
    · exact (Graph.mem_membersOfScope.1 hs).1
    · exact (hwell.mem_importedSymbols.1 hs).1
  exact hwell.symbol_ext (hmem a ha) (hmem b hb) hid

/-- A module with one name. -/
def amp : SourceModule where
  name := "amp"
  path := ⟨"", ["amp.py"]⟩
  source := "mix = 1\n"
  tree := (Module.parse? "mix = 1\n").getD default

/-- The text of a module that takes the name over, and binds the other module too. -/
def playerText : String := "from amp import mix\nimport amp as quick\n"

/-- The module with that text. -/
def player : SourceModule where
  name := "player"
  path := ⟨"", ["player.py"]⟩
  source := playerText
  tree := (Module.parse? playerText).getD default

theorem legible_player : ∀ m ∈ [amp, player], Legible m := by
  have hlabels : ∀ u ∈ player.tree.nodes, u.label = .importedName "mix" none ∨
      u.label = .importedName "amp" (some "quick") ∨ u.label.names = [] := by decide +kernel
  have hmix : "mix".splitOn "." = ["mix"] := by cbv
  have hamp : "amp".splitOn "." = ["amp"] := by cbv
  have hspelled : Spelled player.tree := by
    intro u hu name hname
    rcases hlabels u hu with h | h | h
    · rw [h, Label.names, hmix] at hname
      exact (by decide : ∀ n ∈ "mix" :: ["mix"] ++ none.toList, Plain n) name hname
    · rw [h, Label.names, hamp] at hname
      exact (by decide : ∀ n ∈ "amp" :: ["amp"] ++ (some "quick").toList, Plain n) name hname
    · rw [h] at hname
      cases hname
  have hfirst : Legible amp := by decide +kernel
  exact List.forall_mem_cons.2 ⟨hfirst, List.forall_mem_singleton.2 ⟨by decide, hspelled⟩⟩

/-- The name is bound once. -/
theorem boundOnce_of_separate_player :
    ∃ x, Gathered [amp, player] x ∧ Separate x "player" "mix" ∧
      ∃ c ∈ x.resolve.graph.scopes, c.id = "player" ∧ c.kind ≠ .external ∧
      ∃ a ∈ x.resolve.graph.boundSymbols "player", a.name = "mix" ∧
        ∀ b ∈ x.resolve.graph.boundSymbols "player", b.name = "mix" → a = b := by
  obtain ⟨x, h, hclasses, hcount, ⟨c, hc, hid, hkind⟩, s, hs, hname⟩ :
      ∃ x, Gathered [amp, player] x ∧ x.classes.length = 0 ∧
        (x.pendingImports.filter (·.Binds "player" "mix")).length ≤ 1 ∧
        (∃ c ∈ x.withOverrides.graph.scopes, c.id = "player" ∧ c.kind ≠ .external) ∧
        ∃ s ∈ x.withOverrides.graph.boundSymbols "player", s.name = "mix" :=
    exists_gathered (by decide +kernel)
  have hclasses := List.eq_nil_of_length_eq_zero hclasses
  have hseparate : Separate x "player" "mix" :=
    ⟨by simp [hclasses], fun _ _ => ⟨hcount, by simp [hclasses]⟩⟩
  obtain ⟨d, hd, hdid, hdkind⟩ := h.scope_exists hc
  obtain ⟨a, ha, hout⟩ := h.exists_bound hs
  have haname := (Symbol.name_of_outline hout).trans hname
  have hdid := hdid.trans hid
  refine ⟨x, h, hseparate, d, hd, hdid, hdkind ▸ hkind, a, ha, haname, fun b hb hbname => ?_⟩
  exact boundOnce_of_separate h legible_player d hd (hdkind ▸ hkind) a (hdid ▸ ha) b (hdid ▸ hb)
    (haname.trans hbname.symm) (hdid ▸ haname ▸ hseparate)

/-- The text of a module that takes the name over, or else binds another module under it. -/
def recorderText : String :=
  "try:\n    from amp import mix\nexcept ImportError:\n    import pad as mix\n"

/-- The module with that text. -/
def recorder : SourceModule where
  name := "recorder"
  path := ⟨"", ["recorder.py"]⟩
  source := recorderText
  tree := (Module.parse? recorderText).getD default

/-- The second import does not see what the first one has bound. -/
theorem not_boundOnce_recorder :
    ∃ x, Gathered [amp, recorder] x ∧
      ∃ c ∈ x.resolve.graph.scopes, c.id = "recorder" ∧ c.kind ≠ .external ∧
      ∃ a ∈ x.resolve.graph.boundSymbols c.id, ∃ b ∈ x.resolve.graph.boundSymbols c.id,
        a.name = b.name ∧ a ≠ b := by
  obtain ⟨x, h, ⟨c, hc, hid, hkind⟩, s, hs, t, ht, hname, hne⟩ :
      ∃ x, Gathered [amp, recorder] x ∧
        (∃ c ∈ x.withOverrides.graph.scopes, c.id = "recorder" ∧ c.kind ≠ .external) ∧
        ∃ s ∈ x.withOverrides.graph.boundSymbols "recorder",
          ∃ t ∈ x.withOverrides.graph.boundSymbols "recorder", s.name = t.name ∧ s.id ≠ t.id :=
    exists_gathered (by decide +kernel)
  obtain ⟨d, hd, hdid, hdkind⟩ := h.scope_exists hc
  obtain ⟨a, ha, hout⟩ := h.exists_bound hs
  obtain ⟨b, hb, hout'⟩ := h.exists_bound ht
  have hdid := hdid.trans hid
  refine ⟨x, h, d, hd, hdid, hdkind ▸ hkind, a, hdid ▸ ha, b, hdid ▸ hb, ?_, fun heq => hne ?_⟩
  · rw [Symbol.name_of_outline hout, Symbol.name_of_outline hout', hname]
  · rw [← Symbol.id_of_outline hout, ← Symbol.id_of_outline hout', heq]

end Extraction

end Pseudonym
