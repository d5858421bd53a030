import Pseudonym.Proofs.Extraction.Places

/-!
# Keyword arguments

A call names parameters of the function that it calls. While modules are added, every parameter of a
function is declared in its body, and the symbol of a function gets the parameters of one of its
definitions (`Signatures`). A keyword is recorded as a use of the parameter that the symbol has under
that name; if there is none, every parameter of that name in the program is marked
(`Fed`, `visitCall_fed`).

A function that is defined several times has several parameters of one name, and its symbol has one
of them. So a keyword is recorded for one definition, and the parameters of the others are neither
used nor marked (`not_keyword_recorded_valve`). Up to that choice every keyword is accounted for:
`keyword_recorded`.
-/

namespace Pseudonym

open Python Python.Tree

/-- The name of a parameter. -/
def Python.Tree.parameterName? (t : Tree) : Option String :=
  match t.label with
  | .parameter name _ _ => some name
  | _ => none

/-- A function has a parameter of a name, which is declared as a symbol in its body. -/
def FunctionFact.HasParameter (x : Extraction) (f : FunctionFact) (name : String)
    (id : SymbolId) : Prop :=
  (∃ t ∈ f.node.all .parameter, t.parameterName? = some name) ∧ x.Declared f.bodyScope name id

/-- A function without a name has no symbol. -/
def NestedScope.Owned (n : NestedScope) : Prop := n.node.label = .lambda → n.owner = none

namespace Extraction

/-! ## Signatures -/

/-- Parameters of functions are declared, and those that a symbol has are parameters of a definition
of it. -/
structure Signatures (x : Extraction) : Prop where
  declared : ∀ f ∈ x.functions, ∀ t ∈ f.node.all .parameter, ∀ name ∈ t.parameterName?,
    ∃ id, x.Declared f.bodyScope name id ∧ (f.receiver = some id ∨ (name, id) ∈ x.parameters)
  recorded : ∀ s ∈ x.graph.symbols, ∀ p ∈ s.parameters,
    ∃ f ∈ x.functions, f.symbol = s.id ∧ ∃ name, f.HasParameter x name p

variable {x y : Extraction}

theorem Signatures.carry (h : Signatures x) (hcarries : Carries x y)
    (hfunctions : y.functions = x.functions) (hparameters : x.parameters ⊆ y.parameters) :
    Signatures y where
  declared f hf t ht name hname := by
    obtain ⟨id, hid, hkind⟩ := h.declared f (hfunctions ▸ hf) t ht name hname
    exact ⟨id, hcarries.1 hid, hkind.imp_right fun hmem => hparameters hmem⟩
  recorded s hs p hp := by
    obtain ⟨w, hw, hid, hp⟩ := hcarries.mem_parameters hs hp
    obtain ⟨f, hf, hsymbol, name, hname, hdeclared⟩ := h.recorded w hw p hp
    exact ⟨f, hfunctions ▸ hf, hsymbol.trans hid, name, hname, hcarries.1 hdeclared⟩

theorem Signatures.carry_facts (h : Signatures x) (hcarries : Carries x y)
    (hfacts : y.facts = x.facts) : Signatures y :=
  have hparameters : y.parameters = x.parameters := congrArg (·.2.2) hfacts
  h.carry hcarries (congrArg (·.2.1) hfacts) (hparameters ▸ List.Subset.refl _)

/-- Some of the parameters of a function are declared; the second part of the state is the
receiver. -/
structure Signing (s : Signature) (x : Extraction) (done : List Tree)
    (state : Extraction × Option SymbolId) : Prop where
  functions : state.1.functions = x.functions
  parameters : x.parameters ⊆ state.1.parameters
  index : x.index ⊆ state.1.index
  declared : ∀ t ∈ done, ∀ name ∈ t.parameterName?,
    ∃ id, state.1.Declared s.scope name id ∧
      (state.2 = some id ∨ (name, id) ∈ state.1.parameters)
  recorded : ∀ u ∈ state.1.graph.symbols, ∀ p ∈ u.parameters,
    (∃ w ∈ x.graph.symbols, w.id = u.id ∧ p ∈ w.parameters) ∨
      s.function = some u.id ∧
        ∃ t ∈ done, ∃ name ∈ t.parameterName?, state.1.Declared s.scope name p

theorem bind_declared (x : Extraction) (m : SourceModule) (scope : ScopeId) (name : String)
    (kind : SymbolKind) (span : Option Span) (occurrence : ScopeId) :
    (x.bind m scope name kind span occurrence).2.Declared scope name
      (x.bind m scope name kind span occurrence).1 := by
  unfold bind
  split
  · next id hid =>
      have hmem : x.Declared scope name id := mem_index_of_declared? hid
      dsimp only
      split
      · exact hmem
      · exact (addReference_traces { x with bindings := id :: x.bindings } ..).2.1 hmem
  · exact List.mem_cons_self

/-- What is known of a state stays known of one that carries it on. -/
theorem Signing.carry {s : Signature} {done : List Tree} {z z' : Extraction}
    {receiver : Option SymbolId} (h : Signing s x done (z, receiver)) (hcarries : Carries z z')
    (hfacts : z'.facts = z.facts) : Signing s x done (z', receiver) where
  functions := (congrArg (·.2.1) hfacts : z'.functions = z.functions).trans h.functions
  parameters := (congrArg (·.2.2) hfacts : z'.parameters = z.parameters) ▸ h.parameters
  index := List.Subset.trans h.index hcarries.1
  declared t ht name hname := by
    obtain ⟨id, hid, hkind⟩ := h.declared t ht name hname
    have hparameters : z'.parameters = z.parameters := congrArg (·.2.2) hfacts
    exact ⟨id, hcarries.1 hid, hkind.imp_right fun hmem => hparameters ▸ hmem⟩
  recorded u hu p hp := by
    obtain ⟨w, hw, hid, hp⟩ := hcarries.mem_parameters hu hp
    rw [← hid]
    refine (h.recorded w hw p hp).imp_right ?_
    rintro ⟨hfunction, t, ht, name, hname, hdeclared⟩
    exact ⟨hfunction, t, ht, name, hname, hcarries.1 hdeclared⟩

/-- One more parameter is declared. Only the first one can be the receiver. -/
theorem Signing.declareParameter {s : Signature} {done : List Tree} {z : Extraction}
    {receiver : Option SymbolId} (h : Signing s x done (z, receiver)) (t : Tree) {n : Nat}
    (hfirst : n = 0 → done = []) :
    Signing s x (done ++ [t]) (declareParameter s (z, receiver) (t, n)) := by
  have hdone : ∀ {u : Tree}, u ∈ done → u ∈ done ++ [t] := fun hu => List.mem_append_left _ hu
  have hlast : t ∈ done ++ [t] := List.mem_append_right _ (List.mem_singleton_self t)
  unfold Extraction.declareParameter
  dsimp only
  split
  · next name _ _ hlabel =>
      have hname : t.parameterName? = some name := by simp only [parameterName?, hlabel]
      have hbound := z.bind_declared s.module s.scope name .variable
        (s.module.headSpan? t name) s.scope
      have hbefore := h.carry (z.bind_traces s.module s.scope name .variable
        (s.module.headSpan? t name) s.scope).2 (z.bind_facts ..)
      generalize z.bind s.module s.scope name .variable (s.module.headSpan? t name) s.scope =
        bound at hbound hbefore ⊢
      obtain ⟨id, z'⟩ := bound
      -- What the symbols have is a parameter from before, or one that was declared now.
      have hrecorded : ∀ u ∈ z'.graph.symbols, ∀ p ∈ u.parameters,
          (∃ w ∈ x.graph.symbols, w.id = u.id ∧ p ∈ w.parameters) ∨
            s.function = some u.id ∧
              ∃ t' ∈ done ++ [t], ∃ name ∈ t'.parameterName?, z'.Declared s.scope name p := by
        intro u hu p hp
        refine (hbefore.recorded u hu p hp).imp_right ?_
        rintro ⟨hfunction, t', ht', hrest⟩
        exact ⟨hfunction, t', hdone ht', hrest⟩
      -- Parameters that are listed stay listed, and the new one is.
      have hlisted : ∀ t' ∈ done ++ [t], ∀ name' ∈ t'.parameterName?,
          ∃ id', z'.Declared s.scope name' id' ∧
            (receiver = some id' ∨ (name', id') ∈ z'.parameters ++ [(name, id)]) := by
        intro t' ht' name' hname'
        rcases List.mem_append.1 ht' with ht' | ht'
        · obtain ⟨id', hid', hkind⟩ := hbefore.declared t' ht' name' hname'
          exact ⟨id', hid', hkind.imp_right fun hmem => List.mem_append_left _ hmem⟩
        · obtain rfl := List.mem_singleton.1 ht'
          obtain rfl := Option.some.inj (hname.symm.trans hname')
          exact ⟨id, hbound, .inr (List.mem_append_right _ (List.mem_singleton_self _))⟩
      split
      · obtain rfl := hfirst rfl
        have hupdated := Carries.of_imprint (z'.updateSymbol_imprint id
          (f := fun p => { p with isSynthesized := true }) fun _ => rfl)
        refine ⟨hbefore.functions, hbefore.parameters, hbefore.index, ?_, fun u hu p hp => ?_⟩
        · intro t' ht' name' hname'
          obtain rfl := List.mem_singleton.1 ht'
          obtain rfl := Option.some.inj (hname.symm.trans hname')
          exact ⟨id, hbound, .inl rfl⟩
        · obtain ⟨w, hw, hid, hp⟩ := hupdated.mem_parameters hu hp
          exact hid ▸ hrecorded w hw p hp
      · split
        · next f hf =>
            refine ⟨hbefore.functions, List.Subset.trans hbefore.parameters
              (List.subset_append_left _ _), hbefore.index, hlisted, fun u hu p hp => ?_⟩
            obtain ⟨w, hw, rfl⟩ := List.mem_map.1 hu
            by_cases hid : w.id = f
            · rw [if_pos hid] at hp ⊢
              rcases List.mem_append.1 hp with hp | hp
              · exact hrecorded w hw p hp
              · obtain rfl := List.mem_singleton.1 hp
                exact .inr ⟨hf.trans (congrArg some hid.symm), t, hlast, name, hname, hbound⟩
            · rw [if_neg hid] at hp ⊢
              exact hrecorded w hw p hp
        · exact ⟨hbefore.functions, List.Subset.trans hbefore.parameters
            (List.subset_append_left _ _), hbefore.index, hlisted, hrecorded⟩
  · next hlabel =>
      have hnone : t.parameterName? = none := by
        unfold parameterName?
        split
        · next heq => exact (hlabel _ _ _ heq).elim
        · rfl
      refine ⟨h.functions, h.parameters, h.index, fun t' ht' name hname => ?_,
        fun u hu p hp => (h.recorded u hu p hp).imp_right ?_⟩
      · rcases List.mem_append.1 ht' with ht' | ht'
        · exact h.declared t' ht' name hname
        · obtain rfl := List.mem_singleton.1 ht'
          rw [hnone] at hname
          cases hname
      · rintro ⟨hfunction, t', ht', hrest⟩
        exact ⟨hfunction, t', hdone ht', hrest⟩

/-- All parameters are declared, one after another. -/
theorem Signing.foldl {s : Signature} : ∀ (ts done : List Tree)
    {state : Extraction × Option SymbolId}, Signing s x done state →
    Signing s x (done ++ ts)
      ((ts.zipIdx done.length).foldl (Extraction.declareParameter s) state)
  | [], done, state, h => by
      rw [List.append_nil]
      exact h
  | t :: ts, done, state, h => by
      have hstep := h.declareParameter t (n := done.length) List.length_eq_zero_iff.1
      have hrest := Signing.foldl ts (done ++ [t]) hstep
      rw [List.append_assoc, List.singleton_append, List.length_append, List.length_singleton]
        at hrest
      exact hrest

/-- A function whose parameters are declared is noted. -/
theorem Signing.signatures (h : Signatures x) {s : Signature} {z : Extraction}
    {receiver : Option SymbolId} {f : FunctionFact}
    (hsigned : Signing s x (f.node.all .parameter) (z, receiver)) (hscope : f.bodyScope = s.scope)
    (hreceiver : f.receiver = receiver) (hsymbol : ∀ id, s.function = some id → f.symbol = id) :
    Signatures { z with functions := z.functions ++ [f] } where
  declared g hg t ht name hname := by
    rcases List.mem_append.1 hg with hg | hg
    · obtain ⟨id, hid, hkind⟩ := h.declared g (hsigned.functions ▸ hg) t ht name hname
      exact ⟨id, hsigned.index hid, hkind.imp_right fun hmem => hsigned.parameters hmem⟩
    · obtain rfl := List.mem_singleton.1 hg
      rw [hreceiver, hscope]
      exact hsigned.declared t ht name hname
  recorded u hu p hp := by
    rcases hsigned.recorded u hu p hp with ⟨w, hw, hid, hp⟩ | ⟨hfunction, t, ht, name, hname, hp⟩
    · obtain ⟨g, hg, hgsymbol, other, hother, hdeclared⟩ := h.recorded w hw p hp
      exact ⟨g, List.mem_append_left _ (hsigned.functions ▸ hg), hgsymbol.trans hid, other, hother,
        hsigned.index hdeclared⟩
    · exact ⟨f, List.mem_append_right _ (List.mem_singleton_self f), hsymbol _ hfunction, name,
        ⟨t, ht, hname⟩, hscope ▸ hp⟩

/-- A function without a symbol is not noted. -/
theorem Signing.signatures_of_none (h : Signatures x) {s : Signature} {ts : List Tree}
    {z : Extraction} {receiver : Option SymbolId} (hsigned : Signing s x ts (z, receiver))
    (hnone : s.function = none) : Signatures z where
  declared f hf t ht name hname := by
    obtain ⟨id, hid, hkind⟩ := h.declared f (hsigned.functions ▸ hf) t ht name hname
    exact ⟨id, hsigned.index hid, hkind.imp_right fun hmem => hsigned.parameters hmem⟩
  recorded u hu p hp := by
    rcases hsigned.recorded u hu p hp with ⟨w, hw, hid, hp⟩ | ⟨hfunction, -⟩
    · obtain ⟨f, hf, hsymbol, name, hname, hdeclared⟩ := h.recorded w hw p hp
      exact ⟨f, hsigned.functions ▸ hf, hsymbol.trans hid, name, hname, hsigned.index hdeclared⟩
    · rw [hnone] at hfunction
      cases hfunction

theorem Signatures.declareParameters (h : Signatures x) (m : SourceModule) (parent scope : ScopeId)
    {node : Tree} {owner : Option SymbolId} (howner : node.isFunction = true ∨ owner = none) :
    Signatures (x.declareParameters m parent scope node owner) := by
  have hsigned : ∀ receiverType function, Signing ⟨m, scope, receiverType, function⟩ x
      (node.all .parameter) ((node.all .parameter).zipIdx.foldl
        (Extraction.declareParameter ⟨m, scope, receiverType, function⟩) (x, none)) :=
    fun receiverType function => Signing.foldl (node.all .parameter) []
      ⟨rfl, List.Subset.refl _, List.Subset.refl _, by simp, fun u hu p hp => .inl ⟨u, hu, rfl, hp⟩⟩
  have htyped : ∀ (z : Extraction) (id : SymbolId) (types : List String),
      Carries z (z.updateSymbol id fun s => { s with parameterTypes := types }) :=
    fun z id _ => Carries.of_imprint (z.updateSymbol_imprint id fun _ => rfl)
  cases owner with
  | none => exact Signing.signatures_of_none h (hsigned _ none) rfl
  | some id =>
      have hnode := howner.resolve_right (by simp)
      unfold Extraction.declareParameters
      dsimp only
      rw [if_pos hnode]
      generalize hfunction : (((some id).bind x.graph.symbol?).bind fun s =>
        if s.parameters.isEmpty && (s.declaration.map (·.line)) = some node.line then some s.id
        else none) = function
      -- The symbol that gets the parameters is the owner.
      have hsymbol : ∀ f, function = some f → id = f := by
        rintro f rfl
        obtain ⟨s, hs, hf⟩ := Option.bind_eq_some_iff.1 hfunction
        have hsid : s.id = id := by simpa using List.find?_some hs
        split at hf
        · exact hsid.symm.trans (Option.some.inj hf)
        · cases hf
      cases function with
      | none => exact Signing.signatures h (hsigned _ none) rfl rfl hsymbol
      | some f =>
          exact Signing.signatures h ((hsigned _ (some f)).carry (htyped ..) rfl) rfl rfl hsymbol

theorem declareVisit_owned (d : Declaring) {state : Extraction × List NestedScope} (v : Visit)
    (h : ∀ n ∈ state.2, n.Owned) : ∀ n ∈ (declareVisit d state v).2, n.Owned := by
  have hadd : ∀ {n : NestedScope}, n.Owned → ∀ k ∈ state.2 ++ [n], k.Owned := by
    intro n hn k hk
    rcases List.mem_append.1 hk with hk | hk
    · exact h k hk
    · exact List.mem_singleton.1 hk ▸ hn
  unfold declareVisit
  dsimp only
  split
  case h_1 heq => exact hadd fun hlambda => by rw [heq] at hlambda; cases hlambda
  case h_2 heq => exact hadd fun hlambda => by rw [heq] at hlambda; cases hlambda
  case h_3 => exact hadd fun _ => rfl
  case h_4 => exact hadd fun _ => rfl
  case h_14 =>
    split
    · split <;> exact h
    · exact h
  all_goals exact h

theorem declareRegion_owned (r : Region) : ∀ n ∈ (x.declareRegion r).2, n.Owned :=
  keep_foldl (fun state : Extraction × List NestedScope => ∀ n ∈ state.2, n.Owned)
    (fun _ v h => declareVisit_owned _ v h) _ (by simp)

theorem Signatures.openScope (h : Signatures x) (m : SourceModule) (parent : ScopeId)
    {n : NestedScope} (hn : n.Owned) : Signatures (x.openScope m parent n).1 := by
  have hopened : Signatures (x.opened m parent n).2 :=
    h.carry_facts (Carries.of_imprint (x.opened_imprint m parent n)) (x.opened_facts m parent n)
  rw [openScope_eq_furnish]
  unfold furnish
  dsimp only
  split
  · exact ⟨hopened.declared, hopened.recorded⟩
  · next heq => exact hopened.declareParameters m parent _ (.inl (by simp [isFunction, heq]))
  · next heq => exact hopened.declareParameters m parent _ (.inr (hn heq))
  · exact hopened

theorem Signatures.openScopes (m : SourceModule) (parent : ScopeId) : ∀ {ns : List NestedScope}
    {x : Extraction}, Signatures x → (∀ n ∈ ns, n.Owned) →
    Signatures (openScopes m parent ns x).1
  | [], _, h, _ => h
  | n :: ns, x, h, hns => by
      have hrest := Signatures.openScopes m parent 
        (h.openScope m parent (hns n List.mem_cons_self))
        fun k hk => hns k (List.mem_cons_of_mem _ hk)
      exact hrest

theorem Signatures.round (h : Signatures x) (r : Region) : Signatures (x.round r).1 := by
  have hregion : Signatures { x with regions := x.regions ++ [r] } := ⟨h.declared, h.recorded⟩
  have hdeclared := hregion.carry_facts (declareRegion_traces _ r).2 (declareRegion_facts _ r)
  exact hdeclared.openScopes r.module r.scope (declareRegion_owned r)

theorem Signatures.declareRegions : ∀ (rounds : Nat) (queue : List Region) {x : Extraction},
    Signatures x → Signatures (declareRegions rounds queue x)
  | 0, _, _, h => h
  | _ + 1, [], _, h => h
  | rounds + 1, r :: queue, x, h => by
      rw [declareRegions_succ_cons]
      exact Signatures.declareRegions rounds _ (h.round r)

variable {ms : List SourceModule}

/-- **Parameters of the functions of a program are declared, and those that a symbol has are
parameters of a definition of it.** -/
theorem Gathered.signatures (h : Gathered ms x) : Signatures x := by
  induction h with
  | nil => exact ⟨by simp, by simp⟩
  | @add ms m x y _ hadd ih =>
      obtain ⟨-, g, hscope, rfl⟩ := addRead_eq_ok hadd
      obtain ⟨-, rfl⟩ := Graph.addScope_eq_ok hscope
      exact Signatures.declareRegions _ _ ⟨ih.declared, ih.recorded⟩

/-! ## What was declared is carried on -/

theorem withImports_carries (x : Extraction) : Carries x x.withImports := by
  obtain ⟨-, hcarries⟩ := withImports_induction (motive := fun y _ => Carries x y)
    (fun hlink h => h.trans (linkImport_traces _ hlink).2) (Carries.of_imprint rfl)
  exact hcarries

theorem withFields_carries (x : Extraction) : Carries x x.withFields := by
  have hbases := x.withImports_carries.trans (Carries.of_imprint x.withBases_imprint)
  refine keep_foldl (Carries x) (fun y c hy => ?_) _ hbases
  refine keep_foldl (Carries x) (fun z f hz => ?_) _ hy
  unfold declareMethodFields
  split
  · exact keep_foldl (Carries x) (fun u t hu => hu.trans (u.declareField_traces c _ t).2) _ hz
  · exact hz

/-- A state in which the uses of a program are being recorded. -/
structure Walking (x y : Extraction) : Prop where
  settled : y.settled = x.withOverrides.settled
  carries : Carries x y

theorem walking_withOverrides (x : Extraction) : Walking x x.withOverrides :=
  ⟨rfl, x.withFields_carries.trans (linkOverrides_traces _).2⟩

theorem Walking.visit (h : Walking x y) (m : SourceModule) (scope : ScopeId) (v : Visit) :
    Walking x (visit m scope y v) :=
  ⟨(y.visit_settled m scope v).trans h.settled, h.carries.trans (y.visit_traces m scope v).2⟩

theorem Walking.collectRegion (h : Walking x y) (r : Region) : Walking x (y.collectRegion r) :=
  keep_foldl (Walking x) (fun _ v hz => hz.visit r.module r.scope v) _ h

/-! ## Parameters that are noted by name -/

variable (x)

theorem markAllDynamic_dynamicParameters (ids : List SymbolId) :
    (x.markAllDynamic ids).dynamicParameters = x.dynamicParameters :=
  proj_foldl (f := markDynamic) dynamicParameters (fun _ _ => rfl) ids x

theorem addReference_dynamicParameters (m : SourceModule) (id : SymbolId) (span : Option Span)
    (scope : Option ScopeId) (binds : Bool) :
    (x.addReference m id span scope binds).dynamicParameters = x.dynamicParameters := by
  unfold addReference
  split
  · split <;> rfl
  · split <;> rfl

theorem visitName_dynamicParameters (m : SourceModule) (scope : ScopeId) (t : Tree) (id : String)
    (context : Context) (inText : Bool) :
    (x.visitName m scope t id context inText).dynamicParameters = x.dynamicParameters := by
  unfold visitName
  split
  · split <;> rfl
  · dsimp only
    split
    · rfl
    · split
      · rfl
      · split <;> exact addReference_dynamicParameters ..

theorem visitAttribute_dynamicParameters (m : SourceModule) (scope : ScopeId) (t : Tree)
    (name : String) :
    (x.visitAttribute m scope t name).dynamicParameters = x.dynamicParameters := by
  unfold visitAttribute
  split
  · exact addReference_dynamicParameters ..
  · rfl
  · rfl

theorem visitKeyword_dynamicParameters (m : SourceModule) (parameters : Option (List SymbolId))
    (keyword : Tree) :
    x.dynamicParameters ⊆ (visitKeyword m parameters x keyword).dynamicParameters := by
  unfold visitKeyword
  split
  · rw [markAllDynamic_dynamicParameters]
    exact List.Subset.refl _
  · split
    · rw [addReference_dynamicParameters]
      exact List.Subset.refl _
    · exact List.subset_cons_self _ _
  · exact List.Subset.refl _

theorem visitDynamicCall_dynamicParameters (scope : ScopeId) (call function : Tree) :
    (x.visitDynamicCall scope call function).dynamicParameters = x.dynamicParameters := by
  unfold visitDynamicCall
  split
  · split <;> rfl
  · rfl

theorem visitCall_dynamicParameters (m : SourceModule) (scope : ScopeId) (call : Tree) :
    x.dynamicParameters ⊆ (x.visitCall m scope call).dynamicParameters := by
  unfold visitCall
  split
  · exact List.Subset.refl _
  · next function _ =>
      rw [← x.visitDynamicCall_dynamicParameters scope call function]
      dsimp only
      split
      · exact List.Subset.refl _
      · refine keep_foldl (fun y : Extraction => _ ⊆ y.dynamicParameters) (fun y k hy => ?_) _
          (List.Subset.refl _)
        exact List.Subset.trans hy (y.visitKeyword_dynamicParameters ..)

theorem visitDeclared_dynamicParameters (m : SourceModule) (scope : ScopeId) (t : Tree)
    (keyword : String) (symbolOf : Extraction → String → Option SymbolId) (name : String) :
    (visitDeclared m scope t keyword symbolOf x name).dynamicParameters = x.dynamicParameters := by
  unfold visitDeclared
  split
  · rfl
  · exact addReference_dynamicParameters ..

/-- A name once noted stays noted. -/
theorem visit_dynamicParameters (m : SourceModule) (scope : ScopeId) (v : Visit) :
    x.dynamicParameters ⊆ (visit m scope x v).dynamicParameters := by
  unfold visit
  dsimp only
  split
  · rw [visitName_dynamicParameters]
    exact List.Subset.refl _
  · rw [visitAttribute_dynamicParameters]
    exact List.Subset.refl _
  · exact x.visitCall_dynamicParameters ..
  · rw [proj_foldl dynamicParameters fun y n => y.visitDeclared_dynamicParameters ..]
    exact List.Subset.refl _
  · rw [proj_foldl dynamicParameters fun y n => y.visitDeclared_dynamicParameters ..]
    exact List.Subset.refl _
  all_goals exact List.Subset.refl _

/-! ## Keywords of calls -/

theorem callTarget?_outline (scope : ScopeId) (function : Tree) :
    x.outline.callTarget? scope function = x.callTarget? scope function := by
  unfold callTarget?
  rw [resolveAttribute_outline, resolveExpr_outline]

variable {x}

/-- What is declared stands in the graph of the resolved program, under its name. -/
theorem Gathered.exists_declared (h : Gathered ms x) (hms : ∀ m ∈ ms, Legible m) {scope : ScopeId}
    {name : String} {id : SymbolId} (hdeclared : x.Declared scope name id) :
    ∃ s ∈ x.resolve.graph.symbols, s.id = id ∧ s.declaredName = name := by
  obtain ⟨t, ht, hid, -, hname⟩ :=
    (h.registered_withFields hms).indexed _ (x.withFields_carries.1 hdeclared)
  obtain ⟨extra, hsymbols, -⟩ := (h.beside_resolve hms).symbols
  have houtline : t.outline ∈ x.resolve.graph.symbols.map Symbol.outline := by
    rw [hsymbols]
    exact List.mem_append_left _ (List.mem_map_of_mem ht)
  obtain ⟨s, hs, hst⟩ := List.mem_map.1 houtline
  exact ⟨s, hs, (Symbol.id_of_outline hst).trans hid,
    (Symbol.declaredName_of_outline hst).trans hname⟩

/-- A keyword is accounted for: the name is noted for all parameters, or a parameter of that name,
of a definition of the function, is marked at the place of the keyword. -/
def Fed (x : Extraction) (f : SymbolId) (name : String) (span : Span) (y : Extraction) : Prop :=
  name ∈ y.dynamicParameters ∨
    ∃ d ∈ x.functions, d.symbol = f ∧ ∃ p, d.HasParameter x name p ∧ (span, p) ∈ y.marks

theorem Fed.mono {f : SymbolId} {name : String} {span : Span} {z : Extraction}
    (h : Fed x f name span y) (hnames : y.dynamicParameters ⊆ z.dynamicParameters)
    (hmarks : y.marks ⊆ z.marks) : Fed x f name span z := by
  refine h.imp (fun hname => hnames hname) ?_
  rintro ⟨d, hd, hsymbol, p, hp, hmark⟩
  exact ⟨d, hd, hsymbol, p, hp, hmarks hmark⟩

theorem Fed.visit {f : SymbolId} {name : String} {span : Span} (h : Fed x f name span y)
    (m : SourceModule) (scope : ScopeId) (v : Visit) : Fed x f name span (visit m scope y v) :=
  h.mono (y.visit_dynamicParameters ..) (y.visit_traces m scope v).1.1

/-- The parameters that a call may name are parameters of definitions of the function called. -/
theorem Walking.hasParameter (h : Gathered ms x) (hy : Walking x y) {f : SymbolId}
    (hmethod : ∀ s ∈ y.graph.symbols, s.id = f → s.kind = .method) {p : SymbolId}
    (hp : p ∈ (y.callParameters? f).getD []) :
    ∃ d ∈ x.functions, d.symbol = f ∧ ∃ name, d.HasParameter x name p := by
  unfold callParameters? at hp
  split at hp
  · cases hp
  · next s hs =>
      have hsmem : s ∈ y.graph.symbols := List.mem_of_find?_eq_some hs
      have hsid : s.id = f := by simpa using List.find?_some hs
      rw [hmethod s hsmem hsid] at hp
      obtain ⟨w, hw, hid, hp⟩ := hy.carries.mem_parameters hsmem hp
      obtain ⟨d, hd, hsymbol, hname⟩ := h.signatures.recorded w hw p hp
      exact ⟨d, hd, hsymbol.trans (hid.trans hsid), hname⟩

theorem Walking.outline_eq (h : Gathered ms x) (hy : Walking x y) :
    y.outline = x.resolve.outline :=
  (outline_eq_of_settled hy.settled).trans (resolve_outline h.resolved_eq).symm

/-- One keyword of a call is accounted for. -/
theorem Walking.visitKeyword_fed (h : Gathered ms x) (hms : ∀ m ∈ ms, Legible m)
    (hy : Walking x y) {m : SourceModule} (heditable : m.editable = true) {f : SymbolId}
    {parameters : Option (List SymbolId)}
    (hparameters : ∀ p ∈ parameters.getD [], ∃ d ∈ x.functions, d.symbol = f ∧
      ∃ name, d.HasParameter x name p)
    {keyword : Tree} {name : String} (hname : keyword.label = .keyword (some name)) {span : Span}
    (hspan : m.headSpan? keyword name = some span) :
    Fed x f name span (visitKeyword m parameters y keyword) := by
  unfold visitKeyword
  rw [hname]
  dsimp only
  split
  · next p hfound =>
      right
      obtain ⟨id, hid, hsymbol⟩ := List.mem_filterMap.1 (List.mem_of_find?_eq_some hfound)
      have hpmem : p ∈ y.graph.symbols := List.mem_of_find?_eq_some hsymbol
      obtain rfl : p.id = id := by simpa using List.find?_some hsymbol
      have hpname : p.declaredName = name := by simpa using List.find?_some hfound
      obtain ⟨d, hd, hdsymbol, other, hother⟩ := hparameters p.id hid
      -- The parameter was declared under its name.
      obtain ⟨u, hu, hup⟩ := exists_of_outline_eq
        (congrArg Extraction.graph (hy.outline_eq h) :) hpmem
      obtain ⟨w, hw, hwid, hwname⟩ := h.exists_declared hms hother.2
      obtain rfl := (h.wellFormed_resolve hms).symbol_ext hw hu
        (hwid.trans (Symbol.id_of_outline hup).symm)
      obtain rfl : other = name :=
        hwname.symm.trans ((Symbol.declaredName_of_outline hup).trans hpname)
      refine ⟨d, hd, hdsymbol, p.id, hother, ?_⟩
      rw [hspan, addReference, if_neg (by simp [heditable])]
      exact y.mem_marks_addReference.2 (.inr ⟨rfl, Graph.mem_symbolIds.2 ⟨p, hpmem, rfl⟩⟩)
  · exact .inl List.mem_cons_self

theorem Walking.visitDynamicCall (hy : Walking x y) (scope : ScopeId) (call function : Tree) :
    Walking x (y.visitDynamicCall scope call function) :=
  ⟨(y.visitDynamicCall_settled scope call function).trans hy.settled,
    hy.carries.trans (Carries.of_imprint (y.visitDynamicCall_imprint scope call function))⟩

theorem Walking.visitKeyword (hy : Walking x y) (m : SourceModule)
    (parameters : Option (List SymbolId)) (keyword : Tree) :
    Walking x (visitKeyword m parameters y keyword) :=
  ⟨(y.visitKeyword_settled m parameters keyword).trans hy.settled,
    hy.carries.trans (y.visitKeyword_traces m parameters keyword).2⟩

/-- The call finds the same function whenever it is met. -/
theorem Walking.callTarget?_eq (h : Gathered ms x) (hy : Walking x y) (scope : ScopeId)
    (function : Tree) : y.callTarget? scope function = x.resolve.callTarget? scope function := by
  rw [← callTarget?_outline, hy.outline_eq h, callTarget?_outline]

/-- The keywords of a call are accounted for. -/
theorem Walking.visitCall_fed (h : Gathered ms x) (hms : ∀ m ∈ ms, Legible m) (hy : Walking x y)
    {m : SourceModule} (heditable : m.editable = true) {scope : ScopeId} {f : Symbol}
    (hf : f ∈ x.resolve.graph.symbols) (hmethod : f.kind = .method) {call function : Tree}
    (hfunction : call.get? .function = some function)
    (htarget : x.resolve.callTarget? scope function = some f.id) {keyword : Tree}
    (hkeyword : keyword ∈ call.all .keyword) {name : String}
    (hname : keyword.label = .keyword (some name)) {span : Span}
    (hspan : m.headSpan? keyword name = some span) :
    Fed x f.id name span (y.visitCall m scope call) := by
  have hstart := hy.visitDynamicCall scope call function
  have hkind : ∀ s ∈ (y.visitDynamicCall scope call function).graph.symbols, s.id = f.id →
      s.kind = .method := by
    intro s hs hid
    obtain ⟨u, hu, hus⟩ := exists_of_outline_eq
      (congrArg Extraction.graph (hstart.outline_eq h) :) hs
    obtain rfl := (h.wellFormed_resolve hms).symbol_ext hu hf ((Symbol.id_of_outline hus).trans hid)
    exact (Symbol.kind_of_outline hus).symm.trans hmethod
  have hparameters : ∀ p ∈ (((y.visitDynamicCall scope call function).callTarget? scope
      function).bind (y.visitDynamicCall scope call function).callParameters?).getD [],
      ∃ d ∈ x.functions, d.symbol = f.id ∧ ∃ name, d.HasParameter x name p := by
    rw [hstart.callTarget?_eq h, htarget]
    exact fun p hp => hstart.hasParameter h hkind hp
  unfold Extraction.visitCall
  rw [hfunction]
  dsimp only
  split
  · next hnone =>
      rw [hnone] at hkeyword
      cases hkeyword
  · refine foldl_of_step (Walking x) (Fed x f.id name span) (fun z k hz => ?_) (fun z hz => ?_)
      (fun z k _ hz => hz.visitKeyword m _ k) hstart hkeyword
    · exact hz.mono (z.visitKeyword_dynamicParameters m _ k) (z.visitKeyword_traces m _ k).1.1
    · exact hz.visitKeyword_fed h hms heditable hparameters hname hspan

/-- A call that is read in a region passes a keyword to what it calls. -/
def Passes (x : Extraction) (r : Region) (f : SymbolId) (name : String) (span : Span) : Prop :=
  ∃ call ∈ r.read, call.label = .call ∧
    ∃ function ∈ call.get? .function, x.callTarget? r.scope function = some f ∧
      ∃ keyword ∈ call.all .keyword, keyword.label = .keyword (some name) ∧
        r.module.headSpan? keyword name = some span

instance (x : Extraction) (r : Region) (f : SymbolId) (name : String) (span : Span) :
    Decidable (Passes x r f name span) :=
  inferInstanceAs (Decidable (∃ call ∈ r.read, call.label = .call ∧
    ∃ function ∈ call.get? .function, x.callTarget? r.scope function = some f ∧
      ∃ keyword ∈ call.all .keyword, keyword.label = .keyword (some name) ∧
        r.module.headSpan? keyword name = some span))

/-- **Every keyword that is passed to a function of the program is accounted for.** -/
theorem Gathered.fed_withUses (h : Gathered ms x) (hms : ∀ m ∈ ms, Legible m) {r : Region}
    (hr : r ∈ x.regions) (heditable : r.module.editable = true) {f : Symbol}
    (hf : f ∈ x.resolve.graph.symbols) (hmethod : f.kind = .method) {name : String} {span : Span}
    (hpasses : Passes x.resolve r f.id name span) : Fed x f.id name span x.withUses := by
  obtain ⟨call, hcall, hlabel, function, hfunction, htarget, keyword, hkeyword, hname, hspan⟩ :=
    hpasses
  have hregions : x.withOverrides.regions = x.regions :=
    (congrArg Extraction.regions x.withOverrides_notes :)
  have hmet : call ∈ (walkAll r.inText (undocumented r.roots)).map (·.node) := by
    rw [map_node_walkAll]
    exact hcall
  obtain ⟨v, hv, rfl⟩ := List.mem_map.1 hmet
  have hvisit : ∀ y, Walking x y → Fed x f.id name span (visit r.module r.scope y v) := by
    intro y hy
    unfold visit
    simp only [hlabel]
    exact hy.visitCall_fed h hms heditable hf hmethod hfunction htarget hkeyword hname hspan
  refine foldl_of_step (Walking x) (Fed x f.id name span) (fun y q hy => ?_) (fun y hy => ?_)
    (fun y q _ hy => hy.collectRegion q) x.walking_withOverrides (hregions ▸ hr)
  · exact keep_foldl (Fed x f.id name span) (fun _ v hz => hz.visit q.module q.scope v) _ hy
  · exact foldl_of_step (Walking x) (Fed x f.id name span) (fun _ u hz => hz.visit r.module r.scope u)
      hvisit (fun _ u _ hz => hz.visit r.module r.scope u) hy hv

/-! ## Marks are kept -/

/-- No symbol is added, and none loses its places or the mark that it can be looked up. -/
def Marked (x y : Extraction) : Prop :=
  ∀ t ∈ y.graph.symbols, ∃ s ∈ x.graph.symbols, s.id = t.id ∧ t.spans = s.spans ∧
    (s.isDynamic = true → t.isDynamic = true)

theorem Marked.refl (x : Extraction) : Marked x x := fun t ht => ⟨t, ht, rfl, rfl, id⟩

theorem Marked.trans {z : Extraction} (h : Marked x y) (h' : Marked y z) : Marked x z := by
  intro u hu
  obtain ⟨t, ht, hid', hspans', hdynamic'⟩ := h' u hu
  obtain ⟨s, hs, hid, hspans, hdynamic⟩ := h t ht
  exact ⟨s, hs, hid.trans hid', hspans'.trans hspans, fun hmark => hdynamic' (hdynamic hmark)⟩

theorem Marked.of_map {f : Symbol → Symbol} (hsymbols : y.graph.symbols = x.graph.symbols.map f)
    (hf : ∀ s, (f s).id = s.id ∧ (f s).spans = s.spans ∧
      (s.isDynamic = true → (f s).isDynamic = true)) : Marked x y := by
  intro t ht
  rw [hsymbols] at ht
  obtain ⟨s, hs, rfl⟩ := List.mem_map.1 ht
  exact ⟨s, hs, (hf s).1.symm, (hf s).2⟩

theorem Marked.updateSymbol (x : Extraction) (id : SymbolId) {f : Symbol → Symbol}
    (hf : ∀ s, (f s).id = s.id ∧ (f s).spans = s.spans ∧
      (s.isDynamic = true → (f s).isDynamic = true)) : Marked x (x.updateSymbol id f) := by
  refine .of_map (f := fun s => if s.id = id then f s else s) rfl fun s => ?_
  split
  · exact hf s
  · exact ⟨rfl, rfl, fun hmark => hmark⟩

theorem Marked.foldl {α : Type} {f : Extraction → α → Extraction} (h : ∀ y a, Marked y (f y a))
    (as : List α) (x : Extraction) : Marked x (as.foldl f x) :=
  keep_foldl (Marked x) (fun y a hy => hy.trans (h y a)) as (Marked.refl x)

theorem markAllDynamic_marked (x : Extraction) (ids : List SymbolId) :
    Marked x (x.markAllDynamic ids) :=
  Marked.foldl (f := markDynamic)
    (fun y id => Marked.updateSymbol y id fun _ => ⟨rfl, rfl, fun _ => rfl⟩) ids x

/-- Symbols that are marked one after another are marked in the end. -/
theorem isDynamic_of_markAllDynamic {ids : List SymbolId} {id : SymbolId} (hid : id ∈ ids) :
    ∀ s ∈ (x.markAllDynamic ids).graph.symbols, s.id = id → s.isDynamic = true := by
  refine foldl_of_step (fun _ => True)
    (fun y : Extraction => ∀ s ∈ y.graph.symbols, s.id = id → s.isDynamic = true)
    (fun y i hy s hs hsid => ?_) (fun y _ s hs hsid => ?_) (fun _ _ _ _ => trivial) trivial hid
  · obtain ⟨t, ht, htid, -, hkeep⟩ := y.markAllDynamic_marked [i] s hs
    exact hkeep (hy t ht (htid.trans hsid))
  · obtain ⟨t, -, rfl⟩ := List.mem_map.1 hs
    split
    · rfl
    · next hother =>
        rw [if_neg hother] at hsid
        exact absurd hsid hother

/-- Parameters of names that were noted are marked. -/
theorem isDynamic_of_markDynamicSymbols {name : String} {id : SymbolId}
    (hname : name ∈ x.dynamicParameters) (hid : (name, id) ∈ x.parameters) :
    ∀ s ∈ x.markDynamicSymbols.graph.symbols, s.id = id → s.isDynamic = true := by
  intro s hs hsid
  have hlisted : id ∈ (x.parameters.filter fun p => x.dynamicParameters.contains p.1).map (·.2) :=
    List.mem_map.2 ⟨(name, id), List.mem_filter.2 ⟨hid, by simpa using hname⟩, rfl⟩
  unfold markDynamicSymbols at hs
  obtain ⟨t, ht, htid, -, hkeep⟩ := ((Marked.foldl (fun y c => y.markAllDynamic_marked _) _ _).trans
    (Marked.foldl (fun y c => y.markAllDynamic_marked _) _ _)) s hs
  exact hkeep (isDynamic_of_markAllDynamic hlisted t ht (htid.trans hsid))

theorem findConstant_marked (x : Extraction) (item : SourceModule × String × Tree) :
    Marked x (x.findConstant item) := by
  unfold findConstant
  dsimp only
  split
  · exact .refl x
  · split
    · exact .refl x
    · split
      · split
        · exact .updateSymbol x _ fun _ => ⟨rfl, rfl, fun hmark => hmark⟩
        · exact .refl x
      · exact .refl x

theorem checkSpans_marked (x : Extraction) : Marked x x.checkSpans :=
  .of_map rfl fun _ => ⟨rfl, rfl, fun hmark => hmark⟩

theorem forgetRoots_marked (x : Extraction) : Marked x { x with graph := x.graph.forgetRoots } :=
  Marked.refl x

theorem resolve_marked (h : x.resolved = false) : Marked x.withMarks x.resolve := by
  have hconstants : Marked x.withMarks x.withConstants :=
    (checkSpans_marked _).trans (Marked.foldl findConstant_marked _ _)
  rw [resolve_eq h]
  exact hconstants.trans (forgetRoots_marked _)

/-- A place that was recorded stays recorded. -/
theorem Gathered.mem_spans_resolve (h : Gathered ms x) {span : Span} {s : Symbol}
    (hmark : (span, s.id) ∈ x.withUses.marks) (hs : s ∈ x.resolve.graph.symbols) :
    span ∈ s.spans := by
  have himprint : x.withMarks.imprint = x.withUses.imprint := markDynamicSymbols_imprint _
  have htidy : x.withMarks.Tidy := h.placed_withUses.1.of_imprint himprint
  have hmark : (span, s.id) ∈ x.withMarks.marks := by
    rw [marks, himprint]
    exact hmark
  obtain ⟨t, ht, htid, hspans, -⟩ := resolve_marked h.resolved_eq s hs
  obtain ⟨u, hu, huid, hspan⟩ := mem_marks.1 hmark
  obtain rfl := List.inj_on_of_nodup_map htidy.1 ht hu (htid.trans huid.symm)
  exact hspans ▸ hspan

/-- **Keywords follow parameters, for one definition of a function.** Let a call in a module that may
be changed pass a keyword to a function of the program. Then the parameter of that name of a
definition of the function is its receiver, or it can be looked up at run time, or it is used at the
place of the keyword, or the parameter of another definition of the function is. -/
theorem keyword_recorded (h : Gathered ms x) (hms : ∀ m ∈ ms, Legible m) {r : Region}
    (hr : r ∈ x.regions) (heditable : r.module.editable = true) {f : Symbol}
    (hf : f ∈ x.resolve.graph.symbols) (hmethod : f.kind = .method) {name : String} {span : Span}
    (hpasses : Passes x.resolve r f.id name span) :
    ∀ d ∈ x.functions, d.symbol = f.id →
      ∀ t ∈ d.node.all .parameter, t.parameterName? = some name →
      ∃ p ∈ x.resolve.graph.symbols, (∀ id, d.HasParameter x name id ↔ id = p.id) ∧
        (d.receiver = some p.id ∨ p.isDynamic = true ∨ span ∈ p.spans ∨
          ∃ e ∈ x.functions, e.symbol = f.id ∧ e.bodyScope ≠ d.bodyScope ∧
            ∃ q ∈ x.resolve.graph.symbols, e.HasParameter x name q.id ∧ span ∈ q.spans) := by
  intro d hd _ t ht hname
  obtain ⟨id, hdeclared, hkind⟩ := h.signatures.declared d hd t ht name hname
  obtain ⟨p, hp, rfl, -⟩ := h.exists_declared hms hdeclared
  refine ⟨p, hp, fun id => ⟨fun hid => h.declared_unique hms id p.id hid.2 hdeclared, ?_⟩, ?_⟩
  · rintro rfl
    exact ⟨⟨t, ht, hname⟩, hdeclared⟩
  refine hkind.imp_right fun hlisted => ?_
  rcases h.fed_withUses hms hr heditable hf hmethod hpasses with
    hnoted | ⟨e, he, hesymbol, id, hid, hmark⟩
  · -- No parameter was found: all of that name are marked.
    left
    have hparameters : x.withUses.parameters = x.parameters :=
      (congrArg parameters ((notes_eq_of_settled x.withUses_settled).trans x.withOverrides_notes) :)
    obtain ⟨s, hs, hsid, -, hkeep⟩ := resolve_marked h.resolved_eq p hp
    exact hkeep (isDynamic_of_markDynamicSymbols hnoted (hparameters ▸ hlisted) s hs hsid)
  · right
    obtain ⟨q, hq, rfl, -⟩ := h.exists_declared hms hid.2
    have hspan := h.mem_spans_resolve hmark hq
    by_cases hscope : e.bodyScope = d.bodyScope
    · left
      have hqp := h.declared_unique hms q.id p.id (hscope ▸ hid.2) hdeclared
      exact (h.wellFormed_resolve hms).symbol_ext hq hp hqp ▸ hspan
    · exact .inr ⟨e, he, hesymbol, hscope, q, hq, hid, hspan⟩

instance (x : Extraction) (f : FunctionFact) (name : String) (id : SymbolId) :
    Decidable (f.HasParameter x name id) :=
  inferInstanceAs (Decidable ((∃ t ∈ f.node.all .parameter, t.parameterName? = some name) ∧
    ((f.bodyScope, name), id) ∈ x.index))

/-- A method that calls another one with a keyword. -/
def tapText : String :=
  "class Tap:\n    def turn(self, by): pass\n    def open(self): self.turn(by=1)\n"

/-- The module with that method. -/
def tap : SourceModule where
  name := "taps"
  path := ⟨"", ["taps.py"]⟩
  source := tapText
  tree := (Module.parse? tapText).getD default

/-- The keyword in that module. -/
def tapKeyword : Span := ⟨tap.path, 3, 30, 32⟩

/-- The keyword is passed to the method, which has a parameter of its name. -/
theorem keyword_recorded_tap : ∃ x, Gathered [tap] x ∧ Legible tap ∧
    ∃ r ∈ x.regions, r.module.editable = true ∧
    ∃ f ∈ x.resolve.graph.symbols, f.kind = .method ∧ Passes x.resolve r f.id "by" tapKeyword ∧
    ∃ d ∈ x.functions, d.symbol = f.id ∧
    ∃ t ∈ d.node.all .parameter, t.parameterName? = some "by" ∧
      ∃ p ∈ x.resolve.graph.symbols, (∀ id, d.HasParameter x "by" id ↔ id = p.id) ∧
        (d.receiver = some p.id ∨ p.isDynamic = true ∨ tapKeyword ∈ p.spans ∨
          ∃ e ∈ x.functions, e.symbol = f.id ∧ e.bodyScope ≠ d.bodyScope ∧
            ∃ q ∈ x.resolve.graph.symbols, e.HasParameter x "by" q.id ∧ tapKeyword ∈ q.spans) := by
  have hlegible : Legible tap := by decide +kernel
  obtain ⟨x, hx, r, hr, heditable, f, hf, hmethod, hpasses, d, hd, hsymbol, t, ht, hname⟩ :
      ∃ x, Gathered [tap] x ∧ ∃ r ∈ x.regions, r.module.editable = true ∧
      ∃ f ∈ x.resolve.graph.symbols, f.kind = .method ∧ Passes x.resolve r f.id "by" tapKeyword ∧
      ∃ d ∈ x.functions, d.symbol = f.id ∧
        ∃ t ∈ d.node.all .parameter, t.parameterName? = some "by" :=
    exists_gathered (by decide +kernel)
  exact ⟨x, hx, hlegible, r, hr, heditable, f, hf, hmethod, hpasses, d, hd, hsymbol, t, ht, hname,
    keyword_recorded hx (fun m hm => List.mem_singleton.1 hm ▸ hlegible) hr heditable hf hmethod
      hpasses d hd hsymbol t ht hname⟩

/-- A function that is defined in both branches of a condition. -/
def valveText : String :=
  "if 1:\n    def turn(by): pass\nelse:\n    def turn(by): pass\nturn(by=1)\n"

/-- The module with that function. -/
def valve : SourceModule where
  name := "valves"
  path := ⟨"", ["valves.py"]⟩
  source := valveText
  tree := (Module.parse? valveText).getD default

/-- The keyword in that module. -/
def valveKeyword : Span := ⟨valve.path, 5, 5, 7⟩

set_option synthInstance.maxSize 256 in
/-- The parameter of one of the definitions is neither used at the keyword nor marked. -/
theorem not_keyword_recorded_valve : ∃ x, Gathered [valve] x ∧
    ∃ r ∈ x.regions, r.module.editable = true ∧
    ∃ f ∈ x.resolve.graph.symbols, f.kind = .method ∧
      Passes x.resolve r f.id "by" valveKeyword ∧
    ∃ d ∈ x.functions, d.symbol = f.id ∧
    ∃ p ∈ x.resolve.graph.symbols, d.HasParameter x "by" p.id ∧ d.receiver ≠ some p.id ∧
      p.isDynamic = false ∧ valveKeyword ∉ p.spans :=
  exists_gathered (by decide +kernel)

end Extraction

end Pseudonym
