import Pseudonym.Proofs.Renaming.Plan

/-!
# What an accepted plan rules out

One lemma for each check of a plan: the check reports nothing exactly when no symbol outside the
plan stands in the way it looks at. A plan without conflicts has passed all of them
(`Accepted.of_conflicts`); proofs about committed plans start from `Accepted`.
-/

namespace Pseudonym

/-! ## Where a symbol is bound and read -/

/-- What a fold collects is what its steps add. -/
theorem foldl_iff {α β : Type} {step : β → α → β} {Q : β → Prop} {P : α → Prop}
    (hstep : ∀ done a, Q (step done a) ↔ Q done ∨ P a) (xs : List α) (done : β) :
    Q (xs.foldl step done) ↔ Q done ∨ ∃ a ∈ xs, P a := by
  induction xs generalizing done with
  | nil => simp
  | cons x xs ih => rw [List.foldl_cons, ih, hstep, List.exists_mem_cons_iff, or_assoc]

/-- The scopes that bind a symbol are its own and those with a binding use. -/
theorem Symbol.mem_bindingScopes {s : Symbol} {c : ScopeId} :
    c ∈ s.bindingScopes ↔ s.scope = some c ∨ ∃ r ∈ s.references, r.binds ∧ r.scope = some c := by
  rw [← Option.mem_toList]
  refine foldl_iff (Q := (c ∈ ·)) (fun done r => ?_) s.references s.scope.toList
  cases r.scope with
  | none => simp
  | some d =>
      by_cases hb : r.binds ∧ d ∉ done
      · simp only [hb, not_false_eq_true, and_self, ↓reduceIte, List.mem_append,
          List.mem_singleton, true_and, Option.some.injEq]
        rw [eq_comm]
      · simp only [hb, ↓reduceIte, Option.some.injEq]
        have hdone : r.binds ∧ d = c → c ∈ done := by
          rintro ⟨hbinds, rfl⟩
          by_contra hnew
          exact hb ⟨hbinds, hnew⟩
        tauto

namespace Graph

/-- Every scope from which a symbol is read has its first reference. -/
theorem exists_mem_firstReferences {s : Symbol} {r : Reference} {c : ScopeId}
    (hr : r ∈ s.references) (hc : r.scope = some c) : ∃ q, (q, c) ∈ firstReferences s := by
  refine (foldl_iff (Q := fun done => ∃ q, (q, c) ∈ done) (P := (·.scope = some c))
    (fun done e => ?_) s.references []).2 (Or.inr ⟨r, hr, hc⟩)
  cases e.scope with
  | none => simp
  | some d =>
      dsimp only
      rw [Option.some.injEq]
      split
      · next hany =>
          obtain ⟨⟨q, d'⟩, hq, hd⟩ := List.any_eq_true.1 hany
          obtain rfl : d' = d := by simpa using hd
          refine ⟨Or.inl, ?_⟩
          rintro (h | rfl)
          · exact h
          · exact ⟨q, hq⟩
      · simp [exists_or, eq_comm]

variable {g : Graph} {overloading : Bool} {planned : List SymbolId} {s : Symbol} {name : String}

@[simp] theorem mayOverload_false (a b : Symbol) : mayOverload false a b = false := rfl

/-! ## The checks of one rename -/

theorem scopeConflicts_eq_nil : g.scopeConflicts overloading planned s name = [] ↔
    ∀ c, s.scope = some c → ∀ o ∈ g.membersOfScope c, o.name = name →
      o.id ∈ planned ∨ mayOverload overloading s o := by
  unfold scopeConflicts
  cases s.scope with
  | none => simp
  | some c =>
      simp only [List.filterMap_eq_nil_iff, Option.some.injEq, forall_eq']
      refine forall₂_congr fun o _ => ?_
      by_cases hname : o.name = name
      · by_cases hin : o.id ∈ planned <;> simp [hname, hin]
      · simp [hname]

theorem importConflicts_eq_nil : g.importConflicts planned s name = [] ↔
    ∀ c, s.scope = some c → ∀ o, g.lookup c name = some o →
      o.id ∈ planned ∨ o.scope = some c := by
  unfold importConflicts
  cases s.scope with
  | none => simp
  | some c =>
      simp only [Option.some.injEq, forall_eq']
      cases g.lookup c name with
      | none => simp
      | some o =>
          by_cases hin : o.id ∈ planned <;> simp [hin]

theorem referenceWithin?_eq_none {region : List ScopeId} : referenceWithin? region s = none ↔
    ∀ r ∈ s.references, ∀ c, r.scope = some c → c ∉ region := by
  simp only [referenceWithin?, List.find?_eq_none]
  refine forall₂_congr fun r _ => ?_
  cases r.scope <;> simp

/-- No unresolved read of the name lies in the region, and no symbol from outside it that has the
name is read there. -/
theorem capturesIn_eq_nil {region : List ScopeId} : g.capturesIn planned s name region = [] ↔
    (∀ id ∈ region, ∀ c, g.scope? id = some c → name ∉ c.unresolved) ∧
      ∀ o ∈ g.symbolsNamed name, o.id ∈ planned ∨ (∃ c ∈ region, o.scope = some c) ∨
        ∀ r ∈ o.references, ∀ c, r.scope = some c → c ∉ region := by
  simp only [capturesIn, List.append_eq_nil_iff, List.filterMap_eq_nil_iff]
  refine and_congr ?_ (forall₂_congr fun o _ => ?_)
  · have hfind : region.find? (fun id =>
        ((g.scope? id).map fun scope => scope.unresolved.contains name).getD false) = none ↔
        ∀ id ∈ region, ∀ c, g.scope? id = some c → name ∉ c.unresolved := by
      rw [List.find?_eq_none]
      refine forall₂_congr fun id _ => ?_
      cases g.scope? id <;> simp
    rw [← hfind]
    split
    · next id hid =>
        rw [hid]
        simp
    · next hnone =>
        rw [hnone]
        simp
  · have hinside : (o.scope.map region.contains).getD false = true ↔
        ∃ c ∈ region, o.scope = some c := by
      cases o.scope <;> simp
    rw [← referenceWithin?_eq_none, ← hinside]
    by_cases hin : o.id ∈ planned
    · simp [hin]
    · by_cases hreg : (o.scope.map region.contains).getD false = true
      · simp [hreg]
      · simp [hin, hreg]

theorem captureConflicts_eq_nil : g.captureConflicts planned s name = [] ↔
    ∀ c ∈ s.bindingScopes, g.capturesIn planned s name (g.visibleRegion c) = [] := by
  simp [captureConflicts]

theorem shadowConflicts_eq_nil (h : g.shadowConflicts planned s name = []) {r : Reference}
    (hr : r ∈ s.references) {start : ScopeId} (hstart : r.scope = some start) {c : Scope}
    (hc : c ∈ g.scopesBefore start s.scope) {o : Symbol} (ho : g.lookup c.id name = some o) :
    o.id ∈ planned := by
  obtain ⟨q, hq⟩ := exists_mem_firstReferences hr hstart
  simp only [shadowConflicts, List.filterMap_eq_nil_iff, List.findSome?_eq_none_iff] at h
  have hcheck := h _ hq c hc
  simp only [ho] at hcheck
  by_contra hout
  simp [hout] at hcheck

theorem hierarchyConflicts_eq_nil : g.hierarchyConflicts overloading planned s name = [] ↔
    ∀ owner, g.declaringType s = some owner →
      ∀ t ∈ g.allSupertypes owner.id ++ g.allSubtypes owner.id, ∀ m ∈ g.members t, m.name = name →
        m.id ∈ planned ∨ mayOverload overloading s m := by
  unfold hierarchyConflicts
  cases g.declaringType s with
  | none => simp
  | some owner =>
      simp only [List.flatMap_eq_nil_iff, List.filterMap_eq_nil_iff, Option.some.injEq, forall_eq']
      refine forall₂_congr fun t _ => forall₂_congr fun m _ => ?_
      by_cases hname : m.name = name
      · by_cases hin : m.id ∈ planned <;> simp [hname, hin]
      · simp [hname]

/-! ## Accepted plans -/

/-- The new name of a symbol meets no symbol outside the plan. -/
structure NameFree (g : Graph) (planned : List SymbolId) (s : Symbol) (name : String) : Prop where
  /-- No other member of its scope has the name. -/
  declared : ∀ c, s.scope = some c → ∀ o ∈ g.membersOfScope c, o.name = name → o.id ∈ planned
  /-- Its scope imports no other symbol of the name. -/
  imported : ∀ c, s.scope = some c → ∀ o, g.lookup c name = some o →
    o.id ∈ planned ∨ o.scope = some c
  /-- No unresolved read of the name sees the new binding. -/
  unresolved : ∀ c ∈ s.bindingScopes, ∀ id ∈ g.visibleRegion c, ∀ d, g.scope? id = some d →
    name ∉ d.unresolved
  /-- No read of another symbol of the name, declared elsewhere, sees the new binding. -/
  captured : ∀ c ∈ s.bindingScopes, ∀ o ∈ g.symbolsNamed name, o.id ∈ planned ∨
    (∃ d ∈ g.visibleRegion c, o.scope = some d) ∨
      ∀ r ∈ o.references, ∀ d, r.scope = some d → d ∉ g.visibleRegion c
  /-- No read of the symbol passes another symbol of the name. -/
  shadowed : ∀ r ∈ s.references, ∀ start, r.scope = some start →
    ∀ c ∈ g.scopesBefore start s.scope, ∀ o, g.lookup c.id name = some o → o.id ∈ planned
  /-- No member of a super- or subtype of its class has the name. -/
  inherited : ∀ owner, g.declaringType s = some owner →
    ∀ t ∈ g.allSupertypes owner.id ++ g.allSubtypes owner.id, ∀ m ∈ g.members t, m.name = name →
      m.id ∈ planned

/-- What holds of a plan that has no conflicts when methods may not share names. -/
def Accepted (g : Graph) (p : Plan) : Prop :=
  ∀ r ∈ p.entries, ∀ s, g.symbol? r.symbol = some s → g.NameFree p.symbols s r.name

theorem NameFree.of_renameConflicts {r : Rename} (h : g.renameConflicts false planned r = [])
    (hs : g.symbol? r.symbol = some s) : g.NameFree planned s r.name := by
  simp only [renameConflicts, hs, List.append_eq_nil_iff] at h
  obtain ⟨⟨⟨⟨⟨hscope, himport⟩, -⟩, hcapture⟩, hshadow⟩, hhierarchy⟩ := h
  have hregion : ∀ c ∈ s.bindingScopes, _ := fun c hc =>
    capturesIn_eq_nil.1 (captureConflicts_eq_nil.1 hcapture c hc)
  exact
    { declared := fun c hc o ho hname => by
        simpa using scopeConflicts_eq_nil.1 hscope c hc o ho hname
      imported := importConflicts_eq_nil.1 himport
      unresolved := fun c hc => (hregion c hc).1
      captured := fun c hc => (hregion c hc).2
      shadowed := fun _ hr _ hstart _ hc _ ho => shadowConflicts_eq_nil hshadow hr hstart hc ho
      inherited := fun owner howner t ht m hm hname => by
        simpa using hierarchyConflicts_eq_nil.1 hhierarchy owner howner t ht m hm hname }

theorem Accepted.of_conflicts {p : Plan} (h : g.conflicts false p = []) : g.Accepted p := by
  simp only [conflicts, List.append_eq_nil_iff, List.flatMap_eq_nil_iff] at h
  exact fun r hr s hs => NameFree.of_renameConflicts (h.2 r hr) hs

end Graph

end Pseudonym
