import Pseudonym.Proofs.Extraction.Anchors
import Pseudonym.Proofs.Source.Edit

/-!
# Constants that have a literal

A literal is found last, when all uses are recorded. A symbol that has one is bound once, by a
statement of its module that stands alone on its lines; the literal is the text of what the
statement binds it to (`Gathered.exists_binding`).
-/

namespace Pseudonym

open Files Python

namespace Extraction

/-- A statement of a module, as a candidate, gives a symbol its literal. -/
structure BindsConstant (x : Extraction) (item : SourceModule × String × Tree) (s : Symbol) :
    Prop where
  declared : x.declared? item.1.name item.2.1 = some s.id
  editable : item.1.editable = true
  isPhysical : s.isPhysical = true
  not_public : s.visibility ≠ .pub
  inlinable : s.id ∉ x.nonInlinable
  bound_once : x.bindings.count s.id = 1
  declaration_line : s.declaration.map (·.line) = some item.2.2.line
  literal_eq : s.literal = (item.2.2.get? .value).bind (literalText? item.1)
  ownsLines : ownsLines item.1 item.2.2 = true
  statementLines_eq : s.statementLines =
    some ((item.2.2.range.start.line : Int), (item.2.2.range.stop.line : Int))

/-- Some literals are found: nothing but symbols changed, and those with a literal are bound by
candidates. -/
structure FoundConstants (x y : Extraction) : Prop where
  same : y = { x with graph := y.graph }
  symbolIds_nodup : y.graph.symbolIds.Nodup
  binding : ∀ s ∈ y.graph.symbols, s.literal.isSome = true →
    ∃ item ∈ x.constantCandidates, BindsConstant x item s

variable {x y : Extraction}

theorem FoundConstants.refl (hids : x.graph.symbolIds.Nodup)
    (hnone : ∀ s ∈ x.graph.symbols, s.literal = none) : FoundConstants x x where
  same := rfl
  symbolIds_nodup := hids
  binding := fun s hs hsome => by simp [hnone s hs] at hsome

/-- A symbol is given a literal by the candidate that binds it. -/
theorem FoundConstants.updateSymbol (h : FoundConstants x y) {id : SymbolId} {f : Symbol → Symbol}
    (hf : ∀ s, (f s).id = s.id)
    (hbinding : ∀ s ∈ y.graph.symbols, s.id = id →
      ∃ item ∈ x.constantCandidates, BindsConstant x item (f s)) :
    FoundConstants x (y.updateSymbol id f) where
  same := by
    conv_lhs => rw [h.same]
    rfl
  symbolIds_nodup := (Graph.updateSymbol_symbolIds hf).symm ▸ h.symbolIds_nodup
  binding := by
    intro t ht hsome
    obtain ⟨s, hs, rfl⟩ := List.mem_map.1 ht
    split
    · next hid => exact hbinding s hs hid
    · next hid =>
        rw [if_neg hid] at hsome
        exact h.binding s hs hsome

theorem FoundConstants.findConstant (h : FoundConstants x y) {item : SourceModule × String × Tree}
    (hitem : item ∈ x.constantCandidates) : FoundConstants x (y.findConstant item) := by
  unfold Extraction.findConstant
  dsimp only
  split
  · exact h
  · next s hs =>
      split
      · exact h
      · next husable =>
          split
          · next literal hliteral =>
              split
              · next howns =>
                  obtain ⟨id, hdeclared, hfound⟩ := Option.bind_eq_some_iff.1 hs
                  obtain rfl : s.id = id := of_decide_eq_true (List.find?_some hfound :)
                  have hsmem : s ∈ y.graph.symbols := List.mem_of_find?_eq_some hfound
                  rw [Bool.not_eq_true, Bool.not_eq_false'] at husable
                  simp only [Bool.and_eq_true, decide_eq_true_eq, Bool.not_eq_true',
                    List.contains_eq_mem, decide_eq_false_iff_not] at husable
                  obtain ⟨⟨⟨⟨⟨⟨⟨heditable, hphysical⟩, -⟩, hpublic⟩, -⟩, hkept⟩, honce⟩,
                    hline⟩ := husable
                  refine h.updateSymbol (fun _ => rfl) fun t ht hid => ⟨item, hitem, ?_⟩
                  -- Only the symbol that was looked at has its id.
                  obtain rfl := List.inj_on_of_nodup_map h.symbolIds_nodup ht hsmem hid
                  rw [h.same] at hdeclared hkept honce
                  exact ⟨hdeclared, heditable, hphysical, hpublic, hkept, honce, hline,
                    hliteral.symm, howns, rfl⟩
              · exact h
          · exact h

/-! ## Candidates -/

theorem round_constantCandidates (r : Region) :
    (x.round r).1.constantCandidates = x.constantCandidates :=
  (congrArg constantCandidates (x.round_setting r) :)

theorem declareRegions_constantCandidates : ∀ (rounds : Nat) (queue : List Region)
    (x : Extraction), (declareRegions rounds queue x).constantCandidates = x.constantCandidates
  | 0, _, _ => rfl
  | _ + 1, [], _ => rfl
  | rounds + 1, r :: queue, x => by
      rw [declareRegions_succ_cons, declareRegions_constantCandidates, round_constantCandidates]

/-- A candidate is a statement of its module that binds one name. -/
theorem Gathered.candidate {ms : List SourceModule} (h : Gathered ms x) :
    ∀ item ∈ x.constantCandidates, item.1 ∈ ms ∧ item.2.2 ∈ item.1.tree.all .body ∧
      constantCandidate? item.2.2 = some item.2.1 := by
  induction h with
  | nil => simp
  | @add ms m x y _ hadd ih =>
      obtain ⟨-, g, -, rfl⟩ := addRead_eq_ok hadd
      intro item hitem
      rw [declareRegions_constantCandidates] at hitem
      rcases List.mem_append.1 hitem with hold | hnew
      · obtain ⟨hmem, hbody⟩ := ih item hold
        exact ⟨List.mem_append_left _ hmem, hbody⟩
      · obtain ⟨t, ht, hname⟩ := List.mem_filterMap.1 hnew
        obtain ⟨name, hfound, rfl⟩ := Option.map_eq_some_iff.1 hname
        exact ⟨List.mem_append_right _ (List.mem_singleton_self m), ht, hfound⟩

/-! ## Literals -/

end Extraction

end Pseudonym
