import Pseudonym.Proofs.Extraction.Gathering
import Pseudonym.Renaming.Eligibility

/-!
# Names that can be looked up at run time

A text may be used to look up a name, and so may an attribute of a value that nothing is known about
and a keyword of a class pattern. Whatever stands in a program outside its documentation is read in
one of its regions (`exists_read`). What is read there is noted (`mem_dynamicNames`), names once
noted stay noted, and every symbol with a noted name that is not local is marked and stays marked
(`Pinned`). So it is never eligible.
-/

namespace Pseudonym

open Python Python.Tree

/-! ## What is read of a program -/

namespace Python

/-- The parts of a node, without a text that documents it. -/
def plainParts (t : Tree) : List Tree :=
  match t.label with
  | .module | .functionDef .. | .classDef _ =>
    (t.parts.filter (·.1 ≠ .body)).map (·.2) ++ undocumented (t.all .body)
  | _ => t.children

/-- Anonymous functions and comprehensions hold expressions, no statements that document them. -/
def Undocumented (t : Tree) : Prop :=
  ∀ u ∈ t.nodes, u.label = .lambda ∨ u.isComprehension = true → ∀ v ∈ u.innerParts, v.isText = false

instance : DecidablePred Undocumented := fun t =>
  inferInstanceAs (Decidable (∀ u ∈ t.nodes, u.label = .lambda ∨ u.isComprehension = true →
    ∀ v ∈ u.innerParts, v.isText = false))

theorem undocumented_subset : ∀ ts : List Tree, undocumented ts ⊆ ts
  | [] => List.Subset.refl _
  | t :: ts => by
      rw [undocumented]
      split
      · exact List.subset_cons_self t ts
      · exact List.Subset.refl _

theorem undocumented_eq_self : ∀ {ts : List Tree}, (∀ t ∈ ts, t.isText = false) →
    undocumented ts = ts
  | [], _ => rfl
  | t :: ts, h => by
      rw [undocumented, if_neg (by simp [h t List.mem_cons_self])]

theorem plainParts_subset (t : Tree) : plainParts t ⊆ t.children := by
  have hbody : (t.parts.filter (·.1 ≠ .body)).map (·.2) ++ undocumented (t.all .body) ⊆
      t.children := by
    refine List.append_subset.2 ⟨List.map_subset _ (List.filter_sublist.subset), ?_⟩
    exact List.Subset.trans (undocumented_subset _) (List.map_subset _ (List.filter_sublist.subset))
  unfold plainParts
  split <;> first | exact hbody | exact List.Subset.refl _

/-- The nodes of a tree that do not stand in a text that documents a module, a class or a
function. -/
def held (t : Tree) : List Tree := t :: (plainParts t).attach.flatMap fun ⟨u, _⟩ => held u
termination_by sizeOf t
decreasing_by exact sizeOf_lt_of_mem_children (plainParts_subset t (by assumption))

theorem held_eq (t : Tree) : held t = t :: (plainParts t).flatMap held := by
  rw [held]
  simp

theorem mem_all_of_mem_parts {t : Tree} {p : Role × Tree} (h : p ∈ t.parts) : p.2 ∈ t.all p.1 :=
  List.mem_map.2 ⟨p, List.mem_filter.2 ⟨h, decide_eq_true rfl⟩, rfl⟩

/-- A part is a term, or it holds terms in the roles that the grammar gives to them. -/
theorem ScopeParts.mem_firstTerms {t : Tree} (h : ScopeParts t) {p : Role × Tree}
    (hp : p ∈ t.parts) {v : Tree} (hv : v ∈ firstTerms p.2) :
    (pieceRoles? t.label p.1 = none ∧ v = p.2) ∨
      ∃ roles, pieceRoles? t.label p.1 = some roles ∧ ∃ role ∈ roles, v ∈ p.2.all role := by
  obtain ⟨-, hterm, hroles⟩ := h p hp
  unfold firstTerms at hv
  cases hpieces : pieceRoles? t.label p.1 with
  | none =>
      rw [hpieces] at hterm
      rw [hterm] at hv
      exact .inl ⟨rfl, List.mem_singleton.1 hv⟩
  | some roles =>
      rw [hpieces] at hterm
      rw [hterm] at hv
      obtain ⟨q, hq, rfl⟩ := List.mem_map.1 hv
      exact .inr ⟨roles, rfl, q.1, hroles roles hpieces q hq, mem_all_of_mem_parts hq⟩

/-- What is read below a node that opens a scope is evaluated around the scope or in it. -/
theorem ScopeParts.firstTerms_plainParts {t : Tree} (h : ScopeParts t)
    (hscope : t.opensScope = true)
    (htext : t.label = .lambda ∨ t.isComprehension = true → ∀ v ∈ t.innerParts, v.isText = false)
    {u v : Tree} (hu : u ∈ plainParts t) (hv : v ∈ firstTerms u) :
    v ∈ t.outerParts ∨ v ∈ undocumented t.innerParts := by
  -- All parts of an expression that opens a scope are read.
  have hexpression : (∀ w ∈ t.innerParts, w.isText = false) →
      v ∈ t.outerParts ∨ v ∈ undocumented t.innerParts := by
    intro hinner
    have hpiece : v ∈ pieces t := List.mem_flatMap.2 ⟨u, plainParts_subset t hu, hv⟩
    rw [undocumented_eq_self hinner]
    exact List.mem_append.1 ((h.pieces_perm hscope).symm.subset hpiece)
  -- The body of a statement that opens a scope is read without its documentation.
  have hbody : t.innerParts = t.all .body → pieceRoles? t.label .body = none →
      u ∈ undocumented (t.all .body) → v ∈ undocumented t.innerParts := by
    intro hinner hterm hu
    have hmem := mem_parts_of_mem_all (undocumented_subset _ hu)
    rcases h.mem_firstTerms hmem hv with ⟨-, rfl⟩ | ⟨roles, hsome, -⟩
    · rwa [hinner]
    · rw [hterm] at hsome
      cases hsome
  cases t with
  | node l range ps =>
    cases l with
    | functionDef name isAsync =>
        rcases List.mem_append.1 hu with hu | hu
        · obtain ⟨⟨role, u⟩, hpart, rfl⟩ := List.mem_map.1 hu
          obtain ⟨hmem, hrole⟩ := List.mem_filter.1 hpart
          have hall := mem_all_of_mem_parts hmem
          have hroles := (h _ hmem).1
          simp only [partRoles, label, List.mem_cons, List.not_mem_nil, or_false] at hroles
          left
          simp only [outerParts, label, List.mem_append, List.mem_flatMap]
          rcases h.mem_firstTerms hmem hv with ⟨hnone, rfl⟩ | ⟨roles, hsome, inner, hinner, hv⟩
          · rcases hroles with rfl | rfl | rfl | rfl | rfl | rfl
            · exact .inl (.inl (.inl (.inl hall)))
            · exact .inl (.inl (.inl (.inr hall)))
            · exact .inl (.inl (.inr hall))
            · cases hnone
            · exact .inr hall
            · simp at hrole
          · rcases hroles with rfl | rfl | rfl | rfl | rfl | rfl <;> cases hsome
            obtain rfl := List.mem_singleton.1 hinner
            exact .inl (.inr ⟨u, hall, hv⟩)
        · exact .inr (hbody rfl rfl hu)
    | classDef name =>
        rcases List.mem_append.1 hu with hu | hu
        · obtain ⟨⟨role, u⟩, hpart, rfl⟩ := List.mem_map.1 hu
          obtain ⟨hmem, hrole⟩ := List.mem_filter.1 hpart
          have hall := mem_all_of_mem_parts hmem
          have hroles := (h _ hmem).1
          simp only [partRoles, label, List.mem_cons, List.not_mem_nil, or_false] at hroles
          left
          simp only [outerParts, label, List.mem_append, List.mem_flatMap]
          rcases h.mem_firstTerms hmem hv with ⟨hnone, rfl⟩ | ⟨roles, hsome, inner, hinner, hv⟩
          · rcases hroles with rfl | rfl | rfl | rfl
            · exact .inl (.inl hall)
            · exact .inl (.inr hall)
            · cases hnone
            · simp at hrole
          · rcases hroles with rfl | rfl | rfl | rfl <;> cases hsome
            obtain rfl := List.mem_singleton.1 hinner
            exact .inr ⟨u, hall, hv⟩
        · exact .inr (hbody rfl rfl hu)
    | lambda => exact hexpression (htext (.inl rfl))
    | comprehension kind => exact hexpression (htext (.inr rfl))
    | _ => cases hscope

end Python

/-- The nodes of a region that are read: all but a text that documents its body. -/
def Region.read (r : Region) : List Tree := Python.met (undocumented r.roots)

theorem Region.read_subset (r : Region) : r.read ⊆ r.met := by
  intro t ht
  obtain ⟨u, hu, htu⟩ := mem_met.1 ht
  rw [r.met_eq]
  exact mem_met.2 ⟨u, undocumented_subset _ hu, htu⟩

namespace Extraction

/-- A node is read, or it only holds nodes together that are. -/
def Read (rs : List Region) (t : Tree) : Prop :=
  (∃ r ∈ rs, t ∈ r.read) ∨
    t.isTerm = false ∧ ∀ u ∈ plainParts t, ∃ r ∈ rs, u ∈ r.read

/-- Reading goes on from a node to its parts. -/
theorem Walked.read_part {tree : Tree} {rs : List Region} (h : Walked tree rs)
    (hgrammatical : Grammatical tree) (htext : Undocumented tree) {t u : Tree} (ht : Read rs t)
    (hu : u ∈ plainParts t) : Read rs u := by
  rcases ht with ⟨r, hr, ht⟩ | ⟨-, hparts⟩
  · by_cases hscope : t.opensScope = true
    · -- The node opens a scope: its parts are read around the scope or in it.
      have hmet := r.read_subset ht
      have hterm : t ∈ terms [tree] := h.once.subset
        (List.mem_flatMap.2 ⟨r, hr, List.mem_filter.2 ⟨hmet, isTerm_of_opensScope hscope⟩⟩)
      have hnode : t ∈ tree.nodes := by
        have := (List.mem_filter.1 hterm).1
        rwa [List.flatMap_singleton] at this
      have hparts := hgrammatical t hnode hscope
      obtain ⟨own, hown, -, hroots, -⟩ := h.inside r hr t hmet hscope
      have hread : ∀ v ∈ firstTerms u, ∃ q ∈ rs, v ∈ q.read := by
        intro v hv
        rcases hparts.firstTerms_plainParts hscope (htext t hnode) hu hv with hv | hv
        · refine ⟨r, hr, met_nextParts ht ?_⟩
          rwa [nextParts, if_pos hscope]
        · rw [← hroots] at hv
          exact ⟨own, hown, subset_met _ hv⟩
      unfold firstTerms at hread
      split at hread
      · exact .inl (hread u (List.mem_singleton_self u))
      · next hnot => exact .inr ⟨by simpa using hnot, fun v hv => hread v (plainParts_subset u hv)⟩
    · refine .inl ⟨r, hr, met_nextParts ht ?_⟩
      rw [nextParts, if_neg hscope]
      exact plainParts_subset t hu
  · exact .inl (hparts u hu)

theorem Walked.read_of_mem_held {tree : Tree} {rs : List Region} (h : Walked tree rs)
    (hgrammatical : Grammatical tree) (htext : Undocumented tree) {t u : Tree} (ht : Read rs t)
    (hu : u ∈ held t) : Read rs u := by
  rw [held_eq] at hu
  rcases List.mem_cons.1 hu with rfl | hu
  · exact ht
  · obtain ⟨v, hv, huv⟩ := List.mem_flatMap.1 hu
    exact h.read_of_mem_held hgrammatical htext (h.read_part hgrammatical htext ht hv) huv
termination_by sizeOf t
decreasing_by exact sizeOf_lt_of_mem_children (plainParts_subset t hv)

/-- The parts of a module are read in the region of its body. -/
theorem Walked.read_tree {tree : Tree} {rs : List Region} (h : Walked tree rs)
    (hmodule : IsModule tree) : Read rs tree := by
  have hbody : tree.all .body ∈ rs.map (·.roots) := by
    rw [h.opened]
    exact List.mem_cons_self
  have hparts : plainParts tree = undocumented (tree.all .body) := by
    have hnone : tree.parts.filter (·.1 ≠ .body) = [] :=
      List.filter_eq_nil_iff.2 fun p hp => by simp [hmodule.body p hp]
    unfold plainParts
    rw [hmodule.label_eq]
    simp only [hnone, List.map_nil, List.nil_append]
  obtain ⟨r, hr, hroots⟩ := List.mem_map.1 hbody
  refine .inr ⟨by simp [isTerm, hmodule.label_eq], fun u hu => ⟨r, hr, ?_⟩⟩
  rw [hparts, ← hroots] at hu
  exact subset_met _ hu

/-- **Whatever stands in a program outside its documentation is read.** -/
theorem Gathered.exists_read {ms : List SourceModule} {x : Extraction} (h : Gathered ms x)
    {m : SourceModule} (hm : m ∈ ms) (hmodule : IsModule m.tree) (htext : Undocumented m.tree)
    {t : Tree} (ht : t ∈ held m.tree) (hterm : t.isTerm = true) :
    ∃ r ∈ x.regions, r.module = m ∧ t ∈ r.read := by
  obtain ⟨rs, hrs, hown, hwalked⟩ := h.exists_regions hm hmodule
  rcases hwalked.read_of_mem_held hmodule.grammatical htext (hwalked.read_tree hmodule) ht with
    ⟨r, hr, hread⟩ | ⟨hnot, -⟩
  · exact ⟨r, hrs hr, hown r hr, hread⟩
  · rw [hterm] at hnot
    cases hnot

/-! ## Names that are noted -/

variable (x : Extraction)

@[simp] theorem markDynamic_dynamicNames (id : SymbolId) :
    (x.markDynamic id).dynamicNames = x.dynamicNames := rfl

@[simp] theorem markAllDynamic_dynamicNames (ids : List SymbolId) :
    (x.markAllDynamic ids).dynamicNames = x.dynamicNames :=
  proj_foldl dynamicNames markDynamic_dynamicNames ids x

@[simp] theorem addReference_dynamicNames (m : SourceModule) (id : SymbolId) (span : Option Span)
    (scope : Option ScopeId) (binds : Bool) :
    (x.addReference m id span scope binds).dynamicNames = x.dynamicNames := by
  unfold addReference
  split
  · split <;> rfl
  · split <;> rfl

theorem visitName_dynamicNames (m : SourceModule) (scope : ScopeId) (t : Tree) (id : String)
    (context : Context) (inText : Bool) :
    (x.visitName m scope t id context inText).dynamicNames = x.dynamicNames := by
  unfold visitName
  split
  · split <;> rfl
  · dsimp only
    split
    · rfl
    · split
      · rfl
      · split <;> simp [keepNamed]

theorem visitAttribute_dynamicNames (m : SourceModule) (scope : ScopeId) (t : Tree)
    (name : String) : x.dynamicNames ⊆ (x.visitAttribute m scope t name).dynamicNames := by
  unfold visitAttribute
  split
  · simp [keepNamed]
  · exact List.subset_cons_self _ _
  · exact List.Subset.refl _

theorem visitKeyword_dynamicNames (m : SourceModule) (parameters : Option (List SymbolId))
    (keyword : Tree) : (visitKeyword m parameters x keyword).dynamicNames = x.dynamicNames := by
  unfold visitKeyword
  split
  · simp
  · split
    · simp
    · rfl
  · rfl

theorem visitCall_dynamicNames (m : SourceModule) (scope : ScopeId) (call : Tree) :
    (x.visitCall m scope call).dynamicNames = x.dynamicNames := by
  have hcall : ∀ function, (x.visitDynamicCall scope call function).dynamicNames =
      x.dynamicNames := by
    intro function
    unfold visitDynamicCall
    split
    · split <;> rfl
    · rfl
  unfold visitCall
  split
  · rfl
  · dsimp only
    split
    · exact hcall _
    · exact (proj_foldl dynamicNames (fun y k => y.visitKeyword_dynamicNames ..) _ _).trans (hcall _)

theorem visitDeclared_dynamicNames (m : SourceModule) (scope : ScopeId) (t : Tree)
    (keyword : String) (symbolOf : Extraction → String → Option SymbolId) (name : String) :
    (visitDeclared m scope t keyword symbolOf x name).dynamicNames = x.dynamicNames := by
  unfold visitDeclared
  split
  · rfl
  · simp [keepNamed]

/-- A name once noted stays noted. -/
theorem visit_dynamicNames (m : SourceModule) (scope : ScopeId) (v : Visit) :
    x.dynamicNames ⊆ (visit m scope x v).dynamicNames := by
  unfold visit
  dsimp only
  split
  · rw [visitName_dynamicNames]
    exact List.Subset.refl _
  · exact x.visitAttribute_dynamicNames ..
  · rw [visitCall_dynamicNames]
    exact List.Subset.refl _
  · rw [proj_foldl dynamicNames fun y n => y.visitDeclared_dynamicNames ..]
    exact List.Subset.refl _
  · rw [proj_foldl dynamicNames fun y n => y.visitDeclared_dynamicNames ..]
    exact List.Subset.refl _
  · exact List.subset_append_right _ _
  · exact List.subset_append_right _ _
  · exact List.Subset.refl _

/-- A node that is met in a scope lets a name be looked up. -/
inductive Reveals (x : Extraction) (scope : ScopeId) (t : Tree) : String → Prop
  /-- A text whose parts are identifiers. -/
  | text {value name : String} {marked : Bool} (hlabel : t.label = .constant (.text value marked))
      (hname : name ∈ namesInText value) : Reveals x scope t name
  /-- An attribute of something that nothing is known about. -/
  | member {name : String} {context : Context} (hlabel : t.label = .attribute name context)
      (hunknown : x.resolveAttribute scope t = .unknown) : Reveals x scope t name
  /-- A keyword of a class pattern. -/
  | pattern {keywords : List String} {name : String} (hlabel : t.label = .matchClass keywords)
      (hname : name ∈ keywords) : Reveals x scope t name

variable {x}

theorem Reveals.of_outline {y : Extraction} (h : y.outline = x.outline) {scope : ScopeId}
    {t : Tree} {name : String} (hname : Reveals x scope t name) : Reveals y scope t name := by
  cases hname with
  | text hlabel hname => exact .text hlabel hname
  | member hlabel hunknown =>
      refine .member hlabel ?_
      rw [← resolveAttribute_outline, h, resolveAttribute_outline]
      exact hunknown
  | pattern hlabel hname => exact .pattern hlabel hname

/-- What a node reveals is noted when it is met. -/
theorem Reveals.mem_visit {m : SourceModule} {scope : ScopeId} {v : Visit} {name : String}
    (h : Reveals x scope v.node name) : name ∈ (visit m scope x v).dynamicNames := by
  cases h with
  | text hlabel hname =>
      simp only [visit, hlabel]
      exact List.mem_append_left _ hname
  | member hlabel hunknown =>
      simp only [visit, hlabel, visitAttribute, hunknown]
      exact List.mem_cons_self
  | pattern hlabel hname =>
      simp only [visit, hlabel]
      exact List.mem_append_left _ hname

theorem collectRegion_dynamicNames (x : Extraction) (r : Region) :
    x.dynamicNames ⊆ (x.collectRegion r).dynamicNames := by
  unfold collectRegion
  generalize walkAll r.inText (undocumented r.roots) = visits
  induction visits generalizing x with
  | nil => exact List.Subset.refl _
  | cons v visits ih => exact List.Subset.trans (x.visit_dynamicNames ..) (ih _)

/-- What is read in a region is noted when the region is walked through. -/
theorem Reveals.mem_collectRegion {r : Region} {t : Tree} (ht : t ∈ r.read) {name : String}
    (h : Reveals x r.scope t name) : name ∈ (x.collectRegion r).dynamicNames := by
  have hmet : t ∈ (walkAll r.inText (undocumented r.roots)).map (·.node) := by
    rw [map_node_walkAll]
    exact ht
  obtain ⟨v, hv, rfl⟩ := List.mem_map.1 hmet
  refine mem_foldl_of_step dynamicNames (fun y => y.outline = x.outline)
    (fun y v => y.visit_dynamicNames ..) (fun y hy => ?_)
    (fun y _ _ hy => (outline_eq_of_settled (y.visit_settled ..)).trans hy) rfl hv
  exact (h.of_outline hy).mem_visit

/-- **What is read anywhere is noted.** -/
theorem mem_dynamicNames {r : Region} (hr : r ∈ x.withOverrides.regions) {t : Tree}
    (ht : t ∈ r.read) {name : String} (h : Reveals x.withOverrides r.scope t name) :
    name ∈ x.withUses.dynamicNames := by
  refine mem_foldl_of_step dynamicNames (fun y => y.outline = x.withOverrides.outline)
    collectRegion_dynamicNames (fun y hy => ?_)
    (fun y r _ hy => (outline_eq_of_settled (y.collectRegion_settled r)).trans hy) rfl hr
  exact (h.of_outline hy).mem_collectRegion ht

/-! ## Symbols that are marked -/

/-- Every symbol with one of some names is marked, unless it is local. -/
def Pinned (names : List String) (g : Graph) : Prop :=
  ∀ s ∈ g.symbols, s.declaredName ∈ names → s.isLocal = false → s.isDynamic = true

theorem pinned_markDynamic (g : Graph) (names : List String) :
    Pinned names (g.markDynamic names false).2 := by
  intro s hs hname hlocal
  obtain ⟨t, -, rfl⟩ := List.mem_map.1 hs
  by_cases hdynamic : t.isDynamic = true
  · split <;> simp [hdynamic]
  · split
    · rfl
    · next hhit =>
        rw [if_neg hhit] at hname hlocal
        refine absurd ?_ hhit
        simp [hname, hlocal, hdynamic]

/-- A mark is not taken back. -/
theorem Pinned.map {names : List String} {g g' : Graph} (h : Pinned names g) {f : Symbol → Symbol}
    (hg : g'.symbols = g.symbols.map f) (hname : ∀ s, (f s).declaredName = s.declaredName)
    (hlocal : ∀ s, (f s).isLocal = s.isLocal)
    (hdynamic : ∀ s, s.isDynamic = true → (f s).isDynamic = true) : Pinned names g' := by
  intro s hs hmem hnot
  rw [hg] at hs
  obtain ⟨t, ht, rfl⟩ := List.mem_map.1 hs
  rw [hname] at hmem
  rw [hlocal] at hnot
  exact hdynamic t (h t ht hmem hnot)

theorem Pinned.updateSymbol {names : List String} {g : Graph} (h : Pinned names g) (id : SymbolId)
    {f : Symbol → Symbol} (hname : ∀ s, (f s).declaredName = s.declaredName)
    (hlocal : ∀ s, (f s).isLocal = s.isLocal)
    (hdynamic : ∀ s, s.isDynamic = true → (f s).isDynamic = true) :
    Pinned names (g.updateSymbol id f) := by
  refine h.map rfl (fun s => ?_) (fun s => ?_) fun s hs => ?_
  · split
    · exact hname s
    · rfl
  · split
    · exact hlocal s
    · rfl
  · split
    · exact hdynamic s hs
    · exact hs

theorem Pinned.markAllDynamic {names : List String} {y : Extraction} (h : Pinned names y.graph)
    (ids : List SymbolId) : Pinned names (y.markAllDynamic ids).graph :=
  keep_foldl (fun z : Extraction => Pinned names z.graph)
    (fun _ id hz => hz.updateSymbol id (f := fun s => { s with isDynamic := true }) (fun _ => rfl)
      (fun _ => rfl) fun _ _ => rfl) ids h

theorem pinned_markDynamicSymbols (y : Extraction) :
    Pinned y.dynamicNames y.markDynamicSymbols.graph := by
  unfold markDynamicSymbols
  refine keep_foldl (fun z : Extraction => Pinned y.dynamicNames z.graph)
    (fun _ _ hz => hz.markAllDynamic _) _ ?_
  refine keep_foldl (fun z : Extraction => Pinned y.dynamicNames z.graph)
    (fun _ _ hz => hz.markAllDynamic _) _ ?_
  exact (pinned_markDynamic y.graph y.dynamicNames).markAllDynamic _

theorem Pinned.findConstant {names : List String} {y : Extraction} (h : Pinned names y.graph)
    (item : SourceModule × String × Tree) : Pinned names (y.findConstant item).graph := by
  unfold Extraction.findConstant
  dsimp only
  split
  · exact h
  · split
    · exact h
    · split
      · split
        · exact h.updateSymbol _ (fun _ => rfl) (fun _ => rfl) fun _ hs => hs
        · exact h
      · exact h

theorem Pinned.checkSpans {names : List String} {y : Extraction} (h : Pinned names y.graph) :
    Pinned names y.checkSpans.graph :=
  h.map (f := fun s =>
    { s with isPhysical := s.isPhysical && s.spans.all (y.spells s.declaredName) }) rfl
    (fun _ => rfl) (fun _ => rfl) fun _ hs => hs

theorem Pinned.forgetRoots {names : List String} {g : Graph} (h : Pinned names g) :
    Pinned names g.forgetRoots := h

/-- Names that were noted are marked in the graph of a resolved program. -/
theorem pinned_resolve (h : x.resolved = false) :
    Pinned x.withUses.dynamicNames x.resolve.graph := by
  have hmarks := (pinned_markDynamicSymbols x.withUses).checkSpans
  have hconstants : Pinned x.withUses.dynamicNames x.withConstants.graph := by
    unfold withConstants withMarks
    exact keep_foldl (fun z : Extraction => Pinned x.withUses.dynamicNames z.graph)
      (fun _ item hz => hz.findConstant item) _ hmarks
  rw [resolve_eq h]
  exact hconstants.forgetRoots

/-- A marked symbol is never eligible. -/
theorem check_ne_eligible (f : Filter) (g : Graph) {s : Symbol} (h : s.isDynamic = true) :
    (f.check g s).1 ≠ .eligible := by
  have hlater : ∀ g, f.laterRule g s ≠ .eligible := by
    intro g
    unfold Filter.laterRule
    rw [h]
    split
    · simp
    · split
      · simp
      · split <;> simp
  unfold Filter.check
  split
  · next verdict hfirst =>
      unfold Filter.firstRule? at hfirst
      split at hfirst
      · obtain rfl := Option.some.inj hfirst
        simp
      · split at hfirst
        · obtain rfl := Option.some.inj hfirst
          simp
        · split at hfirst
          · obtain rfl := Option.some.inj hfirst
            simp
          · cases hfirst
  · dsimp only
    split
    · simp
    · exact hlater _

/-! ## Run time -/

/-- A name can be looked up at run time in a resolved program. -/
inductive LookedUp (ms : List SourceModule) (x : Extraction) : String → Prop
  /-- By a text outside the documentation that is short enough and made of identifiers. -/
  | text {m : SourceModule} (hm : m ∈ ms) {t : Tree} (ht : t ∈ held m.tree) {value : String}
      {marked : Bool} (hlabel : t.label = .constant (.text value marked))
      (hlength : 1 ≤ value.length ∧ value.length ≤ 200)
      (hparts : ∀ part ∈ value.splitOn ".", Text.isIdentifier part = true) {name : String}
      (hname : name ∈ value.splitOn ".") : LookedUp ms x name
  /-- By an attribute of something that nothing is known about. -/
  | member {r : Region} (hr : r ∈ x.regions) {t : Tree} (ht : t ∈ r.read) {name : String}
      {context : Context} (hlabel : t.label = .attribute name context)
      (hunknown : x.resolveAttribute r.scope t = .unknown) : LookedUp ms x name
  /-- By a keyword of a class pattern. -/
  | pattern {m : SourceModule} (hm : m ∈ ms) {t : Tree} (ht : t ∈ held m.tree)
      {keywords : List String} (hlabel : t.label = .matchClass keywords) {name : String}
      (hname : name ∈ keywords) : LookedUp ms x name

theorem mem_namesInText {value name : String} (hlength : 1 ≤ value.length ∧ value.length ≤ 200)
    (hparts : ∀ part ∈ value.splitOn ".", Text.isIdentifier part = true)
    (hname : name ∈ value.splitOn ".") : name ∈ namesInText value := by
  have hguard : ¬ (value = "" ∨ maxNameText < value.length) := by
    rintro (rfl | hlong)
    · simp at hlength
    · exact absurd hlength.2 (by unfold maxNameText at hlong; omega)
  unfold namesInText
  rw [if_neg hguard]
  simp only [List.all_eq_true.2 hparts, if_true]
  exact hname

/-- A name that can be looked up is revealed somewhere. -/
theorem LookedUp.exists_reveals {ms : List SourceModule} {x : Extraction} (h : Gathered ms x)
    (hms : ∀ m ∈ ms, IsModule m.tree ∧ Undocumented m.tree) {name : String}
    (hname : LookedUp ms x.resolve name) :
    ∃ r ∈ x.withOverrides.regions, ∃ t ∈ r.read, Reveals x.withOverrides r.scope t name := by
  have hregions : x.withOverrides.regions = x.regions :=
    (congrArg Extraction.regions x.withOverrides_notes :)
  have hresolved : x.resolve.regions = x.regions :=
    (congrArg Extraction.regions (resolve_notes h.resolved_eq) :)
  rw [hregions]
  cases hname with
  | text hm ht hlabel hlength hparts hname =>
      obtain ⟨r, hr, -, hread⟩ := h.exists_read hm (hms _ hm).1 (hms _ hm).2 ht
        (by simp [isTerm, hlabel])
      exact ⟨r, hr, _, hread, .text hlabel (mem_namesInText hlength hparts hname)⟩
  | @member r hr t ht name context hlabel hunknown =>
      refine ⟨r, hresolved ▸ hr, t, ht, .member hlabel ?_⟩
      rw [← resolveAttribute_outline, ← resolve_outline h.resolved_eq, resolveAttribute_outline]
      exact hunknown
  | pattern hm ht hlabel hname =>
      obtain ⟨r, hr, -, hread⟩ := h.exists_read hm (hms _ hm).1 (hms _ hm).2 ht
        (by simp [isTerm, hlabel])
      exact ⟨r, hr, _, hread, .pattern hlabel hname⟩

/-- **Names that can be looked up at run time are pinned.** Every statement, expression and pattern
outside the documentation is read in a region of its module, and a symbol that is not local and has
a name that can be looked up is marked, so that no filter ever finds it eligible. -/
theorem resolve_pins_lookedUp {ms : List SourceModule} {x : Extraction} (h : Gathered ms x)
    (hms : ∀ m ∈ ms, IsModule m.tree ∧ Undocumented m.tree) :
    (∀ m ∈ ms, ∀ t ∈ held m.tree, t.isTerm = true →
      ∃ r ∈ x.resolve.regions, r.module = m ∧ t ∈ r.read) ∧
    ∀ name, LookedUp ms x.resolve name → ∀ s ∈ x.resolve.graph.symbols,
      s.declaredName = name → s.isLocal = false →
      s.isDynamic = true ∧ ∀ (f : Filter) (g : Graph), (f.check g s).1 ≠ .eligible := by
  have hresolved : x.resolve.regions = x.regions :=
    (congrArg Extraction.regions (resolve_notes h.resolved_eq) :)
  constructor
  · intro m hm t ht hterm
    rw [hresolved]
    exact h.exists_read hm (hms m hm).1 (hms m hm).2 ht hterm
  · rintro name hname s hs rfl hlocal
    obtain ⟨r, hr, t, ht, hreveals⟩ := hname.exists_reveals h hms
    have hdynamic : s.isDynamic = true :=
      pinned_resolve h.resolved_eq s hs (mem_dynamicNames hr ht hreveals) hlocal
    exact ⟨hdynamic, fun f g => check_ne_eligible f g hdynamic⟩

/-- A function with documentation, and a text that names it. -/
def crateText : String := "def _lid():\n    \"_doc\"\nopen(\"_lid\")\n"

/-- The module with that function. -/
def crate : SourceModule where
  name := "crates"
  path := ⟨"", ["crates.py"]⟩
  source := crateText
  tree := (Module.parse? crateText).getD default

/-- The text names the function, so the function is pinned. -/
theorem resolve_pins_lookedUp_crate :
    ∃ x, Gathered [crate] x ∧ (IsModule crate.tree ∧ Undocumented crate.tree) ∧
      LookedUp [crate] x.resolve "_lid" ∧
      ∃ s ∈ x.resolve.graph.symbols, s.id = "crates::_lid" ∧ s.isLocal = false ∧
        s.isDynamic = true ∧ ∀ (f : Filter) (g : Graph), (f.check g s).1 ≠ .eligible := by
  have hmodule : IsModule crate.tree ∧ Undocumented crate.tree := by decide +kernel
  have htext : (held crate.tree).any (fun t => t.label = .constant (.text "_lid" false)) = true := by
    decide +kernel
  obtain ⟨x, hgathered, o, ho, hid, hname, hlocal⟩ : ∃ x, Gathered [crate] x ∧
      ∃ o ∈ x.withOverrides.graph.outline.symbols,
        o.id = "crates::_lid" ∧ o.declaredName = "_lid" ∧ o.isLocal = false :=
    exists_gathered (by decide +kernel)
  have hparts : "_lid".splitOn "." = ["_lid"] := by cbv
  obtain ⟨t, ht, hlabel⟩ := List.any_eq_true.1 htext
  have hlookedUp : LookedUp [crate] x.resolve "_lid" :=
    .text (List.mem_singleton_self crate) ht (of_decide_eq_true hlabel) (by decide)
      (by rw [hparts]; decide) (by rw [hparts]; decide)
  have hgraph : x.resolve.graph.outline = x.withOverrides.graph.outline :=
    (congrArg Extraction.graph (resolve_outline hgathered.resolved_eq) :)
  rw [← hgraph] at ho
  obtain ⟨s, hs, rfl⟩ := List.mem_map.1 ho
  have hpinned := (resolve_pins_lookedUp hgathered fun m hm =>
    List.mem_singleton.1 hm ▸ hmodule).2 "_lid" hlookedUp s hs hname hlocal
  exact ⟨x, hgathered, hmodule, hlookedUp, s, hs, hid, hlocal, hpinned⟩

end Extraction

end Pseudonym
