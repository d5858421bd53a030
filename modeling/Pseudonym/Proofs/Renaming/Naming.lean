import Mathlib.Logic.Function.Basic
import Pseudonym.Proofs.Renaming.Roots

/-!
# The name index of a program in use

A graph answers which symbols have a name from the order in which they got their names. Another way
is to keep a list of ids for every name and to change one entry at a time: a new symbol enters the
list of its name, a renamed one leaves a list and enters another (`NameIndex`). Both give the same
answers whatever happened (`Request.nameIndex_after`), one equation for each operation
(`nameIndex_addSymbol`, `nameIndex_rename`); plans that swap names or hold a symbol twice are no
exception, because a plan is carried out as a chain of such moves.

From this follows that the symbols listed under a name are those that have it, each once, and that a
program changes only by what it accepts: a refused request changes nothing, an accepted plan changes
the names it plans and the list of committed plans (`names_exact`).
-/

namespace Pseudonym

open Pseudonym.Graph

/-! ## An index that is kept entry by entry -/

/-- The ids listed under each name. -/
abbrev NameIndex := String → List SymbolId

namespace NameIndex

/-- The index of a graph without symbols. -/
def empty : NameIndex := fun _ => []

/-- Lists an id under a name, behind those that are there. -/
def enter (index : NameIndex) (id : SymbolId) (name : String) : NameIndex :=
  Function.update index name (index name ++ [id])

/-- Takes an id out of the list of a name. -/
def leave (index : NameIndex) (id : SymbolId) (name : String) : NameIndex :=
  Function.update index name ((index name).erase id)

/-- Moves an id from the list of its old name to the end of the list of its new one. -/
def move (index : NameIndex) (id : SymbolId) (old new : String) : NameIndex :=
  if old = new then index else (index.leave id old).enter id new

/-- Moves the symbols of some renames one after the other, each from the name it has by then. -/
def moveAll : Graph → NameIndex → List Rename → NameIndex
  | _, index, [] => index
  | g, index, r :: rs =>
    moveAll (g.rename r.symbol r.name) (index.move r.symbol (g.nameOf r.symbol) r.name) rs

end NameIndex

namespace Graph

/-- The ids that a graph lists under each name. -/
def nameIndex (g : Graph) : NameIndex := fun name => (g.symbolsNamed name).map (·.id)

variable {g g' : Graph}

/-! ## One equation for each operation -/

/-- The naming order, restricted to the symbols that have the name now. -/
theorem WellFormed.nameIndex_eq (hg : g.WellFormed) (name : String) :
    g.nameIndex name = g.naming.filter fun id => g.nameOf id = name := by
  have hids : ∀ id ∈ g.naming, ∃ s ∈ g.symbols, s.id = id := by
    intro id hid
    exact mem_symbolIds.1 (hg.naming_perm.mem_iff.1 hid)
  unfold nameIndex symbolsNamed symbolsOf
  -- An id of the order has its symbol, so the look-ups drop nothing.
  generalize g.naming = order at hids ⊢
  induction order with
  | nil => rfl
  | cons id ids ih =>
      obtain ⟨⟨s, hs, rfl⟩, hrest⟩ := List.forall_mem_cons.1 hids
      have hname : g.nameOf s.id = s.name := hg.nameOf_id hs
      rw [List.filterMap_cons_some (hg.symbol?_id hs), List.filter_cons, List.filter_cons, hname]
      split
      · rw [List.map_cons, ih hrest]
      · exact ih hrest

/-- A change of a symbol other than a new name. -/
theorem nameOf_updateSymbol {id m : SymbolId} {f : Symbol → Symbol} (hid : ∀ s, (f s).id = s.id)
    (hname : ∀ s, (f s).name = s.name) : (g.updateSymbol id f).nameOf m = g.nameOf m := by
  have hkey : ∀ s : Symbol, (if s.id = id then f s else s).id = s.id := by
    intro s
    split
    · exact hid s
    · rfl
  simp only [nameOf, symbol?, updateSymbol, List.find?_map, Option.map_map, Function.comp_def, hkey]
  cases g.symbols.find? (·.id = m) with
  | none => rfl
  | some s =>
      by_cases hs : s.id = id <;> simp [hs, hname]

/-- What changes neither the order nor a name keeps the index. -/
theorem nameIndex_congr (hg : g.WellFormed) (hg' : g'.WellFormed) (horder : g'.naming = g.naming)
    (hnames : ∀ id, g'.nameOf id = g.nameOf id) : g'.nameIndex = g.nameIndex := by
  funext name
  simp only [hg.nameIndex_eq, hg'.nameIndex_eq, horder, hnames]

theorem addSymbol_eq_ok {s : Symbol} (hadd : g.addSymbol s = .ok g') :
    s.id ∉ g.symbolIds ∧
      g' = { g with symbols := g.symbols ++ [s], naming := g.naming ++ [s.id] } := by
  unfold addSymbol at hadd
  split at hadd
  · cases hadd
  · next hnew =>
      refine ⟨fun hmem => hnew ?_, (Except.ok.inj hadd).symm⟩
      simpa [contains, symbolIds] using hmem

/-- A new symbol enters the list of its name. -/
theorem nameIndex_addSymbol (hg : g.WellFormed) {s : Symbol} (hadd : g.addSymbol s = .ok g') :
    g'.nameIndex = g.nameIndex.enter s.id s.name := by
  have hg' := hg.addSymbol hadd
  obtain ⟨hnew, rfl⟩ := addSymbol_eq_ok hadd
  have hself : nameOf { g with symbols := g.symbols ++ [s], naming := g.naming ++ [s.id] } s.id =
      s.name := hg'.nameOf_id (by simp)
  have hothers : ∀ id ∈ g.naming,
      nameOf { g with symbols := g.symbols ++ [s], naming := g.naming ++ [s.id] } id =
        g.nameOf id := by
    intro id hid
    obtain ⟨t, ht, rfl⟩ := mem_symbolIds.1 (hg.naming_perm.mem_iff.1 hid)
    rw [hg.nameOf_id ht, hg'.nameOf_id (by simp [ht])]
  funext name
  rw [hg'.nameIndex_eq]
  simp only [List.filter_append, List.filter_singleton, hself]
  rw [List.filter_congr fun id hid => by rw [hothers id hid], ← hg.nameIndex_eq]
  by_cases hname : name = s.name
  · simp [NameIndex.enter, hname]
  · simp [NameIndex.enter, hname, Ne.symm hname]

theorem nameOf_rename (hg : g.WellFormed) {id : SymbolId} (hid : id ∈ g.symbolIds) (name : String)
    (m : SymbolId) : (g.rename id name).nameOf m = if m = id then name else g.nameOf m := by
  have hrenamed := rename_renamed hg.symbolIds_nodup id name
  unfold nameOf
  rw [hrenamed.symbol?_eq]
  cases hm : g.symbol? m with
  | none =>
      have hne : m ≠ id := by
        rintro rfl
        obtain ⟨s, hs, hsid⟩ := mem_symbolIds.1 hid
        rw [hg.symbol?_eq_some.2 ⟨hs, hsid⟩] at hm
        cases hm
      simp [hne]
  | some s =>
      obtain ⟨-, rfl⟩ := hg.symbol?_eq_some.1 hm
      simp

theorem naming_rename (id : SymbolId) (name : String) :
    (g.rename id name).naming =
      if g.nameOf id = name then g.naming else g.naming.erase id ++ [id] := by
  unfold Graph.rename
  split <;> rfl

/-- Taking an id out of the order takes it out of every list. -/
theorem filter_erase_naming (hg : g.WellFormed) (id : SymbolId) (name : String) :
    (g.naming.erase id).filter (fun m => g.nameOf m = name) = (g.nameIndex name).erase id := by
  have hnodup : g.naming.Nodup := hg.naming_perm.nodup_iff.2 hg.symbolIds_nodup
  rw [hg.nameIndex_eq, hnodup.erase_eq_filter, (hnodup.filter _).erase_eq_filter,
    List.filter_comm]

theorem mem_nameIndex (hg : g.WellFormed) {id : SymbolId} {name : String} :
    id ∈ g.nameIndex name ↔ id ∈ g.symbolIds ∧ g.nameOf id = name := by
  rw [hg.nameIndex_eq, List.mem_filter, hg.naming_perm.mem_iff, decide_eq_true_eq]

/-- A renamed symbol leaves the list of its old name and enters that of the new one. -/
theorem nameIndex_rename (hg : g.WellFormed) {id : SymbolId} (hid : id ∈ g.symbolIds)
    (name : String) :
    (g.rename id name).nameIndex = g.nameIndex.move id (g.nameOf id) name := by
  have hg' := hg.rename hid name
  funext n
  rw [hg'.nameIndex_eq, naming_rename, NameIndex.move]
  simp only [nameOf_rename hg hid]
  by_cases hsame : g.nameOf id = name
  · rw [if_pos hsame, if_pos hsame, hg.nameIndex_eq]
    refine List.filter_congr fun m _ => ?_
    by_cases hm : m = id
    · simp [hm, hsame]
    · simp [hm]
  · have hnodup : g.naming.Nodup := hg.naming_perm.nodup_iff.2 hg.symbolIds_nodup
    -- All other symbols keep their names.
    have hothers : (g.naming.erase id).filter
        (fun m => decide ((if m = id then name else g.nameOf m) = n)) =
          (g.nameIndex n).erase id := by
      rw [← filter_erase_naming hg]
      refine List.filter_congr fun m hm => ?_
      rw [if_neg (hnodup.mem_erase_iff.1 hm).1]
    have hgone : n ≠ g.nameOf id → (g.nameIndex n).erase id = g.nameIndex n := by
      intro hn
      exact List.erase_of_not_mem fun hmem => hn ((mem_nameIndex hg).1 hmem).2.symm
    rw [if_neg hsame, if_neg hsame, List.filter_append, hothers, NameIndex.enter, NameIndex.leave]
    by_cases hnew : n = name
    · subst hnew
      simp [hgone (Ne.symm hsame), Function.update_of_ne (Ne.symm hsame)]
    · rw [Function.update_of_ne hnew]
      by_cases hold : n = g.nameOf id
      · simp [← hold, Ne.symm hnew]
      · simp [hgone hold, Function.update_of_ne hold, Ne.symm hnew]

/-- Carrying out renames moves their symbols one after the other. -/
theorem nameIndex_applyRenames {rs : List Rename} (hg : g.WellFormed)
    (hrs : ∀ r ∈ rs, r.symbol ∈ g.symbolIds) :
    (Changes.applyRenames g rs).nameIndex = g.nameIndex.moveAll g rs := by
  induction rs generalizing g with
  | nil => rfl
  | cons r rs ih =>
      obtain ⟨hr, hrest⟩ := List.forall_mem_cons.1 hrs
      have hids : (g.rename r.symbol r.name).symbolIds = g.symbolIds :=
        (rename_renamed hg.symbolIds_nodup r.symbol r.name).symbolIds_eq
      have hgraph : Changes.applyRenames g (r :: rs) =
          Changes.applyRenames (g.rename r.symbol r.name) rs := rfl
      rw [hgraph, ih (hg.rename hr r.name) (by rw [hids]; exact hrest),
        nameIndex_rename hg hr, NameIndex.moveAll]

end Graph

/-! ## The first name planned for a symbol -/

/-- Keeping the first rename of each symbol keeps the name that the symbol gets. -/
theorem nameAfter_distinct (rs : List Rename) (s : Symbol) :
    nameAfter (Plan.distinct rs) s = nameAfter rs s := by
  induction rs with
  | nil => rfl
  | cons r rs ih =>
      rw [Plan.distinct, nameAfter_cons, nameAfter_cons, ← ih]
      split
      · rfl
      · next hother =>
          -- Only renames of the first symbol are dropped.
          have hkept : ((Plan.distinct rs).filter (·.symbol ≠ r.symbol)).find? (·.symbol = s.id) =
              (Plan.distinct rs).find? (·.symbol = s.id) := by
            rw [List.find?_filter]
            congr 1
            funext e
            by_cases he : e.symbol = s.id
            · simp [he, Ne.symm hother]
            · simp [he]
          rw [nameAfter, nameAfter, hkept]

/-! ## Requests to a program -/

/-- A request to a program: an operation on its graph, or a plan to be carried out. -/
inductive Request where
  | call (c : Call)
  | plan (p : Plan)

/-- Why a request is refused. -/
inductive Refusal where
  | registration (e : GraphError)
  | conflicts (cs : List Conflict)
deriving DecidableEq

namespace Request

/-- What a request leaves of a program. -/
def after (x : Program) : Request → Program
  | call c => { x with graph := c.after x.graph }
  | plan p => ⟨(x.changes.rename x.graph p).2.1, (x.changes.rename x.graph p).2.2⟩

/-- The refusal of a registration. -/
def registration? {α : Type} : Except GraphError α → Option Refusal
  | .ok _ => none
  | .error e => some (.registration e)

/-- The refusal that a request meets. -/
def refusal? (x : Program) : Request → Option Refusal
  | call (.addScope scope) => registration? (x.graph.addScope scope)
  | call (.addSymbol s) => registration? (x.graph.addSymbol s)
  | call _ => none
  | plan p => match (x.changes.rename x.graph p).1 with
    | [] => none
    | cs => some (.conflicts cs)

/-- The symbols that a request is about, as far as it does not register them. -/
def subjects : Request → List SymbolId
  | call c => c.subjects
  | plan p => p.symbols

/-- What a request does to an index that is kept entry by entry. -/
def keep (x : Program) (index : NameIndex) (r : Request) : NameIndex :=
  if (r.refusal? x).isSome then index
  else match r with
    | call (.addSymbol s) => index.enter s.id s.name
    | call (.rename id name) => index.move id (x.graph.nameOf id) name
    | call _ => index
    | plan p => index.moveAll x.graph p.entries

end Request

/-- What requests made one after the other leave of a program. -/
def Program.afterAll (x : Program) (requests : List Request) : Program :=
  requests.foldl Request.after x

/-- What requests made one after the other leave of an index. -/
def NameIndex.afterAll : Program → NameIndex → List Request → NameIndex
  | _, index, [] => index
  | x, index, r :: rest => afterAll (r.after x) (r.keep x index) rest

/-- Every request is about symbols that are registered by then. -/
def Program.AllRegistered (x : Program) : List Request → Prop
  | [] => True
  | r :: rest => (∀ id ∈ r.subjects, id ∈ x.graph.symbolIds) ∧ AllRegistered (r.after x) rest

instance Program.decidableAllRegistered : ∀ (x : Program) (requests : List Request),
    Decidable (x.AllRegistered requests)
  | _, [] => .isTrue trivial
  | x, r :: rest =>
    have := decidableAllRegistered (r.after x) rest
    inferInstanceAs (Decidable ((∀ id ∈ r.subjects, id ∈ x.graph.symbolIds) ∧ AllRegistered _ rest))

namespace Request

variable {x : Program}

/-! ## One request -/

theorem registration?_isSome {α : Type} {e : Except GraphError α} :
    (registration? e).isSome ↔ ∃ error, e = .error error := by
  cases e <;> simp [registration?]

/-- A scope is refused exactly when its id is taken. -/
theorem addScope_refused {scope : Scope} :
    (call (.addScope scope)).refusal? x = some (.registration (.duplicateScope scope.id)) ↔
      scope.id ∈ x.graph.scopeIds := by
  have htaken : (x.graph.scope? scope.id).isSome ↔ scope.id ∈ x.graph.scopeIds := by
    simp [scope?, scopeIds]
  rw [← htaken]
  unfold refusal? Graph.addScope
  by_cases h : (x.graph.scope? scope.id).isSome <;> simp [h, registration?]

/-- A symbol is refused exactly when its id is taken. -/
theorem addSymbol_refused {s : Symbol} :
    (call (.addSymbol s)).refusal? x = some (.registration (.duplicateSymbol s.id)) ↔
      s.id ∈ x.graph.symbolIds := by
  have htaken : x.graph.contains s.id ↔ s.id ∈ x.graph.symbolIds := by
    simp [contains, symbolIds]
  rw [← htaken]
  unfold refusal? Graph.addSymbol
  by_cases h : x.graph.contains s.id <;> simp [h, registration?]

/-- A plan without conflicts is carried out, any other one changes nothing. -/
theorem plan_cases (x : Program) (p : Plan) :
    ((plan p).refusal? x = none ∧ (plan p).after x =
        ⟨Changes.applyRenames x.graph p.entries,
          { x.changes with committed := x.changes.committed ++ [p] }⟩) ∨
      (((plan p).refusal? x).isSome ∧ (plan p).after x = x) := by
  cases hconflicts : x.graph.conflicts x.changes.overloading p with
  | nil => simp [refusal?, after, Changes.rename, hconflicts]
  | cons c cs => simp [refusal?, after, Changes.rename, hconflicts]

/-- A refused request changes nothing. -/
theorem after_of_refused {r : Request} (h : (r.refusal? x).isSome) : r.after x = x := by
  cases r with
  | plan p =>
      rcases plan_cases x p with ⟨hnone, -⟩ | ⟨-, hkept⟩
      · rw [hnone] at h
        cases h
      · exact hkept
  | call c =>
      -- Of the calls, only registrations are refused.
      cases c with
      | addScope scope =>
          obtain ⟨e, he⟩ := registration?_isSome.1 h
          simp [after, Call.after, he, Except.toOption]
      | addSymbol s =>
          obtain ⟨e, he⟩ := registration?_isSome.1 h
          simp [after, Call.after, he, Except.toOption]
      | _ => cases h

theorem mem_symbolIds_of_entry {p : Plan} (h : ∀ id ∈ (plan p).subjects, id ∈ x.graph.symbolIds) :
    ∀ r ∈ p.entries, r.symbol ∈ x.graph.symbolIds := by
  intro r hr
  exact h r.symbol (List.mem_map_of_mem hr)

theorem wellFormed (hx : x.graph.WellFormed) {r : Request}
    (h : ∀ id ∈ r.subjects, id ∈ x.graph.symbolIds) : (r.after x).graph.WellFormed := by
  cases r with
  | call c => exact Call.wellFormed hx h
  | plan p =>
      rcases plan_cases x p with ⟨-, hafter⟩ | ⟨-, hafter⟩
      · rw [hafter]
        exact hx.applyRenames (mem_symbolIds_of_entry h)
      · rw [hafter]
        exact hx

/-- What a call does to the index, unless it is refused. -/
theorem nameIndex_call (hx : x.graph.WellFormed) {c : Call}
    (h : ∀ id ∈ c.subjects, id ∈ x.graph.symbolIds) (haccepted : (call c).refusal? x = none) :
    (c.after x.graph).nameIndex = (call c).keep x x.graph.nameIndex := by
  have hwf : (c.after x.graph).WellFormed := Call.wellFormed hx h
  unfold keep
  rw [haccepted]
  cases c with
  | addSymbol s =>
      show ((x.graph.addSymbol s).toOption.getD x.graph).nameIndex = _
      cases hadd : x.graph.addSymbol s with
      | error e =>
          simp only [refusal?, hadd] at haccepted
          cases haccepted
      | ok g => exact nameIndex_addSymbol hx hadd
  | rename id name => exact nameIndex_rename hx (h id List.mem_cons_self) name
  | addScope scope =>
      show ((x.graph.addScope scope).toOption.getD x.graph).nameIndex = _
      unfold Graph.addScope
      split <;> rfl
  | addSupertype type supertype =>
      show (x.graph.addSupertype type supertype).nameIndex = _
      unfold Graph.addSupertype
      split <;> rfl
  | addOverride member overridden =>
      -- The member is marked as an override, which is a change of the symbol but not of its name.
      refine nameIndex_congr hx hwf ?_ fun id => ?_
      · show (x.graph.addOverride member overridden).naming = _
        unfold Graph.addOverride
        split <;> rfl
      · show (x.graph.addOverride member overridden).nameOf id = _
        unfold Graph.addOverride
        split
        · rfl
        · exact nameOf_updateSymbol (fun _ => rfl) (fun _ => rfl)
  | forgetRoots => rfl
  | deepestRoots id =>
      show (x.graph.deepestRoots id).2.nameIndex = _
      unfold Graph.deepestRoots
      split <;> rfl

/-- The index of the graph after a request is the index before, changed entry by entry. -/
theorem nameIndex_after (hx : x.graph.WellFormed) {r : Request}
    (h : ∀ id ∈ r.subjects, id ∈ x.graph.symbolIds) :
    (r.after x).graph.nameIndex = r.keep x x.graph.nameIndex := by
  by_cases hrefused : (r.refusal? x).isSome
  · unfold keep
    rw [after_of_refused hrefused, if_pos hrefused]
  · have haccepted : r.refusal? x = none := Option.not_isSome_iff_eq_none.1 hrefused
    cases r with
    | call c => exact nameIndex_call hx h haccepted
    | plan p =>
        rcases plan_cases x p with ⟨-, hafter⟩ | ⟨hsome, -⟩
        · unfold keep
          rw [if_neg hrefused, hafter]
          exact nameIndex_applyRenames hx (mem_symbolIds_of_entry h)
        · exact absurd hsome hrefused

end Request

/-! ## Runs of requests -/

namespace Program

theorem wellFormed_afterAll {requests : List Request} {x : Program} (hx : x.graph.WellFormed)
    (h : x.AllRegistered requests) : (x.afterAll requests).graph.WellFormed := by
  induction requests generalizing x with
  | nil => exact hx
  | cons r rest ih => exact ih (Request.wellFormed hx h.1) h.2

/-- An index that is kept entry by entry agrees with the graph at every moment. -/
theorem nameIndex_afterAll {requests : List Request} {x : Program} (hx : x.graph.WellFormed)
    (h : x.AllRegistered requests) :
    (x.afterAll requests).graph.nameIndex = x.graph.nameIndex.afterAll x requests := by
  induction requests generalizing x with
  | nil => rfl
  | cons r rest ih =>
      have hrest := ih (Request.wellFormed hx h.1) h.2
      rw [Request.nameIndex_after hx h.1] at hrest
      exact hrest

end Program

/-! ## Exact answers -/

/-- The answers of a graph are those of an index, and they are right: the symbols listed under a
name are those that have it, each once. -/
structure NameIndex.Exact (index : NameIndex) (g : Graph) : Prop where
  ids_eq : ∀ name, (g.symbolsNamed name).map (·.id) = index name
  nodup : ∀ name, (g.symbolsNamed name).Nodup
  mem_iff : ∀ name s, s ∈ g.symbolsNamed name ↔ s ∈ g.symbols ∧ s.name = name

/-- What a program does with the next request: it refuses ids that are taken, a refused request
changes nothing, and a plan that is not refused gives each of its symbols the first name planned for
it and is added to the committed ones. Nothing else about any symbol changes, no scope and no
relation. -/
structure Program.Atomic (x : Program) : Prop where
  scope_refused : ∀ scope : Scope, (Request.call (.addScope scope)).refusal? x =
    some (.registration (.duplicateScope scope.id)) ↔ scope.id ∈ x.graph.scopeIds
  symbol_refused : ∀ s : Symbol, (Request.call (.addSymbol s)).refusal? x =
    some (.registration (.duplicateSymbol s.id)) ↔ s.id ∈ x.graph.symbolIds
  refused : ∀ r : Request, (r.refusal? x).isSome → r.after x = x
  accepted : ∀ p : Plan, (Request.plan p).refusal? x = none →
    Renamed (nameAfter (⟨p.primary, p.name⟩ :: p.cascade)) x.graph
        ((Request.plan p).after x).graph ∧
      ((Request.plan p).after x).changes =
        { x.changes with committed := x.changes.committed ++ [p] }

theorem Program.atomic {x : Program} (hx : x.graph.WellFormed) : x.Atomic where
  scope_refused _ := Request.addScope_refused
  symbol_refused _ := Request.addSymbol_refused
  refused _ := Request.after_of_refused
  accepted p haccepted := by
    rcases Request.plan_cases x p with ⟨-, hafter⟩ | ⟨hrefused, -⟩
    · rw [hafter]
      refine ⟨?_, rfl⟩
      have hrenamed := applyRenames_renamed hx.symbolIds_nodup p.entries_nodup
      have hfirst : nameAfter p.entries = nameAfter (⟨p.primary, p.name⟩ :: p.cascade) := by
        funext s
        exact nameAfter_distinct _ s
      rw [hfirst] at hrenamed
      exact hrenamed
    · rw [haccepted] at hrefused
      cases hrefused

/-- **Names are exact** after any requests, accepted or refused. The symbols listed under a name are
those that have it, each once and in the order of an index that is kept entry by entry; and what the
program does next, it does as a whole or not at all. -/
theorem names_exact (overloading : Bool) {requests : List Request}
    (hrequests : Program.AllRegistered { changes := { overloading } } requests) :
    let x := Program.afterAll { changes := { overloading } } requests
    (NameIndex.afterAll { changes := { overloading } } .empty requests).Exact x.graph ∧
      x.Atomic := by
  intro x
  have hstart : WellFormed ({ changes := { overloading } } : Program).graph := WellFormed.empty
  have hx : x.graph.WellFormed := Program.wellFormed_afterAll hstart hrequests
  have hindex : x.graph.nameIndex = NameIndex.afterAll _ .empty requests :=
    Program.nameIndex_afterAll hstart hrequests
  refine ⟨⟨fun name => congrFun hindex name, fun name => ?_, fun name s => hx.mem_symbolsNamed⟩,
    Program.atomic hx⟩
  have hids : (x.graph.nameIndex name).Nodup := by
    rw [hx.nameIndex_eq]
    exact (hx.naming_perm.nodup_iff.2 hx.symbolIds_nodup).filter _
  exact hids.of_map _

/-- Three variables hand their names round in one plan, which holds two of them twice. Before it, an
id is registered again; after it, a plan asks for a name that is taken. -/
def rotation : List Request :=
  (["a", "b", "c"].map fun name =>
      .call (.addSymbol { id := "m::" ++ name, name, kind := .variable, scope := some "m" })) ++
    [.call (.addScope { id := "m", kind := .module }),
      .call (.addSymbol { id := "m::a", name := "z", kind := .method }),
      .plan { primary := "m::a", name := "b",
              cascade := [⟨"m::b", "c"⟩, ⟨"m::a", "d"⟩, ⟨"m::c", "a"⟩, ⟨"m::b", "e"⟩] },
      .plan { primary := "m::a", name := "c" }]

/-- After the rotation the first variable is the only one with the name of the second one, and only
the first plan was carried out. -/
theorem names_exact_rotation :
    let x := Program.afterAll {} rotation
    Program.AllRegistered {} rotation ∧
      (NameIndex.afterAll {} .empty rotation "b" = ["m::a"] ∧
        (x.graph.symbolsNamed "b").map (·.id) = ["m::a"]) ∧
      x.changes.committed.map (·.name) = ["b"] ∧
      (Request.plan { primary := "m::a", name := "c" }).after x = x := by
  intro x
  have hrequests : Program.AllRegistered {} rotation := by decide +kernel
  obtain ⟨hexact, hatomic⟩ := names_exact false hrequests
  have hindex : NameIndex.afterAll {} .empty rotation "b" = ["m::a"] := by decide +kernel
  refine ⟨hrequests, ⟨hindex, ?_⟩, by decide +kernel, ?_⟩
  · rw [← hindex]
    exact hexact.ids_eq "b"
  · exact hatomic.refused _ (by decide +kernel)

end Pseudonym
