import Pseudonym.Proofs.Renaming.Family
import Pseudonym.Proofs.Renaming.Public

/-!
# The extent of a plan

A plan holds the symbol, its overriders and, for a field, the families of the accessors that the
cascade keeps, with the first parameters of their setters (`Companion`). Each of these is an
entry of the plan under its own new name (`mem_entries_buildPlan`): the plan drops the later of two
entries for one symbol, and no two companions differ on a symbol (`Companion.name_unique`).

Whether an accessor is kept is told by the graph alone (`Keeps`, `mem_settled_iff`): it can be
edited and gets another name, no accessor that could be kept collides, and the policy has no
objection.
-/

namespace Pseudonym

open Pseudonym.Graph Relation

/-! ## Kept accessors -/

namespace Cascade

variable {policy : AccessorPolicy} {g : Graph} {field : Symbol}

/-- An accessor of the field that can be edited and gets another name. -/
structure Candidate (g : Graph) (field : Symbol) (name : String) (a : Symbol)
    (spelling : Name.Accessor) : Prop where
  mem : a ∈ (g.accessors field).methods
  spelled : Name.accessor? a.name = some spelling
  changes : spelling.withProperty (Name.property name) ≠ a.name
  physical : a.isPhysical
  roots : ∀ r ∈ g.symbols, r.id ∈ g.findRoots a.id → r.isPhysical

/-- The policy has a say because the accessor is public or has a public override. -/
def Escalates (policy : AccessorPolicy) (g : Graph) (a : Symbol) : Prop :=
  policy ≠ .proceed ∧ Filter.isTransitivelyPublic g a

/-- The accessors that change their names with a field. -/
structure Keeps (policy : AccessorPolicy) (g : Graph) (field : Symbol) (name : String) (a : Symbol)
    (spelling : Name.Accessor) : Prop where
  kind : field.kind = .variable
  isField : field.isField
  candidate : Candidate g field name a spelling
  free : ∀ b other, Candidate g field name b other →
    ¬ collides g field other (Name.property name) (g.accessors field)
  quiet : ¬ Escalates policy g a
  whole : policy = .skipCascade → ∀ b other, Candidate g field name b other →
    ¬ Escalates policy g b

/-- What an accessor is judged to be, told by the graph alone. -/
theorem judge_fst (hg : g.WellFormed) {pair : AccessorPair} {property : String} {a : Symbol}
    (ha : a ∈ g.symbols) {spelling : Name.Accessor}
    (hspelling : Name.accessor? a.name = some spelling) :
    (judge policy g field pair property a).1 =
      if spelling.withProperty property = a.name ∨ ¬ (isEditable g a).1 then .nothing
      else if collides g field spelling property pair then .collision
      else .follower ⟨a, spelling, spelling.withProperty property,
        policy ≠ .proceed && Filter.isTransitivelyPublic g a⟩ := by
  obtain ⟨-, -, c, hc⟩ := (isEditable_asks ha).recalls hg
  unfold judge
  rw [hspelling]
  dsimp only
  by_cases hname : spelling.withProperty property = a.name
  · rw [if_pos hname, if_pos (Or.inl hname)]
  · rw [if_neg hname, hc]
    cases (isEditable g a).1 with
    | false => simp
    | true =>
        simp only [Bool.not_true, Bool.false_eq_true, if_false, hname, not_true_eq_false, or_self]
        show Prod.fst (if collides g field spelling property pair then _ else _) = _
        split <;> rfl

variable {name : String}

/-- An accessor is a candidate unless nothing changes or it cannot be edited. -/
theorem candidate_iff (hg : g.WellFormed) {a : Symbol} (ha : a ∈ (g.accessors field).methods)
    {spelling other : Name.Accessor} (hspelling : Name.accessor? a.name = some spelling) :
    Candidate g field name a other ↔ other = spelling ∧
      ¬ (spelling.withProperty (Name.property name) = a.name ∨ ¬ (isEditable g a).1) := by
  rw [not_or, not_not, isEditable_iff hg]
  constructor
  · rintro ⟨-, hother, hchanges, hphysical, hroots⟩
    obtain rfl : other = spelling := Option.some.inj (hother.symm.trans hspelling)
    exact ⟨rfl, hchanges, hphysical, hroots⟩
  · rintro ⟨rfl, hchanges, hphysical, hroots⟩
    exact ⟨ha, hspelling, hchanges, hphysical, hroots⟩

/-- Only a candidate collides. -/
theorem judge_eq_collision (hg : g.WellFormed) {a : Symbol}
    (ha : a ∈ (g.accessors field).methods) :
    (judge policy g field (g.accessors field) (Name.property name) a).1 = .collision ↔
      ∃ spelling, Candidate g field name a spelling ∧
        collides g field spelling (Name.property name) (g.accessors field) := by
  obtain ⟨hmem, spelling, hspelling, -⟩ := mem_accessors ha
  simp only [judge_fst hg hmem hspelling, candidate_iff hg ha hspelling, and_assoc,
    exists_eq_left]
  split_ifs with hout hcollides
  · exact iff_of_false (by simp) fun h => h.1 hout
  · exact iff_of_true rfl ⟨hout, hcollides⟩
  · exact iff_of_false (by simp) fun h => hcollides h.2

/-- Only a candidate that does not collide follows. -/
theorem judge_eq_follower (hg : g.WellFormed) {a : Symbol}
    (ha : a ∈ (g.accessors field).methods) {f : Follower} :
    (judge policy g field (g.accessors field) (Name.property name) a).1 = .follower f ↔
      f.method = a ∧ Candidate g field name a f.spelling ∧
        ¬ collides g field f.spelling (Name.property name) (g.accessors field) ∧
        f.name = f.spelling.withProperty (Name.property name) ∧
        (f.escalated ↔ Escalates policy g a) := by
  obtain ⟨hmem, spelling, hspelling, -⟩ := mem_accessors ha
  rw [judge_fst hg hmem hspelling, candidate_iff hg ha hspelling, Escalates]
  split_ifs with hout hcollides
  · exact iff_of_false (by simp) fun h => h.2.1.2 hout
  · refine iff_of_false (by simp) ?_
    rintro ⟨-, ⟨rfl, -⟩, hfree, -⟩
    exact hfree hcollides
  · rw [Contribution.follower.injEq]
    constructor
    · rintro rfl
      exact ⟨rfl, ⟨rfl, hout⟩, hcollides, rfl, by simp⟩
    · rintro ⟨rfl, ⟨rfl, -⟩, -, hname, hescalated⟩
      have hsay : f.escalated =
          (decide (policy ≠ .proceed) && Filter.isTransitivelyPublic g f.method) := by
        rw [Bool.eq_iff_iff, hescalated, Bool.and_eq_true, decide_eq_true_iff]
      rw [← hname, ← hsay]

/-- Judging accessors in turn ends at a collision and else finds everything that follows. -/
theorem followers_cases (policy : AccessorPolicy) (hg : g.WellFormed) (pair : AccessorPair)
    (property : String) :
    ∀ {ms : List Symbol}, (∀ m ∈ ms, m ∈ g.symbols) →
      ((∃ m ∈ ms, (judge policy g field pair property m).1 = .collision) ∧
        (followers policy field pair property g ms).1 = none) ∨
      ((∀ m ∈ ms, (judge policy g field pair property m).1 ≠ .collision) ∧
        ∃ fs, (followers policy field pair property g ms).1 = some fs ∧
          ∀ f, f ∈ fs ↔ ∃ m ∈ ms, (judge policy g field pair property m).1 = .follower f)
  | [], _ => Or.inr ⟨by simp, [], rfl, by simp⟩
  | m :: ms, hms => by
      obtain ⟨hm, hms'⟩ := List.forall_mem_cons.1 hms
      have hrest := followers_cases policy hg pair property hms'
      -- The rest is judged in a graph that remembers more, with the same answers.
      have hjudge : g.Asks (judge policy · field pair property m) := judge_asks hm
      have hfollowers : g.Asks (followers policy field pair property · ms) := followers_asks hms'
      rw [← hfollowers.answer_eq (hjudge.recalls hg)] at hrest
      rw [followers_cons]
      cases hcontribution : (judge policy g field pair property m).1 with
      | collision => exact Or.inl ⟨⟨m, List.mem_cons_self, hcontribution⟩, rfl⟩
      | nothing =>
          simpa [hcontribution, Contribution.before] using hrest
      | follower f =>
          rcases hrest with ⟨⟨c, hc, hcollision⟩, hnone⟩ | ⟨hfree, fs, hfs, hmem⟩
          · refine Or.inl ⟨⟨c, List.mem_cons_of_mem _ hc, hcollision⟩, ?_⟩
            rw [Contribution.before, hnone]
            rfl
          · refine Or.inr ⟨List.forall_mem_cons.2 ⟨by simp [hcontribution], hfree⟩, f :: fs, ?_, ?_⟩
            · rw [Contribution.before, hfs]
              rfl
            · intro e
              rw [List.mem_cons, hmem, List.exists_mem_cons_iff, hcontribution,
                Contribution.follower.injEq, eq_comm]

/-- What the policy leaves: nothing if it leaves out all accessors because of one, and otherwise
those that it has no say in. -/
theorem mem_settle {fs : List Follower} {f : Follower} :
    f ∈ settle policy fs ↔ f ∈ fs ∧ ¬ f.escalated ∧
      (policy = .skipCascade → ∀ e ∈ fs, ¬ e.escalated) := by
  unfold settle
  split
  · next hany =>
      obtain ⟨e, he, hescalated⟩ := List.any_eq_true.1 hany
      split
      · refine iff_of_false List.not_mem_nil ?_
        rintro ⟨-, -, hnone⟩
        exact hnone rfl e he hescalated
      · next hpolicy =>
          refine List.mem_filter.trans (and_congr_right fun _ => ?_)
          rw [Bool.not_eq_true', Bool.not_eq_true]
          exact ⟨fun h => ⟨h, fun hskip => absurd hskip hpolicy⟩, And.left⟩
  · next hnone =>
      simp only [List.any_eq_true, not_exists, not_and] at hnone
      exact ⟨fun h => ⟨h, hnone f h, fun _ => hnone⟩, And.left⟩

/-- Judging the accessors of a field: a candidate collides, or all candidates follow. -/
theorem followers_accessors (policy : AccessorPolicy) (hg : g.WellFormed) (field : Symbol)
    (name : String) :
    let found := (followers policy field (g.accessors field) (Name.property name) g
      (g.accessors field).methods).1
    let Free := ∀ b other, Candidate g field name b other →
      ¬ collides g field other (Name.property name) (g.accessors field)
    (¬ Free ∧ found = none) ∨ (Free ∧ ∃ fs, found = some fs ∧ ∀ f, f ∈ fs ↔
      Candidate g field name f.method f.spelling ∧
        f.name = f.spelling.withProperty (Name.property name) ∧
        (f.escalated ↔ Escalates policy g f.method)) := by
  intro found Free
  have hmethods : ∀ m ∈ (g.accessors field).methods, m ∈ g.symbols := fun m hm =>
    (mem_accessors hm).1
  rcases followers_cases policy hg (g.accessors field) (Name.property name) hmethods with
    ⟨⟨m, hm, hcollision⟩, hnone⟩ | ⟨hno, fs, hfs, hmem⟩
  · refine Or.inl ⟨fun hfree => ?_, hnone⟩
    obtain ⟨other, hcandidate, hcollides⟩ := (judge_eq_collision hg hm).1 hcollision
    exact hfree m other hcandidate hcollides
  · have hfree : Free := fun b other hb hcollides =>
      hno b hb.mem ((judge_eq_collision hg hb.mem).2 ⟨other, hb, hcollides⟩)
    refine Or.inr ⟨hfree, fs, hfs, fun f => ?_⟩
    rw [hmem]
    constructor
    · rintro ⟨m, hm, hjudge⟩
      obtain ⟨rfl, hcandidate, -, hname, hescalated⟩ := (judge_eq_follower hg hm).1 hjudge
      exact ⟨hcandidate, hname, hescalated⟩
    · rintro ⟨hcandidate, hname, hescalated⟩
      exact ⟨f.method, hcandidate.mem, (judge_eq_follower hg hcandidate.mem).2
        ⟨rfl, hcandidate, hfree _ _ hcandidate, hname, hescalated⟩⟩

/-- **What the cascade keeps**, told by the graph alone. -/
theorem mem_settled_iff (hg : g.WellFormed) {f : Follower} :
    f ∈ (settled policy g field name).1 ↔ Keeps policy g field name f.method f.spelling ∧
      f.name = f.spelling.withProperty (Name.property name) ∧ ¬ f.escalated := by
  unfold settled
  split
  · next hother =>
      refine iff_of_false List.not_mem_nil fun h => ?_
      rcases hother with hkind | hfield
      · exact hkind h.1.kind
      · simp [h.1.isField] at hfield
  · next hfield =>
      simp only [not_or, not_not, Bool.not_eq_true', Bool.not_eq_false] at hfield
      obtain ⟨hkind, hfield⟩ := hfield
      dsimp only
      rcases followers_accessors policy hg field name with
        ⟨hcollides, hnone⟩ | ⟨hfree, fs, hfs, hfollows⟩
      · rw [hnone]
        exact iff_of_false List.not_mem_nil fun h => hcollides h.1.free
      · rw [hfs, Option.map_some, Option.getD_some, mem_settle, hfollows]
        constructor
        · rintro ⟨⟨hcandidate, hname, hescalated⟩, hquiet, hwhole⟩
          refine ⟨⟨hkind, hfield, hcandidate, hfree, mt hescalated.2 hquiet,
            fun hskip b other hb hsay => ?_⟩, hname, hquiet⟩
          have hb' : (⟨b, other, other.withProperty (Name.property name), true⟩ : Follower) ∈ fs :=
            (hfollows _).2 ⟨hb, rfl, iff_of_true rfl hsay⟩
          exact hwhole hskip _ hb' rfl
        · rintro ⟨hkeeps, hname, hquiet⟩
          refine ⟨⟨hkeeps.candidate, hname, iff_of_false hquiet hkeeps.quiet⟩, hquiet,
            fun hskip e he hescalated => ?_⟩
          obtain ⟨hcandidate, -, hsay⟩ := (hfollows e).1 he
          exact hkeeps.whole hskip _ _ hcandidate (hsay.1 hescalated)

theorem Keeps.mem {a : Symbol} {spelling : Name.Accessor}
    (h : Keeps policy g field name a spelling) : a ∈ g.symbols :=
  (mem_accessors h.candidate.mem).1

theorem Keeps.kind_eq {a : Symbol} {spelling : Name.Accessor}
    (h : Keeps policy g field name a spelling) : a.kind = .method :=
  (Symbol.serves_iff.1 (spelled_of_mem_methods h.candidate.mem h.candidate.spelled).1).1

/-- An accessor that is kept does not have the name of the field. -/
theorem Keeps.name_ne {a : Symbol} {spelling : Name.Accessor}
    (h : Keeps policy g field name a spelling) : a.name ≠ field.name :=
  Workflow.accessor_name_ne h.candidate.mem

end Cascade

/-! ## Companions -/

namespace Graph

variable {g : Graph}

/-- Parameters are variables other than fields, and neither override nor are overridden. -/
structure LocalParameters (g : Graph) : Prop where
  kind : ∀ m ∈ g.symbols, ∀ q ∈ g.symbols, q.id ∈ m.parameters →
    q.kind = .variable ∧ ¬ q.isField
  edges : ∀ m ∈ g.symbols, ∀ e ∈ g.overrideEdges, e.1 ∉ m.parameters ∧ e.2 ∉ m.parameters

/-- A member, its roots and everything that overrides one of them. -/
def Kindred (g : Graph) (a m : SymbolId) : Prop :=
  m = a ∨ ∃ r, (ReflTransGen g.Overrides a r ∧ ∀ o, ¬ g.Overrides r o) ∧
    ReflTransGen g.Overrides m r

/-- Only the member itself can be in its family without taking part in an override. -/
theorem Kindred.eq_or_edge {a m : SymbolId} (h : g.Kindred a m) :
    m = a ∨ ∃ e ∈ g.overrideEdges, m = e.1 ∨ m = e.2 := by
  rcases h with rfl | ⟨r, ⟨habove, -⟩, hbelow⟩
  · exact Or.inl rfl
  · rcases ReflTransGen.cases_head hbelow with rfl | ⟨o, hstep, -⟩
    · rcases ReflTransGen.cases_tail habove with rfl | ⟨o, -, hstep⟩
      · exact Or.inl rfl
      · exact Or.inr ⟨_, hstep, Or.inr rfl⟩
    · exact Or.inr ⟨_, hstep, Or.inl rfl⟩

theorem InStep.nameOf_of_kindred (hi : g.InStep) {a m : SymbolId} (h : g.Kindred a m) :
    g.nameOf m = g.nameOf a := by
  rcases h with rfl | ⟨r, ⟨habove, -⟩, hbelow⟩
  · rfl
  · exact (hi.nameOf_eq hbelow).trans (hi.nameOf_eq habove).symm

/-- What takes part in an override is no parameter. -/
theorem LocalParameters.not_mem (hp : g.LocalParameters) {m : Symbol} (hm : m ∈ g.symbols)
    {x y : SymbolId} (hy : y ∉ m.parameters)
    (h : x = y ∨ ∃ e ∈ g.overrideEdges, x = e.1 ∨ x = e.2) : x ∉ m.parameters := by
  rcases h with rfl | ⟨e, he, rfl | rfl⟩
  · exact hy
  · exact (hp.edges m hm e he).1
  · exact (hp.edges m hm e he).2

end Graph

variable {policy : AccessorPolicy} {g : Graph} {s : Symbol} {name : String}

/-- What changes its name with `s`: what overrides it, the families of the accessors that are kept
with it, and the parameters of these that are spelled like the old property. -/
inductive Companion (policy : AccessorPolicy) (g : Graph) (s : Symbol) (name : String) :
    Rename → Prop
  | self : Companion policy g s name ⟨s.id, name⟩
  | overrider {m : Symbol} (hm : m ∈ g.symbols) (physical : m.isPhysical)
      (below : TransGen g.Overrides m.id s.id) : Companion policy g s name ⟨m.id, name⟩
  | member {a m : Symbol} {spelling : Name.Accessor}
      (kept : Cascade.Keeps policy g s name a spelling) (hm : m ∈ g.symbols)
      (physical : m.isPhysical) (kindred : g.Kindred a.id m.id) :
      Companion policy g s name ⟨m.id, spelling.withProperty (Name.property name)⟩
  | parameter {a m q : Symbol} {spelling : Name.Accessor}
      (kept : Cascade.Keeps policy g s name a spelling) (writes : spelling.verb.isSetter)
      (hm : m ∈ g.symbols) (physical : m.isPhysical) (kindred : g.Kindred a.id m.id)
      (hq : q ∈ g.symbols) (first : m.parameters.head? = some q.id) (editable : q.isPhysical)
      (old : q.name = Name.property s.name) (new : q.name ≠ Name.property name) :
      Companion policy g s name ⟨q.id, Name.property name⟩

namespace Companion

/-- A companion stands at or below the symbol, belongs to the family of an accessor or is a
parameter. -/
theorem cases_role {r : Rename} (h : Companion policy g s name r) :
    (r.name = name ∧ ReflTransGen g.Overrides r.symbol s.id) ∨
      (∃ a spelling, Cascade.Keeps policy g s name a spelling ∧ g.Kindred a.id r.symbol ∧
        r.name = spelling.withProperty (Name.property name)) ∨
      (r.name = Name.property name ∧ s.isField ∧
        ∃ m ∈ g.symbols, ∃ q ∈ g.symbols, r.symbol = q.id ∧ q.id ∈ m.parameters) := by
  cases h with
  | self => exact Or.inl ⟨rfl, .refl⟩
  | overrider _ _ below => exact Or.inl ⟨rfl, below.to_reflTransGen⟩
  | member kept _ _ kindred => exact Or.inr (Or.inl ⟨_, _, kept, kindred, rfl⟩)
  | parameter kept _ hm _ _ hq first =>
      exact Or.inr (Or.inr ⟨rfl, kept.isField, _, hm, _, hq, rfl, List.mem_of_mem_head? first⟩)

/-- What stands at or below a field is no parameter. -/
theorem not_parameter_of_below (hp : g.LocalParameters) (hs : s ∈ g.symbols) (hfield : s.isField)
    {x : SymbolId} (hx : ReflTransGen g.Overrides x s.id) {m : Symbol} (hm : m ∈ g.symbols) :
    x ∉ m.parameters := by
  refine hp.not_mem hm (fun hmem => (hp.kind m hm s hs hmem).2 hfield) ?_
  rcases ReflTransGen.cases_head hx with rfl | ⟨o, hstep, -⟩
  · exact Or.inl rfl
  · exact Or.inr ⟨_, hstep, Or.inl rfl⟩

/-- What belongs to the family of an accessor is no parameter. -/
theorem not_parameter_of_kindred (hp : g.LocalParameters) {a : Symbol} {spelling : Name.Accessor}
    (kept : Cascade.Keeps policy g s name a spelling) {x : SymbolId} (hx : g.Kindred a.id x)
    {m : Symbol} (hm : m ∈ g.symbols) : x ∉ m.parameters := by
  refine hp.not_mem hm (fun hmem => ?_) hx.eq_or_edge
  have hkind := (hp.kind m hm a kept.mem hmem).1
  rw [kept.kind_eq] at hkind
  cases hkind

/-- **No two companions differ on a symbol.** Members keep the names of what they override, so the
old name of a companion tells how it came into the plan. -/
theorem name_unique (hg : g.WellFormed) (hi : g.InStep) (hp : g.LocalParameters)
    (hs : s ∈ g.symbols) {r e : Rename} (hr : Companion policy g s name r)
    (he : Companion policy g s name e) (hid : r.symbol = e.symbol) : r.name = e.name := by
  have hkindred : ∀ {a spelling x}, Cascade.Keeps policy g s name a spelling → g.Kindred a.id x →
      g.nameOf x = a.name := fun kept hx => by
    rw [hi.nameOf_of_kindred hx, hg.nameOf_id kept.mem]
  -- A field is not spelled like its accessors.
  have hapart : ∀ {a spelling x}, Cascade.Keeps policy g s name a spelling → g.Kindred a.id x →
      ¬ ReflTransGen g.Overrides x s.id := fun kept hx hbelow =>
    kept.name_ne (by rw [← hkindred kept hx, hi.nameOf_eq hbelow, hg.nameOf_id hs])
  rcases hr.cases_role with ⟨hname, hx⟩ | ⟨a, spelling, kept, hx, hname⟩ |
      ⟨hname, hfield, m, hm, q, -, hx, hq⟩ <;>
    rcases he.cases_role with ⟨hname', hy⟩ | ⟨b, other, kept', hy, hname'⟩ |
      ⟨hname', hfield', m', hm', q', -, hy, hq'⟩ <;>
    rw [← hid] at hy
  · exact hname.trans hname'.symm
  · exact absurd hx (hapart kept' hy)
  · rw [← hy] at hq'
    exact absurd hq' (not_parameter_of_below hp hs hfield' hx hm')
  · exact absurd hy (hapart kept hx)
  · -- Methods with one name have one spelling.
    have hspelling := kept.candidate.spelled
    rw [← hkindred kept hx, hkindred kept' hy, kept'.candidate.spelled] at hspelling
    rw [hname, hname', Option.some.inj hspelling]
  · rw [← hy] at hq'
    exact absurd hq' (not_parameter_of_kindred hp kept hx hm')
  · rw [← hx] at hq
    exact absurd hq (not_parameter_of_below hp hs hfield hy hm)
  · rw [← hx] at hq
    exact absurd hq (not_parameter_of_kindred hp kept' hy hm)
  · exact hname.trans hname'.symm

end Companion

/-! ## Plans -/

theorem kin_iff (hg : g.WellFormed) {a m : Symbol} (ha : a ∈ g.symbols) (physical : a.isPhysical) :
    Cascade.Kin g a.id m ↔ m ∈ g.symbols ∧ m.isPhysical ∧ g.Kindred a.id m.id := by
  have hroot : (∃ r ∈ g.findRoots a.id, m.id = r ∨ m.id ∈ g.overriders r) ↔
      ∃ r, (ReflTransGen g.Overrides a.id r ∧ ∀ o, ¬ g.Overrides r o) ∧
        ReflTransGen g.Overrides m.id r := by
    refine exists_congr fun r => ?_
    rw [mem_findRoots hg (mem_symbolIds_of_mem ha)]
    refine and_congr_right fun habove => eq_or_mem_overriders hg ?_
    exact mem_symbolIds_of_reflTransGen hg (mem_symbolIds_of_mem ha) habove.1
  rw [Cascade.Kin, hroot]
  refine and_congr_right fun hm => ?_
  constructor
  · rintro (hid | ⟨hphysical, h⟩)
    · exact ⟨hg.symbol_ext hm ha hid ▸ physical, Or.inl hid⟩
    · exact ⟨hphysical, Or.inr h⟩
  · rintro ⟨hphysical, hid | h⟩
    · exact Or.inl hid
    · exact Or.inr ⟨hphysical, h⟩

/-- The companions of a symbol are what giving it a name drags along, and the symbol itself. -/
theorem companion_iff (hg : g.WellFormed) (hs : s ∈ g.symbols) {r : Rename} :
    Companion policy g s name r ↔ r = ⟨s.id, name⟩ ∨ Drags policy g s name r := by
  have hoverrider : ∀ {m}, m ∈ g.overriders s.id ↔ m ≠ s.id ∧ TransGen g.Overrides m s.id :=
    mem_overriders hg (mem_symbolIds_of_mem hs)
  have hsettled : ∀ {a spelling}, Cascade.Keeps policy g s name a spelling →
      (⟨a, spelling, spelling.withProperty (Name.property name), false⟩ : Cascade.Follower) ∈
        (Cascade.settled policy g s name).1 := fun kept =>
    (Cascade.mem_settled_iff hg).2 ⟨kept, rfl, Bool.false_ne_true⟩
  have hkin : ∀ {a spelling m}, Cascade.Keeps policy g s name a spelling →
      (Cascade.Kin g a.id m ↔ m ∈ g.symbols ∧ m.isPhysical ∧ g.Kindred a.id m.id) := fun kept =>
    kin_iff hg kept.mem kept.candidate.physical
  constructor
  · intro h
    cases h with
    | self => exact Or.inl rfl
    | @overrider m hm physical below =>
        by_cases hid : m.id = s.id
        · exact Or.inl (by rw [hid])
        · exact Or.inr (.overrider hm physical (hoverrider.2 ⟨hid, below⟩))
    | member kept hm physical kindred =>
        exact Or.inr (.follower (hsettled kept)
          ⟨_, (hkin kept).2 ⟨hm, physical, kindred⟩, Or.inl rfl⟩)
    | parameter kept writes hm physical kindred hq first editable old new =>
        refine Or.inr (.follower (hsettled kept)
          ⟨_, (hkin kept).2 ⟨hm, physical, kindred⟩, Or.inr ?_⟩)
        exact (Cascade.mem_setterParameter_iff hg).2
          ⟨writes, _, hq, first, editable, old, new, rfl⟩
  · rintro (rfl | ⟨hm, physical, overrides⟩ | ⟨hf, m, hm, hr⟩)
    · exact .self
    · exact .overrider hm physical (hoverrider.1 overrides).2
    · obtain ⟨kept, hname, -⟩ := (Cascade.mem_settled_iff hg).1 hf
      obtain ⟨hmem, physical, kindred⟩ := (hkin kept).1 hm
      rcases hr with rfl | hr
      · rw [hname]
        exact .member kept hmem physical kindred
      · obtain ⟨writes, q, hq, first, editable, old, new, rfl⟩ :=
          (Cascade.mem_setterParameter_iff hg).1 hr
        exact .parameter kept writes hmem physical kindred hq first editable old new

namespace Workflow

/-- **The plan for a symbol is exactly closed**: it holds the companions of the symbol, each once
and under its own new name, and nothing else. -/
theorem mem_entries_buildPlan (policy : AccessorPolicy) (hg : g.WellFormed) (hi : g.InStep)
    (hp : g.LocalParameters) (hs : s ∈ g.symbols) (name : String) :
    let p := (buildPlan policy g s name).1
    p.symbols.Nodup ∧ ∀ r, r ∈ p.entries ↔ Companion policy g s name r := by
  intro p
  have hplan : PlanFor policy g s name p := buildPlan_planFor hg policy s name
  have hentry : ∀ r ∈ p.entries, Companion policy g s name r := fun r hr =>
    (companion_iff hg hs).2 (hplan.entry r hr)
  refine ⟨p.entries_nodup, fun r => ⟨hentry r, fun hr => ?_⟩⟩
  have hmem : r.symbol ∈ p.symbols := by
    rw [hplan.mem_symbols]
    rcases (companion_iff hg hs).1 hr with rfl | hdrag
    · exact Or.inl rfl
    · exact Or.inr ⟨r, hdrag, rfl⟩
  obtain ⟨e, he, hid⟩ := List.mem_map.1 hmem
  obtain rfl : e = r := by
    have hname := (hentry e he).name_unique hg hi hp hs hr hid
    cases e
    cases r
    cases hid
    cases hname
    rfl
  exact he

/-- The level of a tank. -/
def tankLevel : Symbol :=
  { id := "Tank::level", name := "_level", kind := .variable, visibility := .prot,
    scope := some "Tank", isField := true }

/-- A tank whose setter overrides those of two bases, one of which a probe overrides too. -/
def tank : Graph where
  scopes := [
    { id := "Gauge", kind := .type, owner := some "::Gauge" },
    { id := "Meter", kind := .type, owner := some "::Meter" },
    { id := "Tank", kind := .type, owner := some "::Tank" },
    { id := "Probe", kind := .type, owner := some "::Probe" },
    { id := "Probe.set_level", kind := .function, parent := some "Probe" }]
  symbols := [
    { id := "::Gauge", name := "Gauge", kind := .type },
    { id := "Gauge::set_level", name := "_set_level", kind := .method, visibility := .prot,
      scope := some "Gauge" },
    { id := "::Meter", name := "Meter", kind := .type },
    { id := "Meter::set_level", name := "_set_level", kind := .method, visibility := .prot,
      scope := some "Meter" },
    { id := "::Tank", name := "Tank", kind := .type },
    tankLevel,
    { id := "Tank::set_level", name := "_set_level", kind := .method, visibility := .prot,
      scope := some "Tank", parameters := ["Tank.set_level::value"], isOverride := true },
    { id := "Tank.set_level::value", name := "value", kind := .variable, visibility := .priv,
      isLocal := true },
    { id := "::Probe", name := "Probe", kind := .type },
    { id := "Probe::set_level", name := "_set_level", kind := .method, visibility := .prot,
      scope := some "Probe", parameters := ["Probe.set_level::level"], isOverride := true },
    { id := "Probe.set_level::level", name := "level", kind := .variable, visibility := .priv,
      scope := some "Probe.set_level", isLocal := true }]
  naming := ["::Gauge", "Gauge::set_level", "::Meter", "Meter::set_level", "::Tank", "Tank::level",
    "Tank::set_level", "Tank.set_level::value", "::Probe", "Probe::set_level",
    "Probe.set_level::level"]
  overrideEdges := [("Tank::set_level", "Gauge::set_level"),
    ("Tank::set_level", "Meter::set_level"), ("Probe::set_level", "Meter::set_level")]

/-- The setter goes with both of its roots and with the probe below one of them, whose parameter is
spelled like the field. -/
theorem mem_entries_buildPlan_tank :
    (buildPlan .skipAccessor tank tankLevel "_depth").1.symbols.length = 6 ∧
      Companion .skipAccessor tank tankLevel "_depth" ⟨"Meter::set_level", "_set_depth"⟩ ∧
      Companion .skipAccessor tank tankLevel "_depth" ⟨"Probe.set_level::level", "depth"⟩ := by
  have hp : tank.LocalParameters := ⟨by decide +kernel, by decide +kernel⟩
  obtain ⟨-, hentries⟩ := mem_entries_buildPlan .skipAccessor (by decide +kernel)
    (by decide +kernel) hp (by decide +kernel : tankLevel ∈ tank.symbols) "_depth"
  exact ⟨by decide +kernel, (hentries _).1 (by decide +kernel), (hentries _).1 (by decide +kernel)⟩

end Workflow

end Pseudonym
