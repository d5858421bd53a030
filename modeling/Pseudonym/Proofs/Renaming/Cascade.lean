import Pseudonym.Proofs.Graph.Accessors
import Pseudonym.Proofs.Graph.Override
import Pseudonym.Proofs.Renaming.Plan
import Pseudonym.Renaming.Workflow

/-!
# The content of a cascade

Building a cascade asks for roots, which the graph remembers. All functions on the way only ask
(`Asks`): the memory is all that they change, and it does not change their answers. This is shown
along their composition (`Asks.bind`), so that a cascade can be described by the graph it started
with. Followers are accessors of the field under their names for the new property (`mem_settled`);
the cascade renames the family of each follower and the parameters of its setters, and nothing else
(`mem_build`).
-/

namespace Pseudonym

open Relation

namespace Graph

/-! ## Remembered answers -/

/-- Asking for roots finds them and changes nothing but the memory. -/
theorem WellFormed.deepestRoots_eq {g : Graph} (hg : g.WellFormed) (id : SymbolId) :
    ∃ cache, g.deepestRoots id = (g.findRoots id, { g with rootCache := cache }) := by
  have hroots := hg.deepestRoots_fst id
  unfold Graph.deepestRoots at hroots ⊢
  split at hroots
  · exact ⟨g.rootCache, congrArg (·, g) hroots⟩
  · exact ⟨_, rfl⟩

/-- The graphs differ at most in the answers about roots that they remember, and all these answers
are right. -/
structure Recalls (g h : Graph) : Prop where
  left : g.WellFormed
  right : h.WellFormed
  same : ∃ cache, h = { g with rootCache := cache }

namespace Recalls

theorem refl {g : Graph} (hg : g.WellFormed) : Recalls g g := ⟨hg, hg, g.rootCache, rfl⟩

theorem trans {g h k : Graph} (hgh : Recalls g h) (hhk : Recalls h k) : Recalls g k := by
  obtain ⟨hg, -, _, rfl⟩ := hgh
  obtain ⟨-, hk, c, rfl⟩ := hhk
  exact ⟨hg, hk, c, rfl⟩

theorem renamed {g h : Graph} (r : Recalls g h) : Renamed Symbol.name g h := by
  obtain ⟨-, -, _, rfl⟩ := r
  exact Renamed.of_eq rfl rfl rfl rfl

theorem symbols_eq {g h : Graph} (r : Recalls g h) : h.symbols = g.symbols := by
  obtain ⟨-, -, _, rfl⟩ := r
  rfl

end Recalls

/-- The computation only asks about the graph: what is remembered does not change its answer, and
the memory is all that it changes. -/
def Asks {α : Type} (g : Graph) (ask : Graph → α × Graph) : Prop :=
  ∀ h, Recalls g h → (ask h).1 = (ask g).1 ∧ Recalls g (ask h).2

namespace Asks

variable {α β : Type} {g : Graph} {ask : Graph → α × Graph}

theorem answer_eq (hask : g.Asks ask) {h : Graph} (r : Recalls g h) : (ask h).1 = (ask g).1 :=
  (hask h r).1

theorem recalls (hask : g.Asks ask) (hg : g.WellFormed) : Recalls g (ask g).2 :=
  (hask g (Recalls.refl hg)).2

/-- What leaves the memory alone and does not look at it. -/
theorem of_unremembered (hsame : ∀ h, (ask h).2 = h)
    (hanswer : ∀ cache, (ask { g with rootCache := cache }).1 = (ask g).1) : g.Asks ask := by
  intro h r
  rw [hsame]
  refine ⟨?_, r⟩
  obtain ⟨-, -, c, rfl⟩ := r
  exact hanswer c

/-- What comes next may depend on the answer. -/
theorem bind (next : α → Graph → β × Graph) (hask : g.Asks ask)
    (hnext : g.Asks (next (ask g).1)) : g.Asks fun h => next (ask h).1 (ask h).2 := by
  intro h r
  obtain ⟨hanswer, hafter⟩ := hask h r
  have hg := hask.recalls r.left
  dsimp only
  rw [hanswer]
  exact ⟨(hnext.answer_eq hafter).trans (hnext.answer_eq hg).symm, (hnext _ hafter).2⟩

end Asks

theorem deepestRoots_asks {g : Graph} {id : SymbolId} (hid : id ∈ g.symbolIds) :
    g.Asks (·.deepestRoots id) := by
  rintro h ⟨hg, hh, c, rfl⟩
  obtain ⟨c', heq⟩ := hh.deepestRoots_eq id
  refine ⟨?_, hg, hh.deepestRoots hid, c', congrArg Prod.snd heq⟩
  exact (hh.deepestRoots_fst id).trans (hg.deepestRoots_fst id).symm

end Graph

open Pseudonym.Graph

/-! ## Families -/

/-- Keeping the first of equal items loses none. -/
theorem mem_foldl_insert {α : Type} [DecidableEq α] {item : α} : ∀ (xs done : List α),
    item ∈ xs.foldl (fun ids id => if id ∈ ids then ids else ids ++ [id]) done ↔
      item ∈ done ∨ item ∈ xs
  | [], done => by simp
  | x :: xs, done => by
      rw [List.foldl_cons, mem_foldl_insert xs]
      by_cases hx : x ∈ done
      · rw [if_pos hx, List.mem_cons]
        constructor
        · rintro (h | h)
          · exact Or.inl h
          · exact Or.inr (Or.inr h)
        · rintro (h | rfl | h)
          · exact Or.inl h
          · exact Or.inl hx
          · exact Or.inr h
      · rw [if_neg hx, List.mem_append, List.mem_singleton, List.mem_cons, or_assoc]

namespace Cascade

/-- The members that change names with a method: itself, its roots and their overriders as far as
they are part of the program text. -/
def Kin (g : Graph) (method : SymbolId) (m : Symbol) : Prop :=
  m ∈ g.symbols ∧
    (m.id = method ∨
      (m.isPhysical ∧ ∃ r ∈ g.findRoots method, m.id = r ∨ m.id ∈ g.overriders r))

theorem mem_family {g : Graph} (hg : g.WellFormed) {method : SymbolId} {m : Symbol} :
    m ∈ (family g method).1 ↔ Kin g method m := by
  obtain ⟨c, hroots⟩ := hg.deepestRoots_eq method
  rw [family, hroots]
  dsimp only
  -- The look-ups below do not ask the memory, so they are those of `g`.
  set found := (symbolsOf { g with rootCache := c }
    (((g.findRoots method).flatMap fun r => r :: overriders { g with rootCache := c } r).foldl
      (fun ids id => if id ∈ ids then ids else ids ++ [id]) [])).filter (·.isPhysical) with hfound
  have hmem : ∀ a, a ∈ found ↔ a ∈ g.symbols ∧ a.isPhysical ∧
      ∃ r ∈ g.findRoots method, a.id = r ∨ a.id ∈ g.overriders r := by
    intro a
    rw [hfound, List.mem_filter]
    have hof : a ∈ symbolsOf { g with rootCache := c } (((g.findRoots method).flatMap fun r =>
        r :: overriders { g with rootCache := c } r).foldl
          (fun ids id => if id ∈ ids then ids else ids ++ [id]) []) ↔
        a ∈ g.symbols ∧ a.id ∈ ((g.findRoots method).flatMap fun r => r :: g.overriders r).foldl
          (fun ids id => if id ∈ ids then ids else ids ++ [id]) [] :=
      hg.mem_symbolsOf
    rw [hof, mem_foldl_insert]
    simp only [List.not_mem_nil, false_or, List.mem_flatMap, List.mem_cons, and_assoc]
    refine and_congr_right fun _ => and_comm
  split
  · next hany =>
      obtain ⟨a, ha, hid⟩ := List.any_eq_true.1 hany
      rw [hmem]
      refine and_congr_right fun hm => ⟨Or.inr, ?_⟩
      rintro (hmid | h)
      · obtain ⟨hag, h⟩ := (hmem a).1 ha
        have ham : a = m := hg.symbol_ext hag hm (by simpa [hmid] using hid)
        exact ham ▸ h
      · exact h
  · rw [List.mem_append, hmem, Option.mem_toList]
    have hself : symbol? { g with rootCache := c } method = some m ↔
        m ∈ g.symbols ∧ m.id = method :=
      hg.symbol?_eq_some
    rw [hself, Kin, and_or_left]

theorem family_asks {g : Graph} {method : SymbolId} (hm : method ∈ g.symbolIds) :
    g.Asks (family · method) := by
  refine (deepestRoots_asks hm).bind (fun roots h =>
    let ids := (roots.flatMap fun r => r :: h.overriders r).foldl
      (fun ids id => if id ∈ ids then ids else ids ++ [id]) []
    let found := (h.symbolsOf ids).filter (·.isPhysical)
    if found.any (·.id = method) then (found, h)
    else ((h.symbol? method).toList ++ found, h)) (.of_unremembered (fun h => ?_) fun c => ?_)
  · dsimp only
    split <;> rfl
  · simp only [apply_ite Prod.fst]
    rfl

/-! ## Followers -/

section Followers

variable {policy : AccessorPolicy} {field : Symbol} {pair : AccessorPair} {property : String}

theorem isEditable_asks {g : Graph} {method : Symbol} (hm : method ∈ g.symbols) :
    g.Asks (isEditable · method) := by
  have hroots : g.Asks (·.deepestRoots method.id) := deepestRoots_asks (mem_symbolIds_of_mem hm)
  unfold isEditable
  split
  · exact .of_unremembered (fun _ => rfl) fun _ => rfl
  · exact hroots.bind (fun roots h => ((h.symbolsOf roots).all (·.isPhysical), h))
      (.of_unremembered (fun _ => rfl) fun _ => rfl)

theorem judge_asks {g : Graph} {method : Symbol} (hm : method ∈ g.symbols) :
    g.Asks (judge policy · field pair property method) := by
  unfold judge
  cases Name.accessor? method.name with
  | none => exact .of_unremembered (fun _ => rfl) fun _ => rfl
  | some spelling =>
      dsimp only
      split
      · exact .of_unremembered (fun _ => rfl) fun _ => rfl
      · refine (isEditable_asks hm).bind (fun editable h =>
          if !editable then (Contribution.nothing, h)
          else if collides h field spelling property pair then (Contribution.collision, h)
          else (Contribution.follower ⟨method, spelling, _,
            policy ≠ .proceed && Filter.isTransitivelyPublic h method⟩, h))
          (.of_unremembered (fun h => ?_) fun c => ?_)
        · split_ifs <;> rfl
        · simp only [apply_ite Prod.fst]
          rfl

/-- What a follower is: an accessor under the name it has for the new property, which is not the
name it had. -/
structure Follower.Spelled (property : String) (f : Follower) : Prop where
  spelling_eq : Name.accessor? f.method.name = some f.spelling
  name_eq : f.name = f.spelling.withProperty property
  name_ne : f.name ≠ f.method.name

theorem judge_follower {g : Graph} {method : Symbol} {f : Follower}
    (h : (judge policy g field pair property method).1 = .follower f) :
    f.method = method ∧ f.Spelled property := by
  unfold judge at h
  cases hspelling : Name.accessor? method.name with
  | none =>
      rw [hspelling] at h
      cases h
  | some spelling =>
      rw [hspelling] at h
      dsimp only at h
      split at h
      · cases h
      · next hname =>
          split at h
          · cases h
          · split at h
            · cases h
            · obtain rfl := Contribution.follower.inj h
              exact ⟨rfl, hspelling, rfl, hname⟩

/-- What a method contributes, followed by what `rest` finds in the other ones. -/
def Contribution.before (rest : Graph → Option (List Follower) × Graph) :
    Contribution → Graph → Option (List Follower) × Graph
  | .collision, h => (none, h)
  | .nothing, h => rest h
  | .follower f, h => ((rest h).1.map (f :: ·), (rest h).2)

theorem followers_cons (h : Graph) (m : Symbol) (ms : List Symbol) :
    followers policy field pair property h (m :: ms) =
      (judge policy h field pair property m).1.before
        (followers policy field pair property · ms) (judge policy h field pair property m).2 := by
  rw [followers]
  rcases judge policy h field pair property m with ⟨_ | _ | _, h'⟩ <;> rfl

theorem followers_asks {g : Graph} : ∀ {ms : List Symbol}, (∀ m ∈ ms, m ∈ g.symbols) →
    g.Asks (followers policy field pair property · ms)
  | [], _ => .of_unremembered (fun _ => rfl) fun _ => rfl
  | m :: ms, hms => by
      have hjudge : g.Asks (judge policy · field pair property m) :=
        judge_asks (hms m List.mem_cons_self)
      have hrest : g.Asks (followers policy field pair property · ms) :=
        followers_asks fun a ha => hms a (List.mem_cons_of_mem _ ha)
      have hnext : ∀ contribution : Contribution,
          g.Asks (contribution.before (followers policy field pair property · ms)) := by
        intro contribution
        cases contribution with
        | collision => exact .of_unremembered (fun _ => rfl) fun _ => rfl
        | nothing => exact hrest
        | follower f =>
            exact hrest.bind (fun more h => (more.map (f :: ·), h))
              (.of_unremembered (fun _ => rfl) fun _ => rfl)
      simp only [followers_cons]
      exact hjudge.bind (Contribution.before _) (hnext _)

/-- Every follower is what its method was judged to be, in a graph that differs from the first one
at most in what it remembers. -/
theorem exists_judge_of_mem_followers {g : Graph} : ∀ {ms : List Symbol} {h : Graph}
    {fs : List Follower}, (followers policy field pair property h ms).1 = some fs →
    ∀ {f : Follower}, f ∈ fs → f.method ∈ ms ∧ ∃ k,
      (judge policy k field pair property f.method).1 = .follower f ∧
        (Recalls g h → (∀ m ∈ ms, m ∈ g.symbols) → Recalls g k)
  | [], _, _, hfs, f, hf => by
      obtain rfl := Option.some.inj hfs
      cases hf
  | m :: ms, h, fs, hfs, f, hf => by
      -- Judging the first method changes no more than the memory, so the rest goes on from there.
      have hafter : Recalls g h → (∀ a ∈ m :: ms, a ∈ g.symbols) →
          Recalls g (judge policy h field pair property m).2 := fun hgh hms => by
        have hasks : g.Asks (judge policy · field pair property m) :=
          judge_asks (hms m List.mem_cons_self)
        exact (hasks h hgh).2
      have hjudge : ∀ {f}, (judge policy h field pair property m).1 = .follower f →
          f.method = m := fun hf => (judge_follower hf).1
      unfold followers at hfs
      rcases hj : judge policy h field pair property m with ⟨contribution, h'⟩
      rw [hj] at hfs hafter hjudge
      have hrest : ∀ {rest}, (followers policy field pair property h' ms).1 = some rest →
          f ∈ rest → f.method ∈ m :: ms ∧ ∃ k,
            (judge policy k field pair property f.method).1 = .follower f ∧
              (Recalls g h → (∀ a ∈ m :: ms, a ∈ g.symbols) → Recalls g k) := by
        intro rest hrest hf
        obtain ⟨hmem, k, hk, hrecalls⟩ := exists_judge_of_mem_followers hrest hf
        exact ⟨List.mem_cons_of_mem _ hmem, k, hk, fun hgh hms =>
          hrecalls (hafter hgh hms) fun a ha => hms a (List.mem_cons_of_mem _ ha)⟩
      cases contribution with
      | collision => cases hfs
      | nothing => exact hrest hfs hf
      | follower f₀ =>
          dsimp only at hfs
          rcases hmore : followers policy field pair property h' ms with ⟨more, h''⟩
          rw [hmore] at hfs
          obtain ⟨rest, rfl, rfl⟩ := Option.map_eq_some_iff.1 hfs
          rcases List.mem_cons.1 hf with rfl | hf
          · have hmethod := hjudge rfl
            rw [hmethod]
            exact ⟨List.mem_cons_self, h, congrArg Prod.fst hj, fun hgh _ => hgh⟩
          · exact hrest (congrArg Prod.fst hmore) hf

theorem mem_followers {ms : List Symbol} {g : Graph} {fs : List Follower}
    (hfs : (followers policy field pair property g ms).1 = some fs) {f : Follower} (hf : f ∈ fs) :
    f.method ∈ ms ∧ f.Spelled property := by
  obtain ⟨hmem, _, hjudge, -⟩ := exists_judge_of_mem_followers (g := g) hfs hf
  exact ⟨hmem, (judge_follower hjudge).2⟩

theorem settle_subset {fs : List Follower} : settle policy fs ⊆ fs := by
  intro f hf
  unfold settle at hf
  split at hf
  · split at hf
    · cases hf
    · exact List.mem_of_mem_filter hf
  · exact hf

theorem mem_settled {g : Graph} {name : String} {f : Follower}
    (hf : f ∈ (settled policy g field name).1) :
    f.method ∈ (g.accessors field).methods ∧ f.Spelled (Name.property name) := by
  unfold settled at hf
  split at hf
  · cases hf
  · dsimp only at hf
    rcases hfs : followers policy field (g.accessors field) (Name.property name) g
      (g.accessors field).methods with ⟨found, g'⟩
    rw [hfs] at hf
    cases found with
    | none => cases hf
    | some fs => exact mem_followers (by rw [hfs]) (settle_subset hf)

/-- Accessors follow fields only. -/
theorem isField_of_mem_settled {g : Graph} {name : String} {f : Follower}
    (hf : f ∈ (settled policy g field name).1) : field.isField := by
  unfold settled at hf
  split at hf
  · cases hf
  · next h => simpa using (not_or.1 h).2

theorem settled_asks {g : Graph} (name : String) : g.Asks (settled policy · field name) := by
  have hfollowers : g.Asks (followers policy field (g.accessors field) (Name.property name) ·
      (g.accessors field).methods) := followers_asks fun m hm => (mem_accessors hm).1
  unfold settled
  split
  · exact .of_unremembered (fun _ => rfl) fun _ => rfl
  · have hsettle := hfollowers.bind (fun fs h => ((fs.map (settle policy)).getD [], h))
      (.of_unremembered (fun _ => rfl) fun _ => rfl)
    -- The accessors of a field are not remembered, so they are the same in all these graphs.
    intro h r
    have hanswer := hsettle h r
    obtain ⟨-, -, _, rfl⟩ := r
    exact hanswer

end Followers

/-! ## The renames of a cascade -/

/-- A rename of a follower: of a member of its family, or of the parameter of such a member. -/
def FollowerRename (g : Graph) (oldProperty newProperty : String) (f : Follower) (r : Rename) :
    Prop :=
  ∃ m, Kin g f.method.id m ∧
    (r = ⟨m.id, f.name⟩ ∨ r ∈ setterParameter g f.spelling m oldProperty newProperty)

/-- The parameter that changes its name with a setter is the first one, if it is spelled like the
old property. -/
theorem mem_setterParameter_iff {g : Graph} (hg : g.WellFormed) {spelling : Name.Accessor}
    {m : Symbol} {old new : String} {r : Rename} :
    r ∈ setterParameter g spelling m old new ↔ spelling.verb.isSetter ∧
      ∃ q ∈ g.symbols, m.parameters.head? = some q.id ∧ q.isPhysical ∧ q.name = old ∧
        q.name ≠ new ∧ r = ⟨q.id, new⟩ := by
  unfold setterParameter
  cases spelling.verb.isSetter with
  | false => simp
  | true =>
      simp only [Bool.not_true, Bool.false_eq_true, if_false, true_and]
      cases hfirst : m.parameters.head?.bind g.symbol? with
      | none =>
          refine iff_of_false List.not_mem_nil ?_
          rintro ⟨q, hq, hhead, -⟩
          rw [hhead, Option.bind_some, hg.symbol?_id hq] at hfirst
          cases hfirst
      | some q =>
          obtain ⟨id, hhead, hfound⟩ := Option.bind_eq_some_iff.1 hfirst
          obtain ⟨hq, rfl⟩ := hg.symbol?_eq_some.1 hfound
          have honly : ∀ p ∈ g.symbols, m.parameters.head? = some p.id → p = q := fun p hp h =>
            hg.symbol_ext hp hq (Option.some.inj (h.symm.trans hhead))
          dsimp only
          split
          · next hout =>
              refine iff_of_false List.not_mem_nil ?_
              rintro ⟨p, hp, h, hphysical, hold, hnew, -⟩
              obtain rfl := honly p hp h
              rcases hout with h | h | h
              · exact h hold
              · exact hnew h
              · simp [hphysical] at h
          · next hin =>
              simp only [not_or, not_not, Bool.not_eq_true', Bool.not_eq_false] at hin
              obtain ⟨hold, hnew, hphysical⟩ := hin
              rw [List.mem_singleton]
              constructor
              · exact fun hr => ⟨q, hq, hhead, hphysical, hold, hnew, hr⟩
              · rintro ⟨p, hp, h, -, -, -, rfl⟩
                rw [honly p hp h]

/-- The parameter of a setter that is renamed had the name of the old property. -/
theorem mem_setterParameter {g : Graph} (hg : g.WellFormed) {spelling : Name.Accessor} {m : Symbol}
    {oldProperty newProperty : String} {r : Rename}
    (h : r ∈ setterParameter g spelling m oldProperty newProperty) :
    ∃ q ∈ g.symbols, r = ⟨q.id, newProperty⟩ ∧ q.id ∈ m.parameters ∧ q.name = oldProperty ∧
      q.name ≠ newProperty := by
  obtain ⟨-, q, hq, hfirst, -, hold, hnew, rfl⟩ := (mem_setterParameter_iff hg).1 h
  exact ⟨q, hq, rfl, List.mem_of_mem_head? hfirst, hold, hnew⟩

theorem mem_familyRenames {g : Graph} (hg : g.WellFormed) {f : Follower}
    (hf : f.method.id ∈ g.symbolIds) {oldProperty newProperty : String} {r : Rename} :
    r ∈ (familyRenames g f oldProperty newProperty).1 ↔
      FollowerRename g oldProperty newProperty f r := by
  obtain ⟨-, -, c, hc⟩ := (family_asks hf).recalls hg
  unfold familyRenames
  dsimp only
  rw [hc, List.mem_flatMap]
  refine exists_congr fun m => and_congr (mem_family hg) ?_
  rw [List.mem_cons]
  rfl

theorem familyRenames_asks {g : Graph} {f : Follower} (hf : f.method.id ∈ g.symbolIds)
    (oldProperty newProperty : String) :
    g.Asks (familyRenames · f oldProperty newProperty) :=
  (family_asks hf).bind (fun members h => (members.flatMap fun m =>
      ⟨m.id, f.name⟩ :: setterParameter h f.spelling m oldProperty newProperty, h))
    (.of_unremembered (fun _ => rfl) fun _ => rfl)

theorem allRenames_asks {g : Graph} (oldProperty newProperty : String) : ∀ {fs : List Follower},
    (∀ f ∈ fs, f.method.id ∈ g.symbolIds) → g.Asks (allRenames oldProperty newProperty · fs)
  | [], _ => .of_unremembered (fun _ => rfl) fun _ => rfl
  | f :: fs, hfs => by
      have hrest : g.Asks (allRenames oldProperty newProperty · fs) :=
        allRenames_asks oldProperty newProperty fun a ha => hfs a (List.mem_cons_of_mem _ ha)
      exact (familyRenames_asks (hfs f List.mem_cons_self) oldProperty newProperty).bind
        (fun renames h =>
          (renames ++ (allRenames oldProperty newProperty h fs).1,
            (allRenames oldProperty newProperty h fs).2))
        (hrest.bind (fun more h => (_ ++ more, h)) (.of_unremembered (fun _ => rfl) fun _ => rfl))

theorem mem_allRenames {g : Graph} (hg : g.WellFormed) {oldProperty newProperty : String}
    {r : Rename} : ∀ {fs : List Follower}, (∀ f ∈ fs, f.method.id ∈ g.symbolIds) →
      (r ∈ (allRenames oldProperty newProperty g fs).1 ↔
        ∃ f ∈ fs, FollowerRename g oldProperty newProperty f r)
  | [], _ => by simp [allRenames]
  | f :: fs, hfs => by
      have hf := hfs f List.mem_cons_self
      have hfs' : ∀ a ∈ fs, a.method.id ∈ g.symbolIds := fun a ha =>
        hfs a (List.mem_cons_of_mem _ ha)
      have hafter := (familyRenames_asks hf oldProperty newProperty).recalls hg
      rw [allRenames]
      dsimp only
      rw [List.mem_append, (allRenames_asks oldProperty newProperty hfs').answer_eq hafter,
        mem_familyRenames hg hf, mem_allRenames hg hfs', List.exists_mem_cons_iff]

theorem mem_symbolIds_of_mem_settled {g : Graph} {policy : AccessorPolicy} {field : Symbol}
    {name : String} : ∀ f ∈ (settled policy g field name).1, f.method.id ∈ g.symbolIds :=
  fun _ hf => mem_symbolIds_of_mem (mem_accessors (mem_settled hf).1).1

/-- A cascade renames the families of the followers. -/
theorem mem_build {g : Graph} (hg : g.WellFormed) {policy : AccessorPolicy} {field : Symbol}
    {name : String} {r : Rename} :
    r ∈ (build policy g field name).1 ↔ ∃ f ∈ (settled policy g field name).1,
      FollowerRename g (Name.property field.name) (Name.property name) f r := by
  have hafter : Recalls g (settled policy g field name).2 := (settled_asks name).recalls hg
  unfold build
  dsimp only
  rw [(allRenames_asks _ _ mem_symbolIds_of_mem_settled).answer_eq hafter,
    mem_allRenames hg mem_symbolIds_of_mem_settled]

theorem build_asks {g : Graph} (policy : AccessorPolicy) (field : Symbol) (name : String) :
    g.Asks (build policy · field name) :=
  (settled_asks name).bind
    (fun fs h => allRenames (Name.property field.name) (Name.property name) h fs)
    (allRenames_asks _ _ mem_symbolIds_of_mem_settled)

end Cascade

end Pseudonym
