import Pseudonym.Proofs.Renaming.Plan
import Pseudonym.Renaming.Workflow

/-!
# Attempts at a name

The search for a name makes one attempt after the other. An attempt ends in one of three ways: the
candidate is rejected, its plan is refused, or its plan is committed (`Tries`). A search is a chain
of attempts (`Trail`), all of which fail, except that the last one may commit a plan. `search_trail`
says so and tells what the outcome of the search keeps of its attempts, and `process_trail` adds the
check before the search. These are the only places where search and workflow are opened.
-/

namespace Pseudonym.Workflow

/-! ## One attempt -/

/-- What became of an attempt. -/
inductive Attempt where
  | rejected (name : String) (reason : Rejection)
  | refused (plan : Plan) (conflicts : List Conflict)
  | committed (name : String) (plan : Plan)
deriving DecidableEq, Repr

namespace Attempt

/-- Whether a plan was committed. -/
def isCommitted : Attempt → Bool
  | .committed .. => true
  | _ => false

/-- The rejected candidate with the reason. -/
def rejected? : Attempt → Option (String × Rejection)
  | .rejected name reason => some (name, reason)
  | _ => none

/-- The refused plan with its conflicts. -/
def refused? : Attempt → Option (Plan × List Conflict)
  | .refused plan conflicts => some (plan, conflicts)
  | _ => none

/-- Every attempt is a rejection, a refusal or a commit. -/
theorem length_eq (log : List Attempt) :
    log.length = (log.filterMap rejected?).length + (log.filterMap refused?).length +
      log.countP isCommitted := by
  induction log with
  | nil => rfl
  | cons a log ih =>
      rw [List.length_cons, ih, List.filterMap_cons, List.filterMap_cons, List.countP_cons]
      cases a with
      | rejected =>
          simp only [rejected?, refused?, isCommitted, List.length_cons, Bool.false_eq_true,
            if_false]
          omega
      | refused =>
          simp only [rejected?, refused?, isCommitted, List.length_cons, Bool.false_eq_true,
            if_false]
          omega
      | committed =>
          simp only [rejected?, refused?, isCommitted, if_true]
          omega

end Attempt

variable {σ : Type} [Candidates σ]

/-- One attempt at a name for `s`: from the program and the source of candidates before it to those
after it. -/
inductive Tries (policy : Policy) (s : Symbol) : Program × σ → Attempt → Program × σ → Prop
  | rejected {program : Program} {source source' : σ} {name : String} {reason : Rejection}
      (proposed : candidate source s = (name, source'))
      (rejected : rejection? policy.reserved s.name name = some reason) :
      Tries policy s (program, source) (.rejected name reason) (program, source')
  | refused {program : Program} {source source' : σ} {name : String} {plan : Plan}
      {graph graph' : Graph} {changes : Changes} {conflicts : List Conflict}
      (proposed : candidate source s = (name, source'))
      (accepted : rejection? policy.reserved s.name name = none)
      (planned : buildPlan policy.accessors program.graph s name = (plan, graph))
      (refused : program.changes.rename graph plan = (conflicts, graph', changes))
      (reported : conflicts ≠ []) :
      Tries policy s (program, source) (.refused plan conflicts) (⟨graph', changes⟩, source')
  | committed {program : Program} {source source' : σ} {name : String} {plan : Plan}
      {graph graph' : Graph} {changes : Changes}
      (proposed : candidate source s = (name, source'))
      (accepted : rejection? policy.reserved s.name name = none)
      (planned : buildPlan policy.accessors program.graph s name = (plan, graph))
      (committed : program.changes.rename graph plan = ([], graph', changes)) :
      Tries policy s (program, source) (.committed name plan) (⟨graph', changes⟩, source')

/-- A plan is refused for a reason. -/
theorem Tries.conflicts_ne_nil {policy : Policy} {s : Symbol} {start last : Program × σ}
    {a : Attempt} (h : Tries policy s start a last) {plan : Plan} {conflicts : List Conflict}
    (ha : a.refused? = some (plan, conflicts)) : conflicts ≠ [] := by
  cases h with
  | rejected => cases ha
  | committed => cases ha
  | refused _ _ _ _ reported =>
      obtain ⟨rfl, rfl⟩ := Prod.mk.inj (Option.some.inj ha)
      exact reported

/-! ## Chains of attempts -/

/-- Attempts made one after the other. -/
inductive Trail (policy : Policy) (s : Symbol) :
    Program × σ → List Attempt → Program × σ → Prop
  | nil (start : Program × σ) : Trail policy s start [] start
  | cons {start next last : Program × σ} {a : Attempt} {log : List Attempt}
      (first : Tries policy s start a next) (rest : Trail policy s next log last) :
      Trail policy s start (a :: log) last

namespace Trail

variable {policy : Policy} {s : Symbol}

/-- The last attempt of a chain comes after the others. -/
theorem of_concat {start last : Program × σ} {a : Attempt} {log : List Attempt}
    (h : Trail policy s start (log ++ [a]) last) :
    ∃ before, Trail policy s start log before ∧ Tries policy s before a last := by
  induction log generalizing start with
  | nil =>
      cases h with
      | cons first rest =>
          cases rest
          exact ⟨start, .nil start, first⟩
  | cons b log ih =>
      cases h with
      | cons first rest =>
          obtain ⟨before, hbefore, hlast⟩ := ih rest
          exact ⟨before, .cons first hbefore, hlast⟩

/-- Every refused plan has conflicts. -/
theorem conflicts_ne_nil {start last : Program × σ} {log : List Attempt}
    (h : Trail policy s start log last) :
    ∀ r ∈ log.filterMap Attempt.refused?, r.2 ≠ [] := by
  induction h with
  | nil => simp
  | cons first _ ih =>
      intro r hr
      obtain ⟨b, hb, hbr⟩ := List.mem_filterMap.1 hr
      rcases List.mem_cons.1 hb with rfl | hb
      · exact first.conflicts_ne_nil hbr
      · exact ih r (List.mem_filterMap.2 ⟨b, hb, hbr⟩)

end Trail

/-! ## The search -/

/-- What an outcome keeps of the attempts of a search that had `left` of them. -/
structure Searched (left : Nat) (log : List Attempt) (o o' : Outcome) : Prop where
  attempts_eq : o'.attempts = o.attempts + log.length
  rejected_eq : o'.rejected = o.rejected ++ log.filterMap Attempt.rejected?
  conflicts_eq : o'.conflicts = o.conflicts ++ (log.filterMap Attempt.refused?).flatMap (·.2)
  ending :
    (o'.state = .exhausted ∧ log.length = left ∧ (∀ a ∈ log, a.isCommitted = false) ∧
        o'.newName = o.newName ∧ o'.plan = o.plan) ∨
      ∃ failed name plan, log = failed ++ [.committed name plan] ∧
        (∀ a ∈ failed, a.isCommitted = false) ∧ log.length ≤ left ∧
        o'.state = .committed ∧ o'.newName = some name ∧ o'.plan = some plan

/-- A failed attempt comes before those of the rest of the search. -/
theorem Searched.cons {left : Nat} {log : List Attempt} {a : Attempt} {o next o' : Outcome}
    (h : Searched left log next o') (hfailed : a.isCommitted = false)
    (hattempts : next.attempts = o.attempts + 1)
    (hrejected : next.rejected = o.rejected ++ a.rejected?.toList)
    (hconflicts : next.conflicts = o.conflicts ++ a.refused?.toList.flatMap (·.2))
    (hname : next.newName = o.newName) (hplan : next.plan = o.plan) :
    Searched (left + 1) (a :: log) o o' where
  attempts_eq := by
    rw [h.attempts_eq, hattempts, List.length_cons]
    omega
  rejected_eq := by
    rw [h.rejected_eq, hrejected, List.append_assoc]
    cases hr : a.rejected? <;> simp [hr]
  conflicts_eq := by
    rw [h.conflicts_eq, hconflicts, List.append_assoc]
    cases hr : a.refused? <;> simp [hr]
  ending := by
    rcases h.ending with ⟨hstate, hlength, hall, hnew, hp⟩ |
      ⟨failed, name, plan, rfl, hall, hlength, hstate, hnew, hp⟩
    · refine Or.inl ⟨hstate, by rw [List.length_cons, hlength], ?_, hnew.trans hname,
        hp.trans hplan⟩
      exact List.forall_mem_cons.2 ⟨hfailed, hall⟩
    · refine Or.inr ⟨a :: failed, name, plan, rfl, List.forall_mem_cons.2 ⟨hfailed, hall⟩, ?_,
        hstate, hnew, hp⟩
      rw [List.length_cons]
      exact Nat.succ_le_succ hlength

/-- A search is a chain of attempts that its outcome keeps an account of. -/
theorem search_trail (policy : Policy) (s : Symbol) :
    ∀ (left : Nat) (o : Outcome) (program : Program) (source : σ),
      ∃ log, Trail policy s (program, source) log (search policy s left o program source).2 ∧
        Searched left log o (search policy s left o program source).1
  | 0, o, program, source =>
      ⟨[], .nil _, ⟨rfl, by simp [search], by simp [search],
        Or.inl ⟨rfl, rfl, by simp, rfl, rfl⟩⟩⟩
  | left + 1, o, program, source => by
      unfold search
      rcases hnext : candidate source s with ⟨name, source'⟩
      dsimp only
      split
      · next reason hreason =>
          obtain ⟨log, htrail, hsearched⟩ := search_trail policy s left
            { o with attempts := o.attempts + 1, rejected := o.rejected ++ [(name, reason)] }
            program source'
          refine ⟨.rejected name reason :: log, .cons (.rejected hnext hreason) htrail, ?_⟩
          exact hsearched.cons rfl rfl rfl (List.append_nil _).symm rfl rfl
      · next haccepted =>
          rcases hplan : buildPlan policy.accessors program.graph s name with ⟨plan, graph⟩
          dsimp only
          split
          · next graph' changes hrename =>
              refine ⟨[.committed name plan],
                .cons (.committed hnext haccepted hplan hrename) (.nil _), rfl, ?_, ?_, ?_⟩
              · exact (List.append_nil _).symm
              · exact (List.append_nil _).symm
              · exact Or.inr ⟨[], name, plan, rfl, by simp, by simp, rfl, rfl, rfl⟩
          · next conflicts graph' changes hrefused hrename =>
              obtain ⟨log, htrail, hsearched⟩ := search_trail policy s left
                { o with attempts := o.attempts + 1, conflicts := o.conflicts ++ conflicts }
                ⟨graph', changes⟩ source'
              refine ⟨.refused plan conflicts :: log,
                .cons (.refused hnext haccepted hplan hrename hrefused) htrail, ?_⟩
              refine hsearched.cons rfl rfl (List.append_nil _).symm ?_ rfl rfl
              simp [Attempt.refused?]

/-- The outcome of a symbol before any attempt. -/
def unattempted (s : Symbol) (verdict : Eligibility) : Outcome :=
  { symbol := s.id, state := .filtered, oldName := s.name, eligibility := verdict }

/-- A symbol that is not eligible is left at that; for an eligible one, a search is made. -/
theorem process_trail (w : Workflow σ) (program : Program) (s : Symbol) :
    let checked := w.policy.filter.check program.graph s
    let r := w.process program s
    ∃ log, Trail w.policy s ({ program with graph := checked.2 }, w.source) log
        (r.2.2, r.2.1.source) ∧
      ((checked.1 ≠ .eligible ∧ log = [] ∧ r.1 = unattempted s checked.1) ∨
        (checked.1 = .eligible ∧
          Searched w.policy.maxAttempts log (unattempted s checked.1) r.1)) := by
  unfold process
  rcases w.policy.filter.check program.graph s with ⟨verdict, graph⟩
  dsimp only
  by_cases hverdict : verdict = .eligible
  · obtain ⟨log, htrail, hsearched⟩ := search_trail w.policy s w.policy.maxAttempts
      (unattempted s verdict) { program with graph } w.source
    rw [if_pos hverdict]
    exact ⟨log, htrail, Or.inr ⟨hverdict, hsearched⟩⟩
  · rw [if_neg hverdict]
    exact ⟨[], .nil _, Or.inl ⟨hverdict, rfl, rfl⟩⟩

end Pseudonym.Workflow
