import Pseudonym.Model.Chain
import Pseudonym.Name.Reserved
import Pseudonym.Renaming.Cascade
import Pseudonym.Renaming.Changes

/-!
# The rename workflow

Every symbol goes through one bounded search: it is filtered out, or candidates are generated until
one is accepted and its plan commits, or the attempts are used up. A rejected candidate and a
refused plan cost one attempt each. Running out of attempts keeps the name and is no error.
-/

namespace Pseudonym

open Text

/-! ## Candidates -/

/-- A source of candidate names. -/
class Candidates (σ : Type) where
  /-- The next candidate for a kind of symbol, and the source after it. -/
  next : σ → SymbolKind → (constant : Bool) → String × σ

/-- Candidates given in advance, then empty ones. The requests are kept. -/
structure CandidateScript where
  names : List String
  requests : List (SymbolKind × Bool) := []
deriving DecidableEq, Repr, Inhabited

instance : Candidates CandidateScript where
  next s kind constant :=
    let requests := s.requests ++ [(kind, constant)]
    match s.names with
    | [] => ("", ⟨[], requests⟩)
    | name :: rest => (name, ⟨rest, requests⟩)

/-- Candidates sampled from a chain. -/
structure Sampler where
  chain : Model.Chain
  random : Random.Twister
  convention : Name.Convention

instance : Candidates Sampler where
  next s kind constant :=
    let (name, random) := s.chain.synthesize s.convention kind constant s.random
    (name, { s with random := random })

/-- Why a candidate is rejected. -/
inductive Rejection where
  | blank
  | reserved
  | notIdentifier
  | unchanged
deriving DecidableEq, Repr, Inhabited

/-- The rejection in words. -/
def Rejection.text : Rejection → String
  | .blank => "blank"
  | .reserved => "reserved word"
  | .notIdentifier => "not an identifier"
  | .unchanged => "same as current name"

/-- Why a candidate cannot replace a name; `reserved` is in lower case. -/
def rejection? (reserved : List String) (current candidate : String) : Option Rejection :=
  if candidate.toList.all Name.isUnderscore then some .blank
  else if reserved.contains (lower candidate) then some .reserved
  else if !isIdentifier candidate ∨ Name.keywords.contains candidate then some .notIdentifier
  else if candidate = current then some .unchanged
  else none

/-! ## Outcomes -/

/-- How the workflow ended for a symbol. -/
inductive RenameState where
  | filtered
  | committed
  | exhausted
deriving DecidableEq, Repr, Inhabited

/-- The word for an ending. -/
def RenameState.word : RenameState → String
  | .filtered => "filtered"
  | .committed => "committed"
  | .exhausted => "exhausted"

/-- What happened to a symbol. -/
structure Outcome where
  symbol : SymbolId
  state : RenameState
  oldName : String
  newName : Option String := none
  attempts : Nat := 0
  eligibility : Eligibility := .eligible
  plan : Option Plan := none
  rejected : List (String × Rejection) := []
  conflicts : List Conflict := []
deriving DecidableEq, Repr, Inhabited

/-- Counts over outcomes. -/
structure Statistics where
  processed : Nat := 0
  committed : Nat := 0
  filtered : Nat := 0
  exhausted : Nat := 0
  attempts : Nat := 0
  cascaded : Nat := 0
  rejectedCandidates : Nat := 0
  conflicts : Nat := 0
  filteredByReason : List (Eligibility × Nat) := []
deriving DecidableEq, Repr, Inhabited

/-- Adds one to the count of a verdict. -/
def countReason (reason : Eligibility) : List (Eligibility × Nat) → List (Eligibility × Nat)
  | [] => [(reason, 1)]
  | (r, n) :: rest => if r = reason then (r, n + 1) :: rest else (r, n) :: countReason reason rest

/-- Counts an outcome. -/
def Statistics.record (s : Statistics) (o : Outcome) : Statistics :=
  let s := { s with
    processed := s.processed + 1
    attempts := s.attempts + o.attempts
    rejectedCandidates := s.rejectedCandidates + o.rejected.length
    conflicts := s.conflicts + o.conflicts.length }
  match o.state with
  | .committed =>
    { s with
      committed := s.committed + 1
      cascaded := s.cascaded + ((o.plan.map fun p => p.entries.length - 1).getD 0) }
  | .filtered =>
    { s with
      filtered := s.filtered + 1
      filteredByReason := countReason o.eligibility s.filteredByReason }
  | .exhausted => { s with exhausted := s.exhausted + 1 }

/-! ## The workflow -/

/-- The most attempts for a symbol, unless set otherwise. -/
def defaultMaxAttempts : Nat := 5

/-- What steers the workflow. -/
structure Policy where
  filter : Filter := {}
  accessors : AccessorPolicy := .skipAccessor
  maxAttempts : Nat := defaultMaxAttempts
  /-- Names never taken, in lower case. -/
  reserved : List String := Name.reservedWords
deriving Repr, Inhabited

/-- Why a policy is refused. -/
inductive PolicyError where
  | attempts (limit : Int)
deriving DecidableEq, Repr

/-- The text of a refusal. -/
def PolicyError.message : PolicyError → String
  | .attempts n => s!"max_attempts must be at least 1, got {n}"

/-- A policy with a limit on attempts and reserved words of any case. -/
def Policy.make (filter : Filter) (accessors : AccessorPolicy) (maxAttempts : Int)
    (reserved : Option (List String)) : Except PolicyError Policy :=
  if maxAttempts < 1 then .error (.attempts maxAttempts)
  else .ok
    { filter, accessors, maxAttempts := maxAttempts.toNat
      reserved := match reserved with
        | some words => words.map lower
        | none => Name.reservedWords }

/-- The program and what was done to it. -/
structure Program where
  graph : Graph := {}
  changes : Changes := {}
deriving Repr, Inhabited

/-- The state of the workflow. -/
structure Workflow (σ : Type) where
  policy : Policy
  source : σ
  statistics : Statistics := {}

namespace Workflow

variable {σ : Type} [Candidates σ]

/-- A candidate for a symbol, with the underscores of its current name in front. -/
def candidate (source : σ) (s : Symbol) : String × σ :=
  let (body, source) := Candidates.next source s.kind (s.kind = .variable && s.isConstant)
  (if body = "" then "" else Name.leading s.name ++ body, source)

/-- The plan for giving a symbol a name: its overriders follow, and the accessors of a field. -/
def buildPlan (accessors : AccessorPolicy) (g : Graph) (s : Symbol) (name : String) :
    Plan × Graph :=
  let followers := (g.symbolsOf (g.overriders s.id)).filter (·.isPhysical)
  let plan := followers.foldl (fun p m => p.add ⟨m.id, name⟩) { primary := s.id, name }
  if s.isField then
    let (renames, g) := Cascade.build accessors g s name
    (renames.foldl Plan.add plan, g)
  else (plan, g)

/-- The search for a name: what is left of the attempts, the outcome so far, the program and the
source of candidates. -/
def search (policy : Policy) (s : Symbol) :
    Nat → Outcome → Program → σ → Outcome × Program × σ
  | 0, o, program, source => ({ o with state := .exhausted }, program, source)
  | left + 1, o, program, source =>
    let o := { o with attempts := o.attempts + 1 }
    let (name, source) := candidate source s
    match rejection? policy.reserved s.name name with
    | some r => search policy s left { o with rejected := o.rejected ++ [(name, r)] } program source
    | none =>
      let (plan, graph) := buildPlan policy.accessors program.graph s name
      match program.changes.rename graph plan with
      | ([], graph, changes) =>
        ({ o with state := .committed, newName := some name, plan := some plan },
          ⟨graph, changes⟩, source)
      | (conflicts, graph, changes) =>
        search policy s left { o with conflicts := o.conflicts ++ conflicts }
          ⟨graph, changes⟩ source

/-- Runs the workflow for one symbol. -/
def process (w : Workflow σ) (program : Program) (s : Symbol) : Outcome × Workflow σ × Program :=
  let (verdict, graph) := w.policy.filter.check program.graph s
  let program := { program with graph }
  let start : Outcome :=
    { symbol := s.id, state := .filtered, oldName := s.name, eligibility := verdict }
  let (outcome, program, source) :=
    if verdict = .eligible then search w.policy s w.policy.maxAttempts start program w.source
    else (start, program, w.source)
  (outcome, { w with source, statistics := w.statistics.record outcome }, program)

/-- Runs the workflow for several symbols in turn, each in its state at that time. -/
def processAll (w : Workflow σ) (program : Program) :
    List SymbolId → List Outcome × Workflow σ × Program
  | [] => ([], w, program)
  | id :: rest =>
    match program.graph.symbol? id with
    | none => processAll w program rest
    | some s =>
      let (outcome, w, program) := w.process program s
      let (outcomes, w, program) := processAll w program rest
      (outcome :: outcomes, w, program)

end Workflow

end Pseudonym
