import Pseudonym.Model.Transition
import Pseudonym.Name.Style
import Pseudonym.Random.Twister

/-!
# Chains of tokens

A chain has a transition table for each kind of symbol, trained with the names found in a program.
Walking a table from the terminator until the terminator comes up again gives a new name.
-/

namespace Pseudonym.Model

open Text

/-- The most tokens of a sampled name, unless set otherwise. -/
def defaultMaxTokens : Nat := 8

/-- One table for each kind of symbol. -/
structure Chain where
  maxTokens : Nat
  ofVariables : Table := .empty
  ofTypes : Table := .empty
  ofMethods : Table := .empty
  frozen : Bool := false
  trained : Nat := 0
deriving Repr, Inhabited

/-- Why a chain refuses. -/
inductive ChainError where
  /-- A frozen chain got a name. -/
  | frozen
  /-- The limit on tokens is not positive. -/
  | badLimit (limit : Int)
deriving DecidableEq, Repr

/-- The text of a refusal. -/
def ChainError.message : ChainError → String
  | .frozen => "Cannot train a frozen token model"
  | .badLimit limit => s!"max_tokens must be positive, got {limit}"

namespace Chain

/-- An untrained chain. -/
def ofLimit (limit : Int) : Except ChainError Chain :=
  if limit < 1 then .error (.badLimit limit) else .ok { maxTokens := limit.toNat }

/-- The table of a kind. -/
def table (c : Chain) : SymbolKind → Table
  | .variable => c.ofVariables
  | .type => c.ofTypes
  | .method => c.ofMethods

/-- Replaces the table of a kind. -/
def setTable (c : Chain) (kind : SymbolKind) (t : Table) : Chain :=
  match kind with
  | .variable => { c with ofVariables := t }
  | .type => { c with ofTypes := t }
  | .method => { c with ofMethods := t }

/-- The transitions of a token sequence, from the terminator and back to it. -/
def transitions (tokens : List String) : List (String × String) :=
  (terminator :: tokens).zip (tokens ++ [terminator])

/-- Counts transitions in a table. -/
def addTransitions (t : Table) (steps : List (String × String)) : Table :=
  steps.foldl (fun t (a, b) => t.increment a b) t

/-- Trains one name; tells whether it had tokens to contribute. -/
def train (c : Chain) (kind : SymbolKind) (name : String) : Except ChainError (Bool × Chain) :=
  if c.frozen then .error .frozen
  else match Name.words name with
    | [] => .ok (false, c)
    | tokens =>
      let t := addTransitions (c.table kind) (transitions tokens)
      .ok (true, { c.setTable kind t with trained := c.trained + 1 })

/-- Trains several names; tells how many contributed. -/
def trainAll (c : Chain) (kind : SymbolKind) : List String → Except ChainError (Nat × Chain)
  | [] => .ok (0, c)
  | name :: rest => do
    let (used, c) ← c.train kind name
    let (n, c) ← c.trainAll kind rest
    .ok ((if used then 1 else 0) + n, c)

/-- Refuses further training. -/
def freeze (c : Chain) : Chain := { c with frozen := true }

/-- Whether some name of a kind was trained. -/
def isTrained (c : Chain) (kind : SymbolKind) : Bool := !(c.table kind).isEmpty

/-- Walks a table for at most a count of tokens, starting after `current`. -/
def walk {σ : Type} [Random.Source σ] (t : Table) : Nat → String → σ → List String × σ
  | 0, _, source => ([], source)
  | limit + 1, current, source =>
    match t.row current with
    | [] => ([], source)
    | row =>
      let (k, source) := Random.Source.draw source
      let next := draw row (Random.unit k)
      if next = terminator then ([], source)
      else
        let (rest, source) := walk t limit next source
        (next :: rest, source)

/-- A token sequence sampled from the table of a kind. -/
def sample {σ : Type} [Random.Source σ] (c : Chain) (kind : SymbolKind) (source : σ) :
    List String × σ :=
  walk (c.table kind) c.maxTokens terminator source

/-- A name sampled from the table of a kind; constants share the table of variables. -/
def synthesize {σ : Type} [Random.Source σ] (c : Chain) (convention : Name.Convention)
    (kind : SymbolKind) (constant : Bool) (source : σ) : String × σ :=
  let (tokens, source) := c.sample kind source
  (Name.spell convention kind constant tokens, source)

end Chain

end Pseudonym.Model
