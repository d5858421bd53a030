import Pseudonym.Name.Reserved
import Pseudonym.Python.Literal
import Pseudonym.Text.Normal

/-!
# Reading tokens

A reader of the grammar takes tokens from the front and either yields a value or fails. Repetition
is bounded by the count of tokens left, since every round takes one.
-/

namespace Pseudonym.Python

/-- Whether a token is an operator. -/
def Token.isOp (t : Token) (op : String) : Bool := t.kind = .operator && t.text = op

/-- Whether a token is a certain word. -/
def Token.isWord (t : Token) (word : String) : Bool := t.kind = .name && t.text = word

/-- Whether a token is a name that is no keyword. -/
def Token.isIdentifier (t : Token) : Bool := t.kind = .name && !Name.keywords.contains t.text

/-- Whether a token stands in the text and not between lines. -/
def Token.isWritten (t : Token) : Bool :=
  match t.kind with
  | .name | .number | .string | .operator => true
  | .newline | .indent | .dedent | .endOfInput => false

/-- Whether a token opens brackets. -/
def Token.opens (t : Token) : Bool := t.isOp "(" || t.isOp "[" || t.isOp "\x7b"

/-- Whether a token closes brackets. -/
def Token.closes (t : Token) : Bool := t.isOp ")" || t.isOp "]" || t.isOp "\x7d"

/-- The constant that a word names. -/
def wordConstant? : String → Option Constant
  | "None" => some .none
  | "True" => some (.bool true)
  | "False" => some (.bool false)
  | _ => none

/-- Whether a token is an operand by itself: a name, a number, a string or the word for a constant. No
operand follows another one. -/
def Token.isOperand (t : Token) : Bool :=
  match t.kind with
  | .number | .string => true
  | .name => !Name.keywords.contains t.text || (wordConstant? t.text).isSome
  | _ => false

/-- Whether an expression, one that is spread out included, can start with a token. -/
def Token.startsExpression (t : Token) : Bool :=
  match t.kind with
  | .operator => ["(", "[", "\x7b", "...", "+", "-", "~", "*"].contains t.text
  | .name => t.isOperand || ["lambda", "not", "await"].contains t.text
  | _ => t.isOperand

/-- The tokens still to be read, their count, and the end of the last written token before them. -/
structure Parsing where
  tokens : List Token
  left : Nat
  stop : Position := ⟨1, 0⟩

/-- The state before any of some tokens is read. -/
def Parsing.ofTokens (tokens : List Token) : Parsing := { tokens, left := tokens.length }

/-- A reader of the grammar. -/
abbrev Parse := StateT Parsing Option

namespace Parse

/-! ## Single tokens -/

/-- The next token, which stays. -/
def peek : Parse Token := fun s =>
  match s.tokens with
  | t :: _ => some (t, s)
  | [] => none

/-- Whether the token after the next is an operator. -/
def secondIsOp (op : String) : Parse Bool := fun s =>
  match s.tokens with
  | _ :: t :: _ => some (t.isOp op, s)
  | _ => some (false, s)

/-- Takes the next token. -/
def next : Parse Token := fun s =>
  match s.tokens with
  | t :: rest => some (t, ⟨rest, s.left - 1, if t.isWritten then t.range.stop else s.stop⟩)
  | [] => none

/-- Where the next token starts. -/
def place : Parse Position := do return (← peek).range.start

/-- Fails unless a condition holds. -/
def check (b : Bool) : Parse Unit := if b then pure () else failure

/-- Takes a token that satisfies a condition. -/
def take (p : Token → Bool) : Parse Token := do
  let t ← next
  if p t then pure t else failure

/-- Whether the next token satisfies a condition. -/
def next? (p : Token → Bool) : Parse Bool := do return p (← peek)

/-- Takes the next token if it satisfies a condition, and tells whether it did. -/
def take? (p : Token → Bool) : Parse Bool := do
  if p (← peek) then
    let _ ← next
    pure true
  else pure false

/-- Whether the next token is an operator. -/
def atOp (op : String) : Parse Bool := next? (·.isOp op)

/-- Whether the next token is a word. -/
def atWord (word : String) : Parse Bool := next? (·.isWord word)

/-- Takes an operator. -/
def op (op : String) : Parse Unit := do let _ ← take (·.isOp op)

/-- Takes a word. -/
def word (word : String) : Parse Unit := do let _ ← take (·.isWord word)

/-- Takes a token of a kind. -/
def kind (k : TokenKind) : Parse Unit := do let _ ← take (·.kind = k)

/-- Takes an operator if it is next. -/
def op? (op : String) : Parse Bool := take? (·.isOp op)

/-- Takes a word if it is next. -/
def word? (word : String) : Parse Bool := take? (·.isWord word)

/-- Takes a name that is no keyword, in its normal form. -/
def identifier : Parse String := do return Text.normalize (← take Token.isIdentifier).text

/-! ## Several readings -/

/-- Reads if a condition on the next token holds. -/
def when? (p : Token → Bool) (read : Parse α) : Parse (Option α) := do
  if p (← peek) then return some (← read) else return none

/-- Repeats a step until it yields nothing; `rounds` bounds the repetition. A step that yields
something takes a token. -/
def iterate (step : α → Parse (Option α)) : (rounds : Nat) → α → Parse α
  | 0, _ => failure
  | n + 1, a => do
    let before := (← get).left
    match ← step a with
    | some b => do
      check ((← get).left < before)
      iterate step n b
    | none => pure a

/-- Repeats a step as often as there are tokens. -/
def fold (step : α → Parse (Option α)) (a : α) : Parse α := do
  iterate step ((← get).left + 1) a

/-- Reads as long as a condition on the next token holds. -/
def many (p : Token → Bool) (read : Parse α) : Parse (List α) := do
  let items ← fold
    (fun done => do return (← when? p read).map (· :: done)) []
  return items.reverse

/-- Reads the items after the first one, each behind a comma, and tells whether a comma follows the
last. `ends` tells which tokens come behind such a comma. -/
def moreItems (ends : Token → Bool) (item : Parse α) (first : α) : Parse (List α × Bool) := do
  let (items, closed) ← fold
    (fun (done, closed) => do
      if closed then return none
      else if ← op? "," then
        if ← next? ends then return some (done, true)
        else return some ((← item) :: done, false)
      else return none)
    (([first], false) : List α × Bool)
  return (items.reverse, closed)

/-- Reads items with commas between them, and tells whether a comma follows the last. -/
def commaList (ends : Token → Bool) (item : Parse α) : Parse (List α × Bool) := do
  moreItems ends item (← item)

/-- A node from a place to the last token taken. -/
def node (start : Position) (label : Label) (parts : List (Role × Tree)) : Parse Tree := do
  return .node label ⟨start, (← get).stop⟩ parts

end Parse

/-- Trees in one role. -/
def asParts (role : Role) (ts : List Tree) : List (Role × Tree) := ts.map (role, ·)

namespace Parse

/-- One tree alone is itself; with commas, trees are the parts of a node. -/
def gather (start : Position) (label : Label) (role : Role) : List Tree × Bool → Parse Tree
  | ([t], false) => pure t
  | (ts, _) => node start label (asParts role ts)

end Parse

/-- Whether a tree is spread out. -/
def Tree.isStarred (t : Tree) : Bool :=
  match t.label with
  | .starred _ => true
  | _ => false

/-! ## Targets -/

/-- What an expression is in front of an assignment or after `del`, if it can stand there. The count
bounds the nesting. -/
def Tree.toTarget? (context : Context) : Nat → Tree → Option Tree
  | 0, _ => none
  | fuel + 1, .node label range parts =>
    let elements : Option (List (Role × Tree)) :=
      parts.mapM fun (role, t) => (t.toTarget? context fuel).map (role, ·)
    match label with
    | .name id _ => some (.node (.name id context) range [])
    | .attribute name _ => some (.node (.attribute name context) range parts)
    | .subscript _ => some (.node (.subscript context) range parts)
    | .starred _ =>
      if context = .store then elements.map (.node (.starred context) range) else none
    | .tuple _ => elements.map (.node (.tuple context) range)
    | .list _ => elements.map (.node (.list context) range)
    | _ => none

/-- Levels of tuples that a target may have: each takes a bracket. -/
def targetLevels : Nat := 2 * maxBrackets + 4

namespace Parse

/-- Turns an expression into a target or fails. -/
def target (context : Context) (t : Tree) : Parse Tree :=
  match t.toTarget? context targetLevels with
  | some t => pure t
  | none => failure

/-- A target that is a name, an attribute or an item. -/
def singleTarget (t : Tree) : Parse Tree :=
  match t.label with
  | .name .. | .attribute .. | .subscript .. => target .store t
  | _ => failure

end Parse

end Pseudonym.Python
