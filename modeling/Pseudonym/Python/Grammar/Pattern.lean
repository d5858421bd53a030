import Pseudonym.Python.Grammar.Expression

/-!
# The grammar of patterns
-/

namespace Pseudonym.Python.Grammar

open Parse

/-- A number with or without a minus. -/
def signedNumber : Parse Tree := do
  let start ← place
  if ← op? "-" then
    let t ← number
    node start (.unary .minus) [(.operand, t)]
  else number

/-- Whether a node is an imaginary number. -/
def isImaginaryLabel : Label → Bool
  | .constant (.imaginary _) => true
  | _ => false

/-- Whether a number with or without a minus is imaginary. -/
def isImaginary : Tree → Bool
  | .node (.unary _) _ [(_, t)] => isImaginaryLabel t.label
  | t => isImaginaryLabel t.label

/-- A number, or a real and an imaginary one added. -/
def numberExpression : Parse Tree := do
  let start ← place
  let left ← signedNumber
  let t ← peek
  if t.isOp "+" || t.isOp "-" then
    let _ ← next
    let right ← number
    check (!isImaginary left && isImaginary right)
    node start (.binary (if t.text = "+" then .add else .sub)) [(.left, left), (.right, right)]
  else pure left

/-- A literal that a pattern may compare with; none if no literal starts here. -/
def literal? (read : Reader) : Parse (Option Tree) := do
  let t ← peek
  match t.kind with
  | .number => some <$> numberExpression
  | .string => some <$> strings read.field
  | .operator => if t.text = "-" then some <$> numberExpression else return none
  | .name =>
    match wordConstant? t.text with
    | some c =>
      let _ ← next
      return some (.node (.constant c) t.range [])
    | none => return none
  | _ => return none

/-- The attributes behind what starts at a place, and whether there are any. -/
def attributes (start : Position) (first : Tree × Bool) : Parse (Tree × Bool) :=
  fold
    (fun (e, _) => do
      if ← op? "." then
        let name ← identifier
        return some (← node start (.attribute name .load) [(.value, e)], true)
      else return none)
    first

/-- A name with attributes after it, and whether there are any. -/
def dottedExpression : Parse (Tree × Bool) := do
  let t ← peek
  let id ← identifier
  attributes t.range.start (.node (.name id .load) t.range [], false)

/-- Whether a token keeps a name before it from being a pattern by itself. -/
def extendsName (t : Token) : Bool := t.isOp "." || t.isOp "(" || t.isOp "=" || t.isOperand

/-- A name that a pattern binds. -/
def captureName : Parse String := do
  check !(← atWord "_")
  let name ← identifier
  check !(← next? extendsName)
  return name

/-- Captures what is left of a sequence. -/
def starPattern : Parse Tree := do
  let start ← place
  op "*"
  let name ← if ← word? "_" then pure none else some <$> captureName
  node start (.matchStar name) []

/-- A pattern that may be spread out. -/
def maybeStarPattern (pattern : Parse Tree) : Parse Tree := do
  if ← atOp "*" then starPattern else pattern

/-- A key of a mapping pattern: a literal, or a name with attributes. -/
def mappingKey (read : Reader) : Parse Tree := do
  match ← literal? read with
  | some t => pure t
  | none =>
    let (t, dotted) ← dottedExpression
    check dotted
    pure t

/-- The items of a mapping pattern. -/
structure MappingItems where
  keys : List Tree := []
  patterns : List Tree := []
  rest : Option String := none

/-- A mapping pattern. -/
def mappingPattern (read : Reader) (pattern : Parse Tree) : Parse Tree := do
  let start ← place
  op "\x7b"
  let (items, _) ← fold
    (fun (items, more) => do
      if !more || (← atOp "\x7d") then return none
      else
        check items.rest.isNone
        if ← op? "**" then
          let name ← captureName
          return some ({ items with rest := some name }, ← op? ",")
        else
          let key ← mappingKey read
          op ":"
          let p ← pattern
          let items := { items with keys := items.keys ++ [key], patterns := items.patterns ++ [p] }
          return some (items, ← op? ","))
    (({}, true) : MappingItems × Bool)
  op "\x7d"
  node start (.matchMapping items.rest)
    (asParts .key items.keys ++ asParts .pattern items.patterns)

/-- The brackets of a class pattern: patterns by position, then patterns by name. -/
def classPattern (pattern : Parse Tree) (start : Position) (type : Tree) : Parse Tree := do
  op "("
  let (positions, names, _) ← fold
    (fun (positions, names, more) => do
      if !more || (← atOp ")") then return none
      else if (← peek).isIdentifier && (← secondIsOp "=") then
        let name ← identifier
        op "="
        let p ← pattern
        return some (positions, names ++ [(name, p)], ← op? ",")
      else
        check names.isEmpty
        let p ← pattern
        return some (positions ++ [p], names, ← op? ","))
    (([], [], true) : List Tree × List (String × Tree) × Bool)
  op ")"
  node start (.matchClass (names.map (·.1)))
    ((.type, type) :: asParts .pattern positions ++ asParts .keywordPattern (names.map (·.2)))

/-- Patterns in round brackets: one alone is itself, others are a sequence. -/
def parenthesizedPattern (pattern : Parse Tree) : Parse Tree := do
  let start ← place
  op "("
  if ← op? ")" then node start .matchSequence []
  else
    let isStar ← atOp "*"
    let (items, closed) ← commaList (·.isOp ")") (maybeStarPattern pattern)
    op ")"
    match items, closed || isStar with
    | [p], false => pure p
    | _, _ =>
      check (closed || items.length ≠ 1)
      node start .matchSequence (asParts .pattern items)

/-- Patterns in square brackets. -/
def bracketedPattern (pattern : Parse Tree) : Parse Tree := do
  let start ← place
  op "["
  if ← op? "]" then node start .matchSequence []
  else
    let (items, _) ← commaList (·.isOp "]") (maybeStarPattern pattern)
    op "]"
    node start .matchSequence (asParts .pattern items)

/-- A pattern that starts with a name: nothing is bound, the name is, a class is named, or a value. -/
def namePattern (pattern : Parse Tree) (start : Position) : Parse Tree := do
  if ← word? "_" then node start (.matchAs none) []
  else
    let (e, dotted) ← dottedExpression
    let t ← peek
    if t.isOp "(" then classPattern pattern start e
    else
      check !(t.isOp "=" || t.isOperand)
      match e.label, dotted with
      | .name id _, false => node start (.matchAs (some id)) []
      | _, _ => node start .matchValue [(.value, e)]

/-- A pattern without alternatives. -/
def closedPattern (read : Reader) (pattern : Parse Tree) : Parse Tree := do
  let t ← peek
  let start := t.range.start
  if t.isOp "(" then parenthesizedPattern pattern
  else if t.isOp "[" then bracketedPattern pattern
  else if t.isOp "\x7b" then mappingPattern read pattern
  else
    match ← literal? read with
    | some value =>
      match value.label, t.kind with
      | .constant c, .name => node start (.matchSingleton c) []
      | _, _ => node start .matchValue [(.value, value)]
    | none => namePattern pattern start

/-- Patterns with bars between them. -/
def orPattern (read : Reader) (pattern : Parse Tree) : Parse Tree := do
  let start ← place
  let first ← closedPattern read pattern
  let rest ← many (·.isOp "|") do
    op "|"
    closedPattern read pattern
  if rest.isEmpty then pure first else node start .matchOr (asParts .pattern (first :: rest))

/-- A pattern that may be given a name. -/
def asPattern (read : Reader) (pattern : Parse Tree) : Parse Tree := do
  let start ← place
  let p ← orPattern read pattern
  if ← word? "as" then
    let name ← captureName
    node start (.matchAs (some name)) [(.pattern, p)]
  else pure p

/-- Reads a pattern; the count bounds the nesting. -/
def patternOf (read : Reader) : Nat → Parse Tree
  | 0 => failure
  | levels + 1 => asPattern read (patternOf read levels)

/-- What stands after `case`: a pattern, or several that are a sequence. -/
def patterns (read : Reader) (levels : Nat) : Parse Tree := do
  let start ← place
  let isStar ← atOp "*"
  let (items, closed) ← commaList (fun t => t.isOp ":" || t.isWord "if")
    (maybeStarPattern (patternOf read levels))
  match items, closed with
  | [p], false =>
    check !isStar
    pure p
  | _, _ => node start .matchSequence (asParts .pattern items)

end Pseudonym.Python.Grammar
