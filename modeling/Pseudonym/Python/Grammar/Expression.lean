import Pseudonym.Python.Grammar.Basic

/-!
# The grammar of expressions

Rules that contain themselves ask for a `Goal`. They are written over a reader of goals, and
`expressionOf` closes the circle; every round through it goes one level down, and the count of tokens
bounds the levels. No rule takes back what it read: the next tokens tell which way it goes.
-/

namespace Pseudonym.Python

/-- A rule that others contain. -/
inductive Goal where
  | starExpressions
  | named
  | expression
  | disjunction
  | inversion
  | bitOr
  | factor
  | primary
deriving DecidableEq, Repr

/-- A reader of goals, and of the expressions in formatted strings, which have tokens of their
own. -/
structure Reader where
  goal : Goal → Parse Tree
  field : List Token → Option Tree

instance : CoeFun Reader fun _ => Goal → Parse Tree := ⟨Reader.goal⟩

namespace Grammar

open Parse

/-! ## Operators between operands -/

/-- Operands of one level with binary operators between them, grouped from the left. -/
def leftChain (operator : Token → Option BinaryOp) (operand : Parse Tree) : Parse Tree := do
  let start ← place
  let first ← operand
  fold
    (fun left => do
      match operator (← peek) with
      | some o => do
        let _ ← next
        let right ← operand
        return some (← node start (.binary o) [(.left, left), (.right, right)])
      | none => return none)
    first

/-- The operator of a level that a token is. -/
def operatorIn (table : List (String × BinaryOp)) (t : Token) : Option BinaryOp :=
  if t.kind = .operator then (table.find? (·.1 = t.text)).map (·.2) else none

/-- The comparison operators that are signs. -/
def compareSigns : List (String × CompareOp) :=
  [("==", .eq), ("!=", .notEq), ("<", .lt), ("<=", .le), (">", .gt), (">=", .ge)]

/-- A comparison operator. Two of them take two words. -/
def compareOp? : Parse (Option CompareOp) := do
  let t ← peek
  match t.kind with
  | .operator =>
    match compareSigns.find? (·.1 = t.text) with
    | some (_, o) => do
      let _ ← next
      return some o
    | none => return none
  | .name =>
    match t.text with
    | "in" => do
      let _ ← next
      return some .isIn
    | "not" => do
      let _ ← next
      word "in"
      return some .notIn
    | "is" => do
      let _ ← next
      return some (if ← word? "not" then .isNot else .is)
    | _ => return none
  | _ => return none

/-! ## Targets of loops -/

/-- One target of a loop. -/
def starTarget (read : Reader) : Parse Tree := do
  let start ← place
  if ← op? "*" then
    let t ← target .store (← read .primary)
    check !t.isStarred
    node start (.starred .store) [(.value, t)]
  else target .store (← read .primary)

/-- The targets of a loop. -/
def starTargets (read : Reader) : Parse Tree := do
  let start ← place
  gather start (.tuple .store) .element (← commaList (·.isWord "in") (starTarget read))

/-! ## Expressions with stars and yields -/

/-- An element that may be spread out. -/
def starElement (read : Reader) (plain : Goal) : Parse Tree := do
  let start ← place
  if ← op? "*" then
    let t ← read .bitOr
    node start (.starred .load) [(.value, t)]
  else read plain

/-- Elements with commas between them are a tuple, one alone is itself. -/
def starExpressions (read : Reader) : Parse Tree := do
  let start ← place
  gather start (.tuple .load) .element
    (← commaList (!·.startsExpression) (starElement read .expression))

/-- A yield. -/
def yieldExpression (read : Reader) : Parse Tree := do
  let start ← place
  word "yield"
  if ← word? "from" then
    let t ← read .expression
    node start .yieldFrom [(.value, t)]
  else
    let t ← when? (·.startsExpression) (read .starExpressions)
    node start .yield (asParts .value t.toList)

/-- A yield, or elements. -/
def yieldOrStar (read : Reader) : Parse Tree := do
  if ← atWord "yield" then yieldExpression read else read .starExpressions

/-- An expression that may bind a name, and whether it does. -/
def binding (read : Reader) : Parse (Tree × Bool) := do
  let t ← peek
  if t.isIdentifier && (← secondIsOp ":=") then
    let id ← identifier
    op ":="
    let value ← read .expression
    let t ← node t.range.start .walrus
      [(.target, .node (.name id .walrus) t.range []), (.value, value)]
    return (t, true)
  else
    let e ← read .expression
    check !(← atOp ":=")
    return (e, false)

/-- An expression that may bind a name. -/
def named (read : Reader) : Parse Tree := do return (← binding read).1

/-! ## Comprehensions -/

/-- Whether a clause of a comprehension starts with a token. -/
def startsClause (t : Token) : Bool := t.isWord "for" || t.isWord "async"

/-- One clause of a comprehension. -/
def clause (read : Reader) : Parse Tree := do
  let start ← place
  let isAsync ← word? "async"
  word "for"
  let target ← starTargets read
  word "in"
  let iterable ← read .disjunction
  let conditions ← many (·.isWord "if") do
    word "if"
    read .disjunction
  node start (.clause isAsync)
    ((.target, target) :: (.iterable, iterable) :: asParts .condition conditions)

/-- The clauses of a comprehension. -/
def clauses (read : Reader) : Parse (List Tree) := many startsClause (clause read)

/-! ## Parameters -/

/-- A parameter with its default. -/
structure Parameter where
  name : String
  range : Range
  hint : Option Tree
  default : Option Tree

/-- Reads one parameter. `typed` allows annotations, `starred` one that is spread out, and
`defaulted` a default. -/
def parameter (read : Reader) (typed starred defaulted : Bool) : Parse Parameter := do
  let start ← place
  let name ← identifier
  let hint ← if typed then
      when? (·.isOp ":") do
        op ":"
        if starred then starElement read .expression else read .expression
    else pure none
  let stop := (← get).stop
  let default ← if defaulted then
      when? (·.isOp "=") do
        op "="
        read .expression
    else pure none
  return ⟨name, ⟨start, stop⟩, hint, default⟩

/-- The parameters of a function by kind. -/
structure Parameters where
  positionOnly : List Parameter := []
  regular : List Parameter := []
  variadic : Option Parameter := none
  keywordOnly : List Parameter := []
  keywordVariadic : Option Parameter := none

/-- Which kind of parameter may come next. -/
inductive ParameterPhase where
  /-- Positions count; whether one has had a default, and whether a slash may come. -/
  | positions (defaulted mayDivide : Bool)
  /-- Right after a lone star. -/
  | afterStar
  /-- Only names count. -/
  | names
  /-- All have been read. -/
  | done
deriving DecidableEq

/-- Reads one item of a parameter list. -/
def parameterItem (read : Reader) (typed : Bool) (ps : Parameters) (phase : ParameterPhase) :
    Parse (Parameters × ParameterPhase) := do
  if ← op? "/" then
    match phase with
    | .positions defaulted true =>
      check !ps.regular.isEmpty
      return ({ ps with positionOnly := ps.regular, regular := [] }, .positions defaulted false)
    | _ => failure
  else if ← op? "**" then
    check (phase ≠ .done && phase ≠ .afterStar)
    let p ← parameter read typed false false
    return ({ ps with keywordVariadic := some p }, .done)
  else if ← op? "*" then
    match phase with
    | .positions _ _ =>
      if ← atOp "," then return (ps, .afterStar)
      else
        let p ← parameter read typed true false
        return ({ ps with variadic := some p }, .names)
    | _ => failure
  else
    let p ← parameter read typed false true
    match phase with
    | .positions defaulted mayDivide =>
      check (p.default.isSome || !defaulted)
      return ({ ps with regular := ps.regular ++ [p] }, .positions p.default.isSome mayDivide)
    | .afterStar | .names => return ({ ps with keywordOnly := ps.keywordOnly ++ [p] }, .names)
    | .done => failure

/-- Reads parameters up to what closes them. -/
def parameters (read : Reader) (typed : Bool) (closes : Token → Bool) : Parse Parameters := do
  let (ps, phase, _) ← fold
    (fun (ps, phase, more) => do
      if !more || (← next? closes) then return none
      else
        let (ps, phase) ← parameterItem read typed ps phase
        let more ← op? ","
        check (more || (← next? closes))
        return some (ps, phase, more))
    ((({}, .positions false true, true) : Parameters × ParameterPhase × Bool))
  check (phase ≠ .afterStar)
  return ps

/-- The node of a parameter. -/
def Parameter.tree (kind : ParameterKind) (p : Parameter) : Tree :=
  .node (.parameter p.name kind p.default.isSome) p.range (asParts .hint p.hint.toList)

/-- The parts that parameters give to a function: the parameters, and the defaults of those that
only a name reaches before the last parameter, the other defaults at the end. -/
def Parameters.parts (ps : Parameters) : List (Role × Tree) :=
  let positions := ps.positionOnly ++ ps.regular
  asParts .parameter (ps.positionOnly.map (·.tree .positionOnly)) ++
    asParts .parameter (ps.regular.map (·.tree .regular)) ++
    asParts .parameter (ps.variadic.toList.map (·.tree .variadic)) ++
    asParts .parameter (ps.keywordOnly.map (·.tree .keywordOnly)) ++
    asParts .keywordDefault (ps.keywordOnly.filterMap (·.default)) ++
    asParts .parameter (ps.keywordVariadic.toList.map (·.tree .keywordVariadic)) ++
    asParts .default (positions.filterMap (·.default))

/-- An anonymous function. -/
def lambda (read : Reader) : Parse Tree := do
  let start ← place
  word "lambda"
  let ps ← parameters read false (·.isOp ":")
  op ":"
  let body ← read .expression
  node start .lambda (ps.parts ++ [(.body, body)])

/-! ## Arguments -/

/-- Which arguments may still come. -/
inductive ArgumentPhase where
  | positions
  | names
  | spreads
deriving DecidableEq

/-- Reads one argument. -/
def argument (read : Reader) (phase : ArgumentPhase) : Parse (Role × Tree × ArgumentPhase) := do
  let start ← place
  if ← op? "*" then
    check (phase ≠ .spreads)
    let value ← read .expression
    return (.argument, ← node start (.starred .load) [(.value, value)], phase)
  else if ← op? "**" then
    let value ← read .expression
    return (.keyword, ← node start (.keyword none) [(.value, value)], .spreads)
  else if (← peek).isIdentifier && (← secondIsOp "=") then
    let name ← identifier
    op "="
    let value ← read .expression
    let phase := if phase = .positions then .names else phase
    return (.keyword, ← node start (.keyword (some name)) [(.value, value)], phase)
  else
    check (phase = .positions)
    let value ← named read
    check !(← atOp "=")
    return (.argument, value, .positions)

/-- Reads arguments up to the closing bracket: those by position or spread out, then those by
name. -/
def restOfArguments (read : Reader) (first : Role × Tree × ArgumentPhase) :
    Parse (List Tree × List Tree) := do
  let (items, _, _) ← fold
    (fun (done, phase, more) => do
      if !more || (← atOp ")") then return none
      else
        let (role, t, phase) ← argument read phase
        return some ((role, t) :: done, phase, ← op? ","))
    ([(first.1, first.2.1)], first.2.2, ← op? ",")
  op ")"
  let items := items.reverse
  return (items.filterMap fun (role, t) => if role = .argument then some t else none,
    items.filterMap fun (role, t) => if role = .keyword then some t else none)

/-- Arguments in brackets. One that is a comprehension may stand alone without parentheses of its
own if `bare` allows it. -/
def arguments (read : Reader) (bare : Bool) : Parse (List Tree × List Tree) := do
  let start ← place
  op "("
  if ← op? ")" then return ([], [])
  else
    let isStar ← atOp "*"
    let first ← argument read .positions
    if bare && first.1 = .argument && !isStar && (← next? startsClause) then
      let generators ← clauses read
      op ")"
      let t ← node start (.comprehension .generator)
        ((.element, first.2.1) :: asParts .generator generators)
      return ([t], [])
    else restOfArguments read first

/-! ## Subscripts -/

/-- Whether a token ends a part of a slice. -/
def endsSlice (t : Token) : Bool := t.isOp ":" || t.isOp "," || t.isOp "]"

/-- What stands behind the first colon of a slice. -/
def restOfSlice (read : Reader) (start : Position) (lower : Option Tree) : Parse Tree := do
  let upper ← when? (!endsSlice ·) (read .expression)
  let step ← when? (·.isOp ":") do
    op ":"
    when? (!endsSlice ·) (read .expression)
  node start .slice
    (asParts .lower lower.toList ++ asParts .upper upper.toList ++ asParts .step step.join.toList)

/-- One index or slice. -/
def sliceItem (read : Reader) : Parse Tree := do
  let start ← place
  if ← op? "*" then
    let value ← read .expression
    node start (.starred .load) [(.value, value)]
  else
    let lower ← when? (!·.isOp ":") (binding read)
    match lower, ← op? ":" with
    | some (t, _), false => pure t
    | some (_, true), true | none, false => failure
    | lower, true => restOfSlice read start (lower.map (·.1))

/-- What stands in the brackets of a subscript. -/
def slices (read : Reader) : Parse Tree := do
  let start ← place
  let items ← commaList (·.isOp "]") (sliceItem read)
  gather start (.tuple .load) .element (items.1, items.2 || items.1.any (·.isStarred))

/-! ## Strings -/

/-- A part of a string: text, or a field of a formatted one. -/
inductive Fragment where
  | text (value : List Char)
  | field (tree : Tree)

/-- The tokens of an expression in a field. `before` is what the string token has before the brace,
backwards. Columns on the first line count from where the field stands. -/
def fieldTokens? (token : Token) (source before : List Char) : Option (List Token) :=
  let lines := before.count '\n'
  let ownLine := before.takeWhile (· ≠ '\n')
  let bytes := ownLine.foldr (fun c n => c.utf8Size + n) 0
  let blank (c : Char) : Bool := c = ' ' || c = '\t' || c = '\x0c'
  let breaks := match source.dropWhile blank with
    | [] => true
    | c :: _ => c = '\n' || c = '}'
  let columns := if breaks then 0 else bytes
  let shift := if lines = 0 then token.range.start.column + columns else columns
  let line := token.range.start.line + lines
  let move (p : Position) : Position := ⟨p.line, p.column + shift⟩
  (tokensFrom? line ('(' :: source ++ [')'])).map fun ts => ts.map fun t =>
    if t.range.stop.line = line then { t with range := ⟨move t.range.start, move t.range.stop⟩ }
    else t

/-- Joins neighbouring texts and drops empty ones. -/
def joinFragments : List Fragment → List Fragment
  | [] => []
  | .text a :: rest =>
    match joinFragments rest with
    | .text b :: rest => .text (a ++ b) :: rest
    | rest => if a.isEmpty then rest else .text a :: rest
  | .field t :: rest => .field t :: joinFragments rest

/-- The node of a fragment. All parts of a string have the range of the whole. -/
def Fragment.tree (range : Range) (marked : Bool) : Fragment → Tree
  | .text cs => .node (.constant (.text (String.ofList cs) marked)) range []
  | .field t => t

/-- The node of a format: it and a text at its end have the range of their token, what stands before
has the range of the whole. -/
def formatTree (token whole : Range) (marked : Bool) (fs : List Fragment) : Tree :=
  let joined := joinFragments fs
  let parts := match joined.getLast? with
    | some (.text cs) =>
      joined.dropLast.map (·.tree whole marked) ++ [Fragment.tree token false (.text cs)]
    | _ => joined.map (·.tree whole marked)
  .node .joinedText token (asParts .value parts)

/-- Levels of formats in a string: the string itself, and the format of a field in it. -/
def formatLevels : Nat := 3

/-- The fragments of a formatted string. `field` reads the tokens of an expression in it. -/
def fragments? (field : List Token → Option Tree) (token : Token) (range : Range) (marked : Bool) :
    (levels : Nat) → List Piece → Option (List Fragment)
  | 0, _ => none
  | levels + 1, pieces => pieces.mapM fun piece => do
    match piece with
    | .text cs => return .text cs
    | .field source before _ conversion format =>
      let value ← field (← fieldTokens? token source before)
      let format ← match format with
        | none => some []
        | some ps => do
          let fs ← fragments? field token range marked levels ps
          some [(Role.format, formatTree token.range range marked fs)]
      return .field (.node (.formattedValue conversion) range ((.value, value) :: format))

/-- The fragments of one string token. -/
def tokenFragments? (field : List Token → Option Tree) (range : Range) (marked : Bool)
    (token : Token) (p : StringParts) : Option (List Fragment) :=
  if p.marks.formatted then
    (stringPieces? p).bind (fragments? field token range marked formatLevels)
  else (textOf? p.marks.raw p.body).map fun cs => [.text cs]

/-- The bytes of one string token. -/
def tokenBytes? (p : StringParts) : Option (List UInt8) :=
  if p.body.all (·.toNat < 128) then
    if p.marks.raw then some (p.body.map fun c => c.toNat.toUInt8)
    else decodeBytes (p.body.length + 1) p.body
  else none

/-- The tree of string tokens, which are one string together. -/
def stringTree? (field : List Token → Option Tree) (range : Range) (tokens : List Token) :
    Option Tree := do
  let parts ← tokens.mapM fun t => (stringParts? t.text).map (t, ·)
  let marked := (tokens.head?.map (·.text.startsWith "u")).getD false
  if parts.all fun (_, p) => p.marks.bytes then
    let bs ← parts.mapM fun (_, p) => tokenBytes? p
    return .node (.constant (.bytes bs.flatten)) range []
  else if parts.any fun (_, p) => p.marks.bytes then none
  else
    let fs ← parts.mapM fun (t, p) => tokenFragments? field range marked t p
    let trees := (joinFragments fs.flatten).map (·.tree range marked)
    if parts.any fun (_, p) => p.marks.formatted then
      return .node .joinedText range (asParts .value trees)
    else
      return match trees with
        | t :: _ => t
        | [] => .node (.constant (.text "" marked)) range []

/-- Strings one after the other are one string. -/
def strings (field : List Token → Option Tree) : Parse Tree := do
  let start ← place
  let tokens ← many (·.kind = .string) next
  check !(← next? (·.isOperand))
  match stringTree? field ⟨start, (← get).stop⟩ tokens with
  | some t => pure t
  | none => failure

/-! ## Atoms -/

/-- What stands in round brackets: a tuple, an expression in parentheses, or a generator. -/
def parenthesized (read : Reader) : Parse Tree := do
  let start ← place
  op "("
  if ← op? ")" then node start (.tuple .load) []
  else if ← atWord "yield" then
    let t ← yieldExpression read
    op ")"
    pure t
  else
    let isStar ← atOp "*"
    let first ← starElement read .named
    if ← atOp "," then
      let (ts, _) ← moreItems (·.isOp ")") (starElement read .named) first
      op ")"
      node start (.tuple .load) (asParts .element ts)
    else
      check !isStar
      if ← next? startsClause then
        let generators ← clauses read
        op ")"
        node start (.comprehension .generator) ((.element, first) :: asParts .generator generators)
      else
        op ")"
        pure first

/-- What stands in square brackets: a list or a comprehension. -/
def bracketed (read : Reader) : Parse Tree := do
  let start ← place
  op "["
  if ← op? "]" then node start (.list .load) []
  else
    let isStar ← atOp "*"
    let first ← starElement read .named
    if !isStar && (← next? startsClause) then
      let generators ← clauses read
      op "]"
      node start (.comprehension .list) ((.element, first) :: asParts .generator generators)
    else
      let (ts, _) ← moreItems (·.isOp "]") (starElement read .named) first
      op "]"
      node start (.list .load) (asParts .element ts)

/-- One entry of a dictionary: a key, or none for one that is spread out, and a value. -/
def dictEntry (read : Reader) : Parse (Option Tree × Tree) := do
  if ← op? "**" then
    let value ← read .bitOr
    return (none, value)
  else
    let key ← read .expression
    op ":"
    let value ← read .expression
    return (some key, value)

/-- The parts of a dictionary: all keys, then all values. -/
def dictParts (entries : List (Option Tree × Tree)) : List (Role × Tree) :=
  asParts .key (entries.filterMap (·.1)) ++
    entries.map fun (key, value) => (if key.isSome then .value else .spread, value)

/-- The entries of a dictionary after the first. -/
def restOfDict (read : Reader) (start : Position) (first : Option Tree × Tree) : Parse Tree := do
  let (entries, _) ← moreItems (·.isOp "\x7d") (dictEntry read) first
  op "\x7d"
  node start .dict (dictParts entries)

/-- What stands behind the first element of a set or of a comprehension. -/
def restOfSet (read : Reader) (start : Position) (isStar : Bool) (first : Tree) : Parse Tree := do
  if !isStar && (← next? startsClause) then
    let generators ← clauses read
    op "\x7d"
    node start (.comprehension .set) ((.element, first) :: asParts .generator generators)
  else
    let (ts, _) ← moreItems (·.isOp "\x7d") (starElement read .named) first
    op "\x7d"
    node start .set (asParts .element ts)

/-- What stands in braces: a dictionary, a set or a comprehension. -/
def braced (read : Reader) : Parse Tree := do
  let start ← place
  op "\x7b"
  if ← op? "\x7d" then node start .dict []
  else if ← atOp "**" then restOfDict read start (← dictEntry read)
  else if ← atOp "*" then restOfSet read start true (← starElement read .named)
  else
    let (first, binds) ← binding read
    if binds then restOfSet read start false first
    else if ← op? ":" then
      let value ← read .expression
      if ← next? startsClause then
        let generators ← clauses read
        op "\x7d"
        node start (.comprehension .dict)
          ((.key, first) :: (.value, value) :: asParts .generator generators)
      else restOfDict read start (some first, value)
    else restOfSet read start false first

/-- The tree of a number. A whole number in decimal digits has no more of them than may be read. -/
def numberTree? (t : Token) : Option Tree :=
  let value := numberValue t.text
  let based := t.text.toList.any fun c => c = 'x' || c = 'X' || c = 'o' || c = 'O' || c = 'b' || c = 'B'
  let allowed := match value with
    | .int _ => based || (t.text.toList.filter (· ≠ '_')).length ≤ Number.maxDigits
    | _ => true
  if allowed then some (.node (.constant value) t.range []) else none

/-- A number. No operand follows one. -/
def number : Parse Tree := do
  let t ← take (·.kind = .number)
  check !(← next? (·.isOperand))
  match numberTree? t with
  | some t => pure t
  | none => failure

/-- An expression without operators. -/
def atom (read : Reader) : Parse Tree := do
  let t ← peek
  match t.kind with
  | .name =>
    match wordConstant? t.text with
    | some c =>
      let _ ← next
      return .node (.constant c) t.range []
    | none =>
      let id ← identifier
      return .node (.name id .load) t.range []
  | .number => number
  | .string => strings read.field
  | .operator =>
    match t.text with
    | "(" => parenthesized read
    | "[" => bracketed read
    | "\x7b" => braced read
    | "..." =>
      let _ ← next
      return .node (.constant .ellipsis) t.range []
    | _ => failure
  | _ => failure

/-! ## Levels of operators -/

/-- What stands behind an expression that starts at a place and belongs to it: an attribute, the
arguments of a call, or an index. No operand follows. -/
def trailer? (read : Reader) (start : Position) (t : Tree) : Parse (Option Tree) := do
  let mark ← peek
  match mark.kind, mark.text with
  | .operator, "." =>
    op "."
    let name ← identifier
    return some (← node start (.attribute name .load) [(.value, t)])
  | .operator, "(" =>
    let (args, keywords) ← arguments read true
    return some (← node start .call
      ((.function, t) :: asParts .argument args ++ asParts .keyword keywords))
  | .operator, "[" =>
    op "["
    let index ← slices read
    op "]"
    return some (← node start (.subscript .load) [(.value, t), (.index, index)])
  | _, _ =>
    check !mark.isOperand
    return none

/-- An atom with attributes, calls and subscripts after it. -/
def primary (read : Reader) : Parse Tree := do
  let start ← place
  let first ← atom read
  fold (trailer? read start) first

/-- A primary that may be awaited. -/
def awaited (read : Reader) : Parse Tree := do
  let start ← place
  if ← word? "await" then
    let t ← primary read
    node start .await [(.value, t)]
  else primary read

/-- A power. -/
def power (read : Reader) : Parse Tree := do
  let start ← place
  let base ← awaited read
  if ← op? "**" then
    let exponent ← read .factor
    node start (.binary .pow) [(.left, base), (.right, exponent)]
  else pure base

/-- The unary operator that a token is. -/
def unaryOp? (t : Token) : Option UnaryOp :=
  if t.kind ≠ .operator then none
  else match t.text with
    | "+" => some .plus
    | "-" => some .minus
    | "~" => some .invert
    | _ => none

/-- A power with unary operators before it. -/
def factor (read : Reader) : Parse Tree := do
  let t ← peek
  match unaryOp? t with
  | some o =>
    let _ ← next
    let operand ← read .factor
    node t.range.start (.unary o) [(.operand, operand)]
  | none => power read

/-- The binary operators, those that bind tightest first. -/
def binaryLevels : List (List (String × BinaryOp)) :=
  [[("*", .mult), ("/", .div), ("//", .floorDiv), ("%", .mod), ("@", .matMult)],
   [("+", .add), ("-", .sub)],
   [("<<", .leftShift), (">>", .rightShift)],
   [("&", .bitAnd)],
   [("^", .bitXor)],
   [("|", .bitOr)]]

/-- Operands with binary operators between them. -/
def bitOr (read : Reader) : Parse Tree :=
  binaryLevels.foldl (fun operand table => leftChain (operatorIn table) operand) (factor read)

/-- A comparison, which may have several operators. -/
def comparison (read : Reader) : Parse Tree := do
  let start ← place
  let first ← bitOr read
  let pairs ← fold
    (fun done => do
      match ← compareOp? with
      | some o => return some ((o, ← bitOr read) :: done)
      | none => return none)
    []
  match pairs.reverse with
  | [] => pure first
  | pairs =>
    node start (.compare (pairs.map (·.1)))
      ((.left, first) :: asParts .comparator (pairs.map (·.2)))

/-- A negation. -/
def inversion (read : Reader) : Parse Tree := do
  let start ← place
  if ← word? "not" then
    let t ← read .inversion
    node start (.unary .logicalNot) [(.operand, t)]
  else comparison read

/-- Operands of `and` or of `or`. -/
def wordChain (operator : String) (label : Label) (operand : Parse Tree) : Parse Tree := do
  let start ← place
  let first ← operand
  let rest ← many (·.isWord operator) do
    word operator
    operand
  if rest.isEmpty then pure first else node start label (asParts .value (first :: rest))

/-- A disjunction. -/
def disjunction (read : Reader) : Parse Tree :=
  wordChain "or" .disjunction (wordChain "and" .conjunction (inversion read))

/-- An expression: a conditional one, a disjunction, or an anonymous function. -/
def expression (read : Reader) : Parse Tree := do
  let start ← place
  if ← atWord "lambda" then lambda read
  else
    let body ← disjunction read
    if ← word? "if" then
      let test ← disjunction read
      word "else"
      let orelse ← read .expression
      node start .conditional [(.test, test), (.body, body), (.orelse, orelse)]
    else pure body

/-- The rule of a goal. -/
def rule (read : Reader) : Goal → Parse Tree
  | .starExpressions => starExpressions read
  | .named => named read
  | .expression => expression read
  | .disjunction => disjunction read
  | .inversion => inversion read
  | .bitOr => bitOr read
  | .factor => factor read
  | .primary => primary read

/-- Reads a goal; the count bounds the nesting. -/
def expressionOf (field : List Token → Option Tree) : Nat → Reader
  | 0 => ⟨fun _ => failure, field⟩
  | levels + 1 => ⟨rule (expressionOf field levels), field⟩

/-- Enough levels for an expression of some tokens: no rule goes two levels down without taking
one. -/
def levelsFor (tokens : List Token) : Nat := 2 * tokens.length + 10

/-- Levels of formatted strings, each in a field of the one around it. Every one needs quotes that
the others do not have, and there are four kinds of quotes. -/
def fieldLevels : Nat := 5

/-- Reads the expression in a field of a formatted string. -/
def fieldOf : Nat → List Token → Option Tree
  | 0, _ => none
  | levels + 1, tokens =>
    ((expressionOf (fieldOf levels) (levelsFor tokens) .starExpressions
      (Parsing.ofTokens tokens)).map (·.1))

/-- Reads the expressions of a program. -/
def expressionsOf (tokens : List Token) : Reader :=
  expressionOf (fieldOf fieldLevels) (levelsFor tokens)

end Grammar

end Pseudonym.Python
