import Pseudonym.Python.Grammar.Pattern

/-!
# The grammar of statements

`Module.parse?` reads a whole program: first it cuts the tokens in front of every statement that
stands in no block, then it reads these statements one by one. A text has a tree or it has none; why
it has none is not said.
-/

namespace Pseudonym.Python.Grammar

open Parse

/-! ## Simple statements -/

/-- The binary operator of an augmented assignment. -/
def augmentedOp? (t : Token) : Option BinaryOp :=
  if t.kind ≠ .operator then none
  else match t.text with
    | "+=" => some .add
    | "-=" => some .sub
    | "*=" => some .mult
    | "@=" => some .matMult
    | "/=" => some .div
    | "%=" => some .mod
    | "&=" => some .bitAnd
    | "|=" => some .bitOr
    | "^=" => some .bitXor
    | "<<=" => some .leftShift
    | ">>=" => some .rightShift
    | "**=" => some .pow
    | "//=" => some .floorDiv
    | _ => none

/-- The values of a chain of assignments after the first, the last one first. A yield ends the
chain. -/
def assignedValues (read : Reader) : Parse (List Tree) := do
  let (values, _) ← fold
    (fun (done, open_) => do
      if !open_ then return none
      else if ← op? "=" then
        let isYield ← atWord "yield"
        return some ((← yieldOrStar read) :: done, !isYield)
      else return none)
    (([], true) : List Tree × Bool)
  return values

/-- What stands behind the target of an annotated assignment. -/
def annotation (read : Reader) (start : Position) (simple : Bool) (target : Tree) : Parse Tree := do
  op ":"
  let hint ← read .expression
  let value ← when? (·.isOp "=") do
    op "="
    yieldOrStar read
  node start (.annotatedAssignment simple)
    ((.target, target) :: (.hint, hint) :: asParts .value value.toList)

/-- An assignment of one of three forms, or an expression. -/
def expressionStatement (read : Reader) : Parse Tree := do
  let t ← peek
  let start := t.range.start
  if t.isWord "yield" then
    let t ← yieldExpression read
    node start .expression [(.value, t)]
  else if t.isIdentifier && (← secondIsOp ":") then
    let id ← identifier
    annotation read start true (.node (.name id .store) t.range [])
  else
    let first ← starExpressions read
    let t ← peek
    if t.isOp ":" then annotation read start false (← singleTarget first)
    else match augmentedOp? t with
      | some o =>
        let _ ← next
        let target ← singleTarget first
        let value ← yieldOrStar read
        node start (.augmentedAssignment o) [(.target, target), (.value, value)]
      | none =>
        match ← assignedValues read with
        | [] => node start .expression [(.value, first)]
        | value :: others =>
          let targets ← (first :: others.reverse).mapM (target .store)
          node start .assignment (asParts .target targets ++ [(.value, value)])

/-- A dotted name. -/
def dottedName : Parse String := do
  let first ← identifier
  let rest ← many (·.isOp ".") do
    op "."
    identifier
  return ".".intercalate (first :: rest)

/-- A name after `as`, if there is one. -/
def asName? : Parse (Option String) := when? (·.isWord "as") do
  word "as"
  identifier

/-- An imported name with what it is called here. -/
def importedName (name : Parse String) : Parse Tree := do
  let start ← place
  let name ← name
  let asName ← asName?
  node start (.importedName name asName) []

/-- Imports modules. -/
def importModules : Parse Tree := do
  let start ← place
  word "import"
  let (names, _) ← commaList (fun _ => false) (importedName dottedName)
  node start .importModules (asParts .importedName names)

/-- The names that an import takes from a module. -/
def importedNames : Parse (List Tree) := do
  let start ← place
  if ← op? "*" then return [← node start (.importedName "*" none) []]
  else if ← op? "(" then
    let (names, _) ← commaList (·.isOp ")") (importedName identifier)
    op ")"
    return names
  else return (← commaList (fun _ => false) (importedName identifier)).1

/-- The module that names are imported from. It has no name if dots alone tell it. -/
def importSource (level : Nat) : Parse (Option String) := do
  if level ≠ 0 && (← atWord "import") then return none else return some (← dottedName)

/-- Imports names from a module. -/
def importFrom : Parse Tree := do
  let start ← place
  word "from"
  let dots ← many (fun t => t.isOp "." || t.isOp "...") next
  let level := dots.foldr (fun t n => t.text.length + n) 0
  let module ← importSource level
  word "import"
  let names ← importedNames
  node start (.importFrom module level) (asParts .importedName names)

/-- Whether a token ends a simple statement. -/
def endsSimple (t : Token) : Bool := t.kind = .newline || t.isOp ";"

/-- A statement that one word makes. -/
def wordStatement (label : Label) : Parse Tree := do
  let start ← place
  let _ ← next
  node start label []

/-- Names after `global` or `nonlocal`. -/
def scopedNames (label : List String → Label) : Parse Tree := do
  let start ← place
  let _ ← next
  let (names, _) ← commaList (fun _ => false) identifier
  node start (label names) []

/-- A statement on one line. -/
def simpleStatement (read : Reader) : Parse Tree := do
  let t ← peek
  let start := t.range.start
  if t.kind ≠ .name then expressionStatement read
  else match t.text with
    | "pass" => wordStatement .pass
    | "break" => wordStatement .breakLoop
    | "continue" => wordStatement .continueLoop
    | "global" => scopedNames .globalNames
    | "nonlocal" => scopedNames .nonlocalNames
    | "import" => importModules
    | "from" => importFrom
    | "return" =>
      word "return"
      let value ← when? (!endsSimple ·) (read .starExpressions)
      node start .returnStatement (asParts .value value.toList)
    | "raise" =>
      word "raise"
      if ← next? endsSimple then node start .raise []
      else
        let exception ← read .expression
        let cause ← when? (·.isWord "from") do
          word "from"
          read .expression
        node start .raise ((.exception, exception) :: asParts .cause cause.toList)
    | "del" =>
      word "del"
      let (targets, _) ← commaList endsSimple do target .delete (← read .primary)
      node start .deletion (asParts .target targets)
    | "assert" =>
      word "assert"
      let test ← read .expression
      let message ← when? (·.isOp ",") do
        op ","
        read .expression
      node start .assertion ((.test, test) :: asParts .message message.toList)
    | _ => expressionStatement read

/-- The statements of a line. -/
def simpleStatements (read : Reader) : Parse (List Tree) := do
  let first ← simpleStatement read
  let (rest, _) ← fold
    (fun (done, more) => do
      if !more then return none
      else if ← next? (·.kind = .newline) then return none
      else
        let t ← simpleStatement read
        return some (t :: done, ← op? ";"))
    (([first], ← op? ";") : List Tree × Bool)
  kind .newline
  return rest.reverse

/-! ## Compound statements -/

/-- What compound statements contain: expressions, blocks, and the nesting of patterns. -/
structure Inner where
  read : Reader
  block : Parse (List Tree)
  levels : Nat

/-- A block behind its colon. -/
def Inner.body (i : Inner) : Parse (List Tree) := do
  op ":"
  i.block

/-- An `else` with its block, if there is one. -/
def Inner.orelse (i : Inner) : Parse (List Tree) := do
  return ((← when? (·.isWord "else") do
    word "else"
    i.body).getD [])

/-- The test and the block of one branch. -/
def Inner.arm (i : Inner) : Parse (Position × Tree × List Tree) := do
  let start ← place
  let _ ← next
  let test ← i.read .named
  return (start, test, ← i.body)

/-- A branch with what is done instead, up to a place. -/
def branchTree (stop : Position) (arm : Position × Tree × List Tree) (orelse : List Tree) : Tree :=
  .node .branch ⟨arm.1, stop⟩ ((.test, arm.2.1) :: asParts .body arm.2.2 ++ asParts .orelse orelse)

/-- A branch. Each `elif` is a branch of its own in the `else` of the one before it. -/
def branch (i : Inner) : Parse Tree := do
  let first ← i.arm
  let others ← many (·.isWord "elif") i.arm
  let orelse ← i.orelse
  let stop := (← get).stop
  return branchTree stop first
    (others.foldr (fun arm orelse => [branchTree stop arm orelse]) orelse)

/-- A loop with a condition. -/
def whileLoop (i : Inner) : Parse Tree := do
  let (start, test, body) ← i.arm
  let orelse ← i.orelse
  node start .whileLoop ((.test, test) :: asParts .body body ++ asParts .orelse orelse)

/-- A loop over items. -/
def forLoop (i : Inner) (start : Position) (isAsync : Bool) : Parse Tree := do
  word "for"
  let target ← starTargets i.read
  word "in"
  let iterable ← i.read .starExpressions
  let body ← i.body
  let orelse ← i.orelse
  node start (.forLoop isAsync)
    ((.target, target) :: (.iterable, iterable) :: asParts .body body ++ asParts .orelse orelse)

/-- One item of a `with`. -/
def withItem (i : Inner) : Parse Tree := do
  let start ← place
  let context ← i.read .expression
  let variable_ ← when? (·.isWord "as") do
    word "as"
    let t ← starTarget i.read
    check (← next? fun t => t.isOp "," || t.isOp ")" || t.isOp ":")
    pure t
  node start .withItem ((.context, context) :: asParts .variable variable_.toList)

/-- The tokens in the brackets that open at the front, without those in brackets inside; `depth`
brackets are open already. -/
def tokensInside : (depth : Nat) → List Token → List Token
  | _, [] => []
  | depth, t :: rest =>
    if t.opens then tokensInside (depth + 1) rest
    else match depth with
      | 0 => []
      | 1 => if t.closes then [] else t :: tokensInside 1 rest
      | depth + 2 => tokensInside (if t.closes then depth + 1 else depth + 2) rest

/-- Whether parentheses open here, and a token in them satisfies a condition. -/
def parenthesesHold (p : Token → Bool) : Parse Bool := do
  return (← atOp "(") && (tokensInside 0 (← get).tokens).any p

/-- The elements of a tuple in parentheses are items by themselves, unless one is spread out. -/
def splitItem : List Tree → List Tree
  | [.node .withItem range [(.context, .node (.tuple .load) own elements)]] =>
    if elements.all fun (_, t) => !t.isStarred then
      elements.map fun (_, t) => .node .withItem t.range [(.context, t)]
    else [.node .withItem range [(.context, .node (.tuple .load) own elements)]]
  | items => items

/-- The items of a `with`, in parentheses of their own if that is possible. -/
def withItems (i : Inner) : Parse (List Tree) := do
  if ← parenthesesHold (·.isWord "as") then
    op "("
    let (items, _) ← commaList (·.isOp ")") (withItem i)
    op ")"
    return items
  else
    let isTuple ← parenthesesHold (·.isOp ",")
    let binds ← parenthesesHold (·.isOp ":=")
    let (items, _) ← commaList (fun _ => false) (withItem i)
    return if isTuple && !binds then splitItem items else items

/-- A `with` block. -/
def withBlock (i : Inner) (start : Position) (isAsync : Bool) : Parse Tree := do
  word "with"
  let items ← withItems i
  let body ← i.body
  node start (.withBlock isAsync) (asParts .item items ++ asParts .body body)

/-- A handler of a `try`, and whether it is one for groups. -/
def handler (i : Inner) : Parse (Bool × Tree) := do
  let start ← place
  word "except"
  let grouped ← op? "*"
  let (type, name) ← if !grouped && (← atOp ":") then pure (none, none)
    else do
      let type ← i.read .expression
      pure (some type, ← asName?)
  let body ← i.body
  return (grouped, ← node start (.handler name) (asParts .type type.toList ++ asParts .body body))

/-- A `try`. Its handlers are all for groups, or none is. -/
def tryBlock (i : Inner) : Parse Tree := do
  let start ← place
  word "try"
  let body ← i.body
  let handlers ← many (·.isWord "except") (handler i)
  let orelse ← if handlers.isEmpty then pure [] else i.orelse
  let final ← when? (·.isWord "finally") do
    word "finally"
    i.body
  check (!handlers.isEmpty || final.isSome)
  let grouped := handlers.any (·.1)
  check (handlers.all (·.1 = grouped))
  node start (.tryBlock grouped)
    (asParts .body body ++ asParts .handler (handlers.map (·.2)) ++ asParts .orelse orelse ++
      asParts .final (final.getD []))

/-- A function. -/
def functionDef (i : Inner) (decorators : List Tree) (start : Position) (isAsync : Bool) :
    Parse Tree := do
  word "def"
  let name ← identifier
  op "("
  let ps ← parameters i.read true (·.isOp ")")
  op ")"
  let returns ← when? (·.isOp "->") do
    op "->"
    i.read .expression
  let body ← i.body
  node start (.functionDef name isAsync)
    (ps.parts ++ asParts .body body ++ asParts .decorator decorators ++
      asParts .returns returns.toList)

/-- A class. -/
def classDef (i : Inner) (decorators : List Tree) : Parse Tree := do
  let start ← place
  word "class"
  let name ← identifier
  let (bases, keywords) ← if ← atOp ":" then pure ([], []) else arguments i.read false
  let body ← i.body
  node start (.classDef name)
    (asParts .base bases ++ asParts .keyword keywords ++ asParts .body body ++
      asParts .decorator decorators)

/-- A definition behind its decorators. -/
def decorated (i : Inner) : Parse Tree := do
  let decorators ← many (·.isOp "@") do
    op "@"
    let t ← i.read .named
    kind .newline
    pure t
  let start ← place
  if ← atWord "class" then classDef i decorators
  else
    let isAsync ← word? "async"
    functionDef i decorators start isAsync

/-- One case of a match. -/
def matchCase (i : Inner) : Parse Tree := do
  let start ← place
  word "case"
  let pattern ← patterns i.read i.levels
  let guard ← when? (·.isWord "if") do
    word "if"
    i.read .named
  let body ← i.body
  node start .matchCase
    ((.pattern, pattern) :: asParts .guard guard.toList ++ asParts .body body)

/-- What a match looks at. -/
def subject (read : Reader) : Parse Tree := do
  let start ← place
  let isStar ← atOp "*"
  let (ts, closed) ← commaList (·.isOp ":") (starElement read .named)
  check (!isStar || closed || ts.length ≠ 1)
  gather start (.tuple .load) .element (ts, closed)

/-- A match. -/
def matchBlock (i : Inner) : Parse Tree := do
  let start ← place
  word "match"
  let t ← subject i.read
  op ":"
  kind .newline
  kind .indent
  check (← atWord "case")
  let cases ← many (·.isWord "case") (matchCase i)
  kind .dedent
  node start .matchBlock ((.subject, t) :: asParts .case cases)

/-- Whether the line that some tokens start with ends with a colon. -/
def lineOpens : List Token → Bool
  | t :: u :: rest => if u.kind = .newline then t.isOp ":" else lineOpens (u :: rest)
  | _ => false

/-- What `async` makes of a statement. -/
def asyncStatement (i : Inner) : Parse Tree := do
  let start ← place
  word "async"
  if ← atWord "def" then functionDef i [] start true
  else if ← atWord "for" then forLoop i start true
  else withBlock i start true

/-- A statement, or several on one line. -/
def statement (i : Inner) : Parse (List Tree) := do
  let t ← peek
  let start := t.range.start
  if t.isOp "@" then return [← decorated i]
  else if t.kind ≠ .name then simpleStatements i.read
  else match t.text with
    | "def" => return [← functionDef i [] start false]
    | "class" => return [← classDef i []]
    | "if" => return [← branch i]
    | "while" => return [← whileLoop i]
    | "for" => return [← forLoop i start false]
    | "with" => return [← withBlock i start false]
    | "try" => return [← tryBlock i]
    | "async" => return [← asyncStatement i]
    | "match" =>
      -- Elsewhere the word is a name, and only the line of a block ends with a colon.
      if lineOpens (← get).tokens then return [← matchBlock i] else simpleStatements i.read
    | _ => simpleStatements i.read

/-- Statements up to a token that ends them. -/
def statements (i : Inner) (ends : TokenKind) : Parse (List Tree) := do
  let groups ← many (·.kind ≠ ends) (statement i)
  return groups.flatten

/-- A block: statements on the same line, or deeper ones on lines of their own. The counts bound the
nesting of blocks and of patterns. -/
def blockOf (read : Reader) (levels : Nat) : Nat → Parse (List Tree)
  | 0 => failure
  | depth + 1 => do
    let i : Inner := ⟨read, blockOf read levels depth, levels⟩
    if ← take? (·.kind = .newline) then
      kind .indent
      let body ← statements i .dedent
      kind .dedent
      check !body.isEmpty
      return body
    else simpleStatements i.read

/-- Levels of blocks: each is deeper than the one before it. -/
def blockLevels : Nat := maxIndents + 2

/-! ## Programs -/

/-- Whether a statement can start with a token. The words that are left out go on with the statement
before them. -/
def startsStatement (t : Token) : Bool :=
  match t.kind with
  | .indent | .dedent | .endOfInput => false
  | .name => !(["elif", "else", "except", "finally"].contains t.text)
  | _ => true

/-- Cuts tokens in front of every statement that stands in no block. `taken` holds the tokens of a
statement so far, backwards, and `first` the first token of the line. -/
def cutStatements : (depth : Nat) → (first : Option Token) → (taken : List Token) → List Token →
    List (List Token)
  | _, _, taken, [] => if taken.isEmpty then [] else [taken.reverse]
  | depth, first, taken, t :: rest =>
    match t.kind with
    | .endOfInput => if taken.isEmpty then [] else [taken.reverse]
    | .indent => cutStatements (depth + 1) first (t :: taken) rest
    | .dedent =>
      if depth = 1 ∧ rest.head?.any startsStatement then
        (t :: taken).reverse :: cutStatements 0 none [] rest
      else cutStatements (depth - 1) first (t :: taken) rest
    | .newline =>
      -- A decorator belongs to the statement behind it.
      if depth = 0 ∧ rest.head?.any startsStatement ∧ !first.any (·.isOp "@") then
        (t :: taken).reverse :: cutStatements 0 none [] rest
      else cutStatements depth none (t :: taken) rest
    | _ => cutStatements depth (first.or (some t)) (t :: taken) rest

/-- Reads the statements of some tokens, and tells where the last one ends. -/
def program? (tokens : List Token) : Option (List Tree × Position) := do
  let levels := levelsFor tokens
  let read := expressionsOf tokens
  let (body, s) ← statements ⟨read, blockOf read levels blockLevels, levels⟩ .endOfInput
    (Parsing.ofTokens (tokens ++ [mark .endOfInput ⟨1, 0⟩]))
  some (body, s.stop)

end Pseudonym.Python.Grammar

namespace Pseudonym.Python

/-- The tree of a program; none if it has none. -/
def Module.parse? (source : String) : Option Tree := do
  let tokens ← tokens? source
  let parts ← (Grammar.cutStatements 0 none [] tokens).mapM Grammar.program?
  let stop := (parts.getLast?.map (·.2)).getD ⟨1, 0⟩
  some (.node .module ⟨⟨1, 0⟩, stop⟩ (asParts .body (parts.flatMap (·.1))))

end Pseudonym.Python
