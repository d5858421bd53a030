import Pseudonym.Text.Word

/-!
# Tokens of Python programs

The lexer turns a source text into the tokens that the grammar is written in. Line breaks inside
brackets, blank lines and comments vanish; the depth of indentation becomes `indent` and `dedent`
tokens. Columns count bytes of the encoded text, as compilers report them.
-/

namespace Pseudonym.Python

open Text

/-! ## Places -/

/-- A place in a source text: lines count from one, columns from zero, in bytes. -/
structure Position where
  line : Nat
  column : Nat
deriving DecidableEq, Repr, Inhabited

/-- Where a token or a node starts and ends. -/
structure Range where
  start : Position
  stop : Position
deriving DecidableEq, Repr, Inhabited

/-- The kind of a token. -/
inductive TokenKind where
  | name
  | number
  | string
  | operator
  | newline
  | indent
  | dedent
  | endOfInput
deriving DecidableEq, Repr, Inhabited

/-- A token with its text. -/
structure Token where
  kind : TokenKind
  text : String
  range : Range
deriving DecidableEq, Repr, Inhabited

/-! ## Reading characters -/

/-- The characters still to be read, and where they stand. -/
structure Cursor where
  rest : List Char
  place : Position

/-- The place after a character. -/
def Position.after (p : Position) (c : Char) : Position :=
  if c = '\n' then ⟨p.line + 1, 0⟩ else ⟨p.line, p.column + c.utf8Size⟩

/-- The place after several characters. -/
def Position.afterAll (p : Position) (cs : List Char) : Position := cs.foldl Position.after p

/-- Every line break as a line feed, and one at the end of the text. -/
def unifyBreaks : List Char → List Char
  | [] => []
  | '\r' :: '\n' :: rest => '\n' :: unifyBreaks rest
  | c :: rest => (if c = '\r' then '\n' else c) :: unifyBreaks rest

/-- The text with a line feed at its end. -/
def closeLastLine (cs : List Char) : List Char :=
  match cs.getLast? with
  | none => []
  | some c => if c = '\n' then cs else cs ++ ['\n']

/-! ## Names and numbers -/

/-- A character that can stand in a name as far as the lexer looks. -/
def isNameChar (c : Char) : Bool := c.isAlphanum || c = '_' || 128 ≤ c.toNat

/-- A character that can start a name as far as the lexer looks. -/
def isNameStart (c : Char) : Bool := c.isAlpha || c = '_' || 128 ≤ c.toNat

/-- Digits of a base, in groups that single underscores join; at least one digit. The digits come
with their underscores. -/
def digitGroups (isDigit : Char → Bool) : Nat → List Char → Option (List Char × List Char)
  | 0, _ => none
  | fuel + 1, cs =>
    match cs.span isDigit with
    | ([], _) => none
    | (ds, '_' :: rest) =>
      (digitGroups isDigit fuel rest).map fun (more, rest) => (ds ++ '_' :: more, rest)
    | (ds, rest) => some (ds, rest)

/-- Words that may follow a number without a blank. -/
def wordsAfterNumber : List String := ["and", "else", "for", "if", "in", "is", "or", "not"]

/-- Whether a number may end in front of these characters. -/
def numberMayEnd (rest : List Char) : Bool :=
  match rest with
  | [] => true
  | c :: _ =>
    !isNameChar c || wordsAfterNumber.any fun w => w.toList.isPrefixOf rest

/-- The digits of a number in another base than ten, up to where a number may end. -/
def basedDigits (isDigit : Char → Bool) (cs : List Char) : Option (List Char × List Char) :=
  match digitGroups isDigit ((cs.takeWhile isNameChar).length + 1) cs with
  | some (ds, rest) =>
    if (rest.head?.map Char.isDigit).getD false ∨ !numberMayEnd rest then none else some (ds, rest)
  | none => none

/-- A hexadecimal, octal or binary number after its leading `0x`, `0o` or `0b`. -/
def basedNumber (isDigit : Char → Bool) (cs : List Char) : Option (List Char × List Char) :=
  match cs with
  | '_' :: r => (basedDigits isDigit r).map fun (ds, rest) => ('_' :: ds, rest)
  | r => basedDigits isDigit r

/-- Decimal digits with underscores, if some stand here; an underscore without digits after it is an
error. -/
def decimalDigits (cs : List Char) : Option (List Char × List Char) :=
  match cs with
  | c :: _ =>
    if c.isDigit then digitGroups Char.isDigit ((cs.takeWhile isNameChar).length + 1) cs
    else some ([], cs)
  | [] => some ([], [])

/-- An exponent with its mark, if one stands here. -/
def exponentPart (cs : List Char) : Option (List Char × List Char) :=
  match cs with
  | e :: rest =>
    if e = 'e' ∨ e = 'E' then
      match rest with
      | s :: more =>
        if s = '+' ∨ s = '-' then
          if (more.head?.map Char.isDigit).getD false then
            (decimalDigits more).map fun (ds, r) => (e :: s :: ds, r)
          else none
        else if s.isDigit then (decimalDigits rest).map fun (ds, r) => (e :: ds, r)
        else some ([], cs)
      | [] => some ([], cs)
    else some ([], cs)
  | [] => some ([], [])

/-- A fraction with its point, if one stands here. -/
def fractionPart (cs : List Char) : Option (List Char × List Char) :=
  match cs with
  | '.' :: r => (decimalDigits r).map fun (ds, r) => ('.' :: ds, r)
  | r => some ([], r)

/-- The mark of an imaginary number, if one stands here. -/
def imaginaryMark (cs : List Char) : List Char × List Char :=
  match cs with
  | 'j' :: r => (['j'], r)
  | 'J' :: r => (['J'], r)
  | r => ([], r)

/-- What may follow the whole part of a decimal number: a fraction, an exponent, the mark of an
imaginary number. -/
def decimalTail (cs : List Char) : Option (List Char × List Char) := do
  let (fraction, cs) ← fractionPart cs
  let (exponent, cs) ← exponentPart cs
  let (mark, cs) := imaginaryMark cs
  if numberMayEnd cs then some (fraction ++ exponent ++ mark, cs) else none

/-- The digits of the base that a letter behind a zero stands for. -/
def baseDigit? (m : Char) : Option (Char → Bool) :=
  if m = 'x' ∨ m = 'X' then some fun c => (hexDigit? c.toLower).isSome
  else if m = 'o' ∨ m = 'O' then some fun c => '0' ≤ c && c ≤ '7'
  else if m = 'b' ∨ m = 'B' then some fun c => c = '0' || c = '1'
  else none

/-- A decimal number. A whole number other than zero does not start with a zero. -/
def decimalNumber (cs : List Char) : Option (List Char × List Char) := do
  let (whole, rest) ← decimalDigits cs
  let (tail, rest) ← decimalTail rest
  if tail.isEmpty && whole.head? = some '0' && whole.any (fun c => c ≠ '0' && c ≠ '_') then none
  else some (whole ++ tail, rest)

/-- A number. -/
def scanNumber (cs : List Char) : Option (List Char × List Char) :=
  match cs with
  | '0' :: m :: rest =>
    match baseDigit? m with
    | some isDigit => (basedNumber isDigit rest).map fun (ds, r) => ('0' :: m :: ds, r)
    | none => decimalNumber cs
  | _ => decimalNumber cs

/-! ## Strings -/

/-- Reads up to the closing quotes. `run` counts the quotes just read, `taken` is backwards. -/
def scanToQuote (quote : Char) (size : Nat) :
    (run : Nat) → (taken : List Char) → List Char → Option (List Char × List Char)
  | _, _, [] => none
  | run, taken, c :: rest =>
    if size = 1 ∧ c = '\n' then none
    else if c = quote then
      if run + 1 = size then some (c :: taken, rest)
      else scanToQuote quote size (run + 1) (c :: taken) rest
    else if c = '\\' then
      match rest with
      | [] => none
      | d :: rest => scanToQuote quote size 0 (d :: c :: taken) rest
    else scanToQuote quote size 0 (c :: taken) rest

/-- A string from its opening quote on. -/
def scanString : List Char → Option (List Char × List Char)
  | [] => none
  | q :: rest =>
    let close (size : Nat) (opened rest : List Char) :=
      (scanToQuote q size 0 opened rest).map fun (taken, rest) => (taken.reverse, rest)
    match rest with
    | a :: b :: more =>
      if a = q ∧ b = q then close 3 [q, q, q] more
      else if a = q then some ([q, q], b :: more)
      else close 1 [q] rest
    | [a] => if a = q then some ([q, q], []) else none
    | [] => none

/-- Which letters stand before a quote. -/
structure StringMarks where
  bytes : Bool := false
  unicode : Bool := false
  raw : Bool := false
  formatted : Bool := false
deriving DecidableEq, Repr, Inhabited

/-- Takes one more letter; none if it cannot join those before it. -/
def StringMarks.add? (m : StringMarks) (c : Char) : Option StringMarks :=
  if (c = 'b' ∨ c = 'B') ∧ !(m.bytes || m.unicode || m.formatted) then
    some { m with bytes := true }
  else if (c = 'u' ∨ c = 'U') ∧ !(m.unicode || m.bytes || m.raw || m.formatted) then
    some { m with unicode := true }
  else if (c = 'r' ∨ c = 'R') ∧ !(m.raw || m.unicode) then some { m with raw := true }
  else if (c = 'f' ∨ c = 'F') ∧ !(m.formatted || m.bytes || m.unicode) then
    some { m with formatted := true }
  else none

/-- The letters before a quote, if these characters are a string with such letters. -/
def marksBeforeQuote? (m : StringMarks) (taken : List Char) :
    List Char → Option (StringMarks × List Char × List Char)
  | [] => none
  | c :: rest =>
    if c = '"' ∨ c = '\'' then some (m, taken.reverse, c :: rest)
    else match m.add? c with
      | some m => marksBeforeQuote? m (c :: taken) rest
      | none => none

/-! ## Operators -/

/-- Operators of three, two and one characters; a longer one is preferred. -/
def operators : List String :=
  ["**=", "//=", ">>=", "<<=", "...", "!=", "%=", "&=", "**", "*=", "+=", "-=", "->", "//", "/=",
   ":=", "<<", "<=", "==", ">=", ">>", "@=", "^=", "|=", "%", "&", "(", ")", "*", "+", ",", "-",
   ".", "/", ":", ";", "<", "=", ">", "@", "[", "]", "^", "\x7b", "|", "\x7d", "~"]

/-- The operator at the front of a text. -/
def operatorAt? (cs : List Char) : Option String :=
  operators.find? fun op => op.toList.isPrefixOf cs

/-- The bracket that closes an opening one. -/
def closerOf? : String → Option String
  | "(" => some ")"
  | "[" => some "]"
  | "\x7b" => some "\x7d"
  | _ => none

/-! ## Indentation -/

/-- The most levels of indentation and of brackets. -/
def maxIndents : Nat := 100
def maxBrackets : Nat := 200

/-- A width of indentation, with tabs to multiples of eight and with tabs as one. Both measures must
agree on what is deeper. -/
structure Indent where
  wide : Nat
  narrow : Nat
deriving DecidableEq, Repr, Inhabited

/-- A character that can belong to the indentation of a line. -/
def isIndentChar (c : Char) : Bool :=
  c = ' ' || c = '\t' || c = '\x0c' || c = '\\' || c = '\n'

/-- What a line starts with: the indentation, and the cursor behind it. A backslash joins lines, and
the width before the first one counts. -/
def readIndent : Nat → Indent → (joined : Option Nat) → Cursor → Option (Indent × Option Nat × Cursor)
  | 0, _, _, _ => none
  | fuel + 1, i, joined, cur =>
    match cur.rest with
    | ' ' :: rest =>
      readIndent fuel ⟨i.wide + 1, i.narrow + 1⟩ joined ⟨rest, cur.place.after ' '⟩
    | '\t' :: rest =>
      readIndent fuel ⟨(i.wide / 8 + 1) * 8, i.narrow + 1⟩ joined ⟨rest, cur.place.after '\t'⟩
    | '\x0c' :: rest => readIndent fuel ⟨0, 0⟩ joined ⟨rest, cur.place.after '\x0c'⟩
    | '\\' :: '\n' :: rest =>
      if rest.isEmpty then none
      else
        let joined := match joined with
          | some (n + 1) => some (n + 1)
          | _ => some i.wide
        readIndent fuel i joined ⟨rest, (cur.place.after '\\').after '\n'⟩
    | '\\' :: _ => none
    | _ => some (i, joined, cur)

/-- The state between tokens. -/
structure Lexing where
  cursor : Cursor
  atLineStart : Bool := true
  indents : List Indent := [⟨0, 0⟩]
  brackets : List String := []

/-- A token without text at a place. -/
def mark (kind : TokenKind) (p : Position) : Token := ⟨kind, "", ⟨p, p⟩⟩

/-- Leaves the levels deeper than a width. -/
def dropIndents (wide : Nat) : List Indent → Nat × List Indent
  | [] => (0, [])
  | i :: outer =>
    if wide < i.wide ∧ !outer.isEmpty then
      let (n, rest) := dropIndents wide outer
      (n + 1, rest)
    else (0, i :: outer)

/-- The tokens for the indentation of a line, and the levels after it. -/
def indentTokens (p : Position) (i : Indent) (levels : List Indent) :
    Option (List Token × List Indent) :=
  match levels with
  | [] => none
  | top :: _ =>
    if i.wide = top.wide then if i.narrow = top.narrow then some ([], levels) else none
    else if top.wide < i.wide then
      if levels.length ≥ maxIndents ∨ i.narrow ≤ top.narrow then none
      else some ([mark .indent p], i :: levels)
    else
      let (n, levels) := dropIndents i.wide levels
      match levels with
      | top :: _ =>
        if i = top then some (List.replicate n (mark .dedent p), levels) else none
      | [] => none

/-! ## The lexer -/

/-- A token that takes characters from the front. -/
def takeToken (kind : TokenKind) (taken rest : List Char) (s : Lexing) : Token × Lexing :=
  let stop := s.cursor.place.afterAll taken
  (⟨kind, String.ofList taken, ⟨s.cursor.place, stop⟩⟩, { s with cursor := ⟨rest, stop⟩ })

/-- Skips characters that make no token. -/
def skipChars (taken rest : List Char) (s : Lexing) : Lexing :=
  { s with cursor := ⟨rest, s.cursor.place.afterAll taken⟩ }

/-- Keeps track of brackets: each closing one must match. -/
def trackBracket (op : String) (s : Lexing) : Option Lexing :=
  match closerOf? op with
  | some closer =>
    if s.brackets.length ≥ maxBrackets then none
    else some { s with brackets := closer :: s.brackets }
  | none =>
    if op = ")" ∨ op = "]" ∨ op = "\x7d" then
      match s.brackets with
      | closer :: outer => if closer = op then some { s with brackets := outer } else none
      | [] => none
    else some s

/-- Whether a line has no token from here on. -/
def startsNoToken : List Char → Bool
  | '#' :: _ => true
  | '\n' :: _ => true
  | _ => false

/-- The indentation that counts when backslashes join lines. -/
def Indent.joined (i : Indent) : Option Nat → Indent
  | some (n + 1) => ⟨n + 1, n + 1⟩
  | _ => i

/-- The start of a line: indentation counts unless the line is blank or inside brackets. -/
def lexLineStart (s : Lexing) : Option (List Token × Lexing) := do
  let fuel := (s.cursor.rest.takeWhile isIndentChar).length + 1
  let (i, joined, cur) ← readIndent fuel ⟨0, 0⟩ none s.cursor
  let s := { s with cursor := cur, atLineStart := false }
  if startsNoToken cur.rest then
    let comment := cur.rest.takeWhile (· ≠ '\n')
    let rest := cur.rest.drop comment.length
    match rest with
    | _ :: more =>
      some ([], { skipChars (comment ++ ['\n']) more s with atLineStart := true })
    | [] => some ([], skipChars comment rest s)
  else if s.brackets.isEmpty then
    let (tokens, indents) ← indentTokens cur.place (i.joined joined) s.indents
    some (tokens, { s with indents })
  else some ([], s)

/-- The next token inside a line. -/
def lexInLine (s : Lexing) : Option (List Token × Lexing) :=
  match s.cursor.rest with
  | [] => none
  | c :: rest =>
    if c = ' ' ∨ c = '\t' ∨ c = '\x0c' then some ([], skipChars [c] rest s)
    else if c = '#' then
      let comment := s.cursor.rest.takeWhile (· ≠ '\n')
      some ([], skipChars comment (s.cursor.rest.drop comment.length) s)
    else if c = '\n' then
      let after := { skipChars [c] rest s with atLineStart := true }
      if s.brackets.isEmpty then
        some ([⟨.newline, "", ⟨s.cursor.place, s.cursor.place⟩⟩], after)
      else some ([], after)
    else if c = '\\' then
      match rest with
      | '\n' :: more => if more.isEmpty then none else some ([], skipChars [c, '\n'] more s)
      | _ => none
    else if c = '"' ∨ c = '\'' then do
      let (taken, rest) ← scanString s.cursor.rest
      let (t, s) := takeToken .string taken rest s
      some ([t], s)
    else if isNameStart c then
      match marksBeforeQuote? {} [] s.cursor.rest with
      | some (_, letters, quoted) => do
        let (taken, rest) ← scanString quoted
        let (t, s) := takeToken .string (letters ++ taken) rest s
        some ([t], s)
      | none =>
        let (taken, rest) := s.cursor.rest.span isNameChar
        if isIdentifier (String.ofList taken) then
          let (t, s) := takeToken .name taken rest s
          some ([t], s)
        else none
    else if c.isDigit ∨ (c = '.' ∧ (rest.head?.map Char.isDigit).getD false) then do
      let (taken, rest) ← scanNumber s.cursor.rest
      let (t, s) := takeToken .number taken rest s
      some ([t], s)
    else do
      let op ← operatorAt? s.cursor.rest
      let s' ← trackBracket op s
      let (t, s') := takeToken .operator op.toList (s.cursor.rest.drop op.length) s'
      some ([t], s')

/-- All tokens from a state on; `done` are those before it, backwards. Each round takes a character
or leaves the start of a line. -/
def lexFrom : Nat → (done : List Token) → Lexing → Option (List Token)
  | 0, _, _ => none
  | fuel + 1, done, s =>
    match s.cursor.rest with
    | [] =>
      if s.brackets.isEmpty then
        some (done.reverse ++
          List.replicate (s.indents.length - 1) (mark .dedent s.cursor.place) ++
          [mark .endOfInput s.cursor.place])
      else none
    | _ =>
      match if s.atLineStart then lexLineStart s else lexInLine s with
      | none => none
      | some (tokens, s) => lexFrom fuel (tokens.reverse ++ done) s

/-- The tokens of characters that start on a line. -/
def tokensFrom? (line : Nat) (chars : List Char) : Option (List Token) :=
  let cs := closeLastLine (unifyBreaks chars)
  lexFrom (2 * cs.length + 2) [] { cursor := ⟨cs, ⟨line, 0⟩⟩ }

/-- The tokens of a text. -/
def tokens? (source : String) : Option (List Token) := tokensFrom? 1 source.toList

end Pseudonym.Python
