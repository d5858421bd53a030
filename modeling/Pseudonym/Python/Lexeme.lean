import Pseudonym.Python.Token
import Pseudonym.Source.Line

/-!
# Lexemes of a text

A tolerant scan of a text, line by line: what the grammar does not know becomes an error lexeme, and
the scan goes on. Comments and line breaks are lexemes of their own. Only brackets and strings that
never end, and indentation that matches no level, stop it.
-/

namespace Pseudonym.Python

open Text

/-- The kind of a lexeme. -/
inductive LexemeKind where
  | name
  | number
  | string
  | operator
  /-- The end of a statement. -/
  | newline
  /-- A line break that ends no statement. -/
  | break
  | comment
  | indent
  | dedent
  | error
  | endOfInput
deriving DecidableEq, Repr, Inhabited

/-- A lexeme with its text. Lines count from one, columns from zero, in characters. -/
structure Lexeme where
  kind : LexemeKind
  text : String
  line : Nat
  column : Nat
deriving DecidableEq, Repr, Inhabited

/-- Why a scan stops. -/
inductive ScanError where
  | openString
  | openStatement
  | indentation
deriving DecidableEq, Repr

/-- The text of an error. -/
def ScanError.message : ScanError → String
  | .openString => "EOF in multi-line string"
  | .openStatement => "EOF in multi-line statement"
  | .indentation => "unindent does not match any outer indentation level"

namespace Scan

/-! ## Numbers -/

/-- Digits with single underscores between them. The characters before the first digit that has one
in front are taken only with it. -/
def moreDigits (isDigit : Char → Bool) : List Char → List Char × List Char
  | '_' :: c :: rest =>
    if isDigit c then
      let (ds, rest) := moreDigits isDigit rest
      ('_' :: c :: ds, rest)
    else ([], '_' :: c :: rest)
  | c :: rest =>
    if isDigit c then
      let (ds, rest) := moreDigits isDigit rest
      (c :: ds, rest)
    else ([], c :: rest)
  | [] => ([], [])

/-- Digits with single underscores between them; the first is a digit. -/
def digits (cs : List Char) : List Char × List Char :=
  match cs with
  | c :: rest =>
    if c.isDigit then
      let (ds, rest) := moreDigits Char.isDigit rest
      (c :: ds, rest)
    else ([], cs)
  | [] => ([], [])

/-- An exponent; nothing if there is none. -/
def exponent (cs : List Char) : List Char × List Char :=
  match cs with
  | e :: rest =>
    if e = 'e' ∨ e = 'E' then
      let (sign, rest) := match rest with
        | '+' :: r => (['+'], r)
        | '-' :: r => (['-'], r)
        | r => ([], r)
      match digits rest with
      | ([], _) => ([], cs)
      | (ds, rest) => (e :: sign ++ ds, rest)
    else ([], cs)
  | [] => ([], [])

/-- A number with a point or an exponent. -/
def float? (cs : List Char) : Option (List Char × List Char) :=
  match digits cs with
  | ([], '.' :: rest) =>
    match digits rest with
    | ([], _) => none
    | (ds, rest) =>
      let (e, rest) := exponent rest
      some ('.' :: ds ++ e, rest)
  | ([], _) => none
  | (whole, '.' :: rest) =>
    let (ds, rest) := digits rest
    let (e, rest) := exponent rest
    some (whole ++ '.' :: ds ++ e, rest)
  | (whole, rest) =>
    match exponent rest with
    | ([], _) => none
    | (e, rest) => some (whole ++ e, rest)

/-- The mark of an imaginary number behind a number. -/
def imaginary? : List Char × List Char → Option (List Char × List Char)
  | (ds, 'j' :: rest) => some (ds ++ ['j'], rest)
  | (ds, 'J' :: rest) => some (ds ++ ['J'], rest)
  | _ => none

/-- A whole number. -/
def whole? (cs : List Char) : Option (List Char × List Char) :=
  let based (m : Char) (rest : List Char) (isDigit : Char → Bool) :=
    match moreDigits isDigit rest with
    | ([], _) => none
    | (ds, rest) => some ('0' :: m :: ds, rest)
  let zeros (rest : List Char) :=
    let (ds, rest) := moreDigits (· = '0') rest
    some ('0' :: ds, rest)
  match cs with
  | '0' :: m :: rest =>
    let found :=
      if m = 'x' ∨ m = 'X' then based m rest fun c => (hexDigit? c.toLower).isSome
      else if m = 'b' ∨ m = 'B' then based m rest fun c => c = '0' || c = '1'
      else if m = 'o' ∨ m = 'O' then based m rest fun c => '0' ≤ c && c ≤ '7'
      else none
    found.or (zeros (m :: rest))
  | ['0'] => some (['0'], [])
  | _ =>
    match digits cs with
    | ([], _) => none
    | found => some found

/-- A number. -/
def number? (cs : List Char) : Option (List Char × List Char) :=
  let whole := match digits cs with
    | ([], _) => none
    | found => imaginary? found
  whole.or (((float? cs).bind imaginary?).or ((float? cs).or (whole? cs)))

/-! ## Strings -/

/-- Reads a short string on one line. It ends at its quote, or goes on behind a backslash at the end
of the line. `taken` is backwards. -/
def shortString (quote : Char) : (taken : List Char) → List Char → Option (List Char × List Char)
  | _, [] => none
  | taken, c :: rest =>
    if c = quote then some ((c :: taken).reverse, rest)
    else if c = '\n' then none
    else if c = '\\' then
      match rest with
      | '\n' :: rest => some (('\n' :: c :: taken).reverse, rest)
      | d :: rest => shortString quote (d :: c :: taken) rest
      | [] => none
    else shortString quote (c :: taken) rest

/-- Reads the rest of a string that started before this line, up to its quotes. -/
def stringEnd (quote : Char) (long : Bool) :
    (taken : List Char) → List Char → Option (List Char × List Char)
  | _, [] => none
  | taken, c :: rest =>
    if c = '\\' then
      match rest with
      | [] => none
      | d :: rest => if d = '\n' then none else stringEnd quote long (d :: c :: taken) rest
    else if c = quote then
      if !long then some ((c :: taken).reverse, rest)
      else match rest with
        | a :: b :: more =>
          if a = quote ∧ b = quote then some ((b :: a :: c :: taken).reverse, more)
          else stringEnd quote long (c :: taken) rest
        | _ => stringEnd quote long (c :: taken) rest
    else stringEnd quote long (c :: taken) rest

/-! ## Pieces of a line -/

/-- What stands at a place of a line. -/
inductive Piece where
  | join
  | comment
  | number
  | newline
  | operator
  | word
  | string
  /-- A short string that goes on behind the end of the line. -/
  | joinedString (quote : Char)
  /-- The opening of a long string. -/
  | longOpening (quote : Char)
deriving DecidableEq, Repr

/-- The blanks between lexemes. -/
def isGap (c : Char) : Bool := c = ' ' || c = '\t' || c = '\x0c'

/-- A string at the front of a list. -/
def string? (cs : List Char) : Option (Piece × List Char × List Char) :=
  match marksBeforeQuote? {} [] cs with
  | some (_, letters, q :: rest) =>
    match rest with
    | a :: b :: more =>
      if a = q ∧ b = q then some (.longOpening q, letters ++ [q, q, q], more) else short letters q rest
    | _ => short letters q rest
  | _ => none
where
  /-- A short string behind its letters. -/
  short (letters : List Char) (q : Char) (rest : List Char) :
      Option (Piece × List Char × List Char) :=
    (shortString q (q :: letters.reverse) rest).map fun (taken, rest) =>
      (if taken.getLast? = some '\n' then .joinedString q else .string, taken, rest)

/-- The piece at the front of a list: its kind, its characters, and what follows. -/
def piece? (cs : List Char) : Option (Piece × List Char × List Char) :=
  match cs with
  | '\\' :: '\n' :: rest => some (.join, ['\\', '\n'], rest)
  | '#' :: _ =>
    let taken := cs.takeWhile (· ≠ '\n')
    some (.comment, taken, cs.drop taken.length)
  | '\n' :: rest => some (.newline, ['\n'], rest)
  | _ =>
    match number? cs with
    | some (taken, rest) => some (.number, taken, rest)
    | none =>
      match operatorAt? cs with
      | some op => some (.operator, op.toList, cs.drop op.length)
      | none =>
        match string? cs with
        | some found => some found
        | none =>
          match cs.takeWhile isWordChar with
          | [] => none
          | taken => some (.word, taken, cs.drop taken.length)

/-! ## Lines -/

/-- A string that is still open. -/
structure OpenString where
  quote : Char
  long : Bool
  text : List Char
  line : Nat
  column : Nat
deriving DecidableEq, Repr

/-- What a line inherits from the lines before it. -/
structure State where
  /-- Brackets opened less brackets closed. -/
  depth : Int := 0
  /-- Whether the line before ended with a backslash. -/
  joined : Bool := false
  open? : Option OpenString := none
  /-- Whether an open string ends with its line unless a backslash stands there. It stays set after a
  short string that was broken off. -/
  needsJoin : Bool := false
  /-- Levels of indentation, the deepest first. -/
  indents : List Nat := [0]
deriving Repr

/-- How a bracket changes the depth. -/
def bracketStep : Char → Int
  | '(' | '[' | '{' => 1
  | ')' | ']' | '}' => -1
  | _ => 0

/-- Scans the rest of a line, from a column on. Each round takes a character. -/
def restOfLine (line : Nat) : Nat → (column : Nat) → State → List Char → List Lexeme × State
  | 0, _, s, _ => ([], s)
  | _ + 1, _, s, [] => ([], s)
  | fuel + 1, column, s, c :: cs =>
    let gap := (c :: cs).takeWhile isGap
    let start := column + gap.length
    let more (kind : LexemeKind) (taken rest : List Char) (s : State) : List Lexeme × State :=
      let (ls, s) := restOfLine line fuel (start + taken.length) s rest
      (⟨kind, String.ofList taken, line, start⟩ :: ls, s)
    match piece? ((c :: cs).drop gap.length) with
    | none =>
      if ((c :: cs).drop gap.length).isEmpty then ([], s)
      else
        let (ls, s) := restOfLine line fuel (column + 1) s cs
        (⟨.error, String.singleton c, line, column⟩ :: ls, s)
    | some (piece, taken, rest) =>
      match piece with
      | .join => restOfLine line fuel (start + taken.length) { s with joined := true } rest
      | .comment => more .comment taken rest s
      | .number => more .number taken rest s
      | .newline => more (if s.depth > 0 then .break else .newline) taken rest s
      | .string => more .string taken rest s
      | .word =>
        let isName := (taken.head?.map isIdentifierStart).getD false
        more (if isName then .name else .operator) taken rest s
      | .operator =>
        more .operator taken rest
          { s with depth := s.depth + (taken.head?.map bracketStep).getD 0 }
      | .joinedString q => ([], { s with open? := some ⟨q, false, taken, line, start⟩, needsJoin := true })
      | .longOpening q =>
        match stringEnd q true taken.reverse rest with
        | some (text, rest) => more .string text rest s
        | none => ([], { s with open? := some ⟨q, true, taken ++ rest, line, start⟩ })

/-- The width of the indentation of a line, and the blanks that make it. -/
def indentation : (width : Nat) → List Char → Nat × List Char
  | width, ' ' :: rest =>
    let (w, taken) := indentation (width + 1) rest
    (w, ' ' :: taken)
  | width, '\t' :: rest =>
    let (w, taken) := indentation ((width / 8 + 1) * 8) rest
    (w, '\t' :: taken)
  | _, '\x0c' :: rest =>
    let (w, taken) := indentation 0 rest
    (w, '\x0c' :: taken)
  | width, _ => (width, [])

/-- Leaves levels deeper than a width; none if the width is no level. -/
def leaveLevels (width : Nat) : List Nat → Option (Nat × List Nat)
  | [] => none
  | level :: outer =>
    if width < level then (leaveLevels width outer).map fun (n, levels) => (n + 1, levels)
    else if width = level then some (0, level :: outer)
    else none

/-- Scans a line that starts a statement. -/
def freshLine (line : Nat) (s : State) (cs : List Char) : Except ScanError (List Lexeme × State) :=
  let (width, blanks) := indentation 0 cs
  let column := blanks.length
  let rest := cs.drop column
  match rest with
  | '#' :: _ =>
    let comment := rest.takeWhile (· ≠ '\n')
    .ok ([⟨.comment, String.ofList comment, line, column⟩,
      ⟨.break, String.ofList (rest.drop comment.length), line, column + comment.length⟩], s)
  | '\n' :: _ => .ok ([⟨.break, String.ofList rest, line, column⟩], s)
  | _ =>
    let level := s.indents.head?.getD 0
    let finish (marks : List Lexeme) (indents : List Nat) : List Lexeme × State :=
      let (ls, s) := restOfLine line (rest.length + 1) column { s with indents } rest
      (marks ++ ls, s)
    if level < width then
      .ok (finish [⟨.indent, String.ofList blanks, line, 0⟩] (width :: s.indents))
    else match leaveLevels width s.indents with
      | some (n, indents) => .ok (finish (List.replicate n ⟨.dedent, "", line, column⟩) indents)
      | none => .error .indentation

/-- Scans a line that goes on with an open string. -/
def stringLine (line : Nat) (s : State) (o : OpenString) (cs : List Char) :
    List Lexeme × State :=
  match stringEnd o.quote o.long [] cs with
  | some (taken, rest) =>
    let (ls, s) := restOfLine line (rest.length + 1) taken.length
      { s with open? := none, needsJoin := false } rest
    (⟨.string, String.ofList (o.text ++ taken), o.line, o.column⟩ :: ls, s)
  | none =>
    let joins := match cs.reverse with
      | '\n' :: '\\' :: _ => true
      | _ => false
    if s.needsJoin && !joins then
      ([⟨.error, String.ofList (o.text ++ cs), o.line, o.column⟩], { s with open? := none })
    else ([], { s with open? := some { o with text := o.text ++ cs } })

/-- Scans one line with its line feed. -/
def scanLine (line : Nat) (s : State) (cs : List Char) : Except ScanError (List Lexeme × State) :=
  match s.open? with
  | some o => .ok (stringLine line s o cs)
  | none =>
    if s.depth = 0 ∧ !s.joined then freshLine line s cs
    else .ok (restOfLine line (cs.length + 1) 0 { s with joined := false } cs)

/-- Scans lines, the first of which has a number. -/
def scanLines : Nat → State → List (List Char) → Except ScanError (List Lexeme)
  | line, s, [] =>
    if s.open?.isSome then .error .openString
    else if s.depth = 0 ∧ !s.joined then
      .ok (List.replicate (s.indents.length - 1) ⟨.dedent, "", line, 0⟩ ++ [⟨.endOfInput, "", line, 0⟩])
    else .error .openStatement
  | line, s, cs :: rest => do
    let (ls, s) ← scanLine line s cs
    let more ← scanLines (line + 1) s rest
    return ls ++ more

end Scan

/-- The lines that are scanned: every line ends with a line feed, and an empty text is one line. -/
def scannedLines (source : String) : List (List Char) :=
  match Source.lines source with
  | [] => [['\n']]
  | ls => ls.map fun l => l.content ++ ['\n']

/-- The lexemes of a text. -/
def lexemes (source : String) : Except ScanError (List Lexeme) :=
  Scan.scanLines 1 {} (scannedLines source)

end Pseudonym.Python
