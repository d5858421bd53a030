import Pseudonym.Number.Decimal
import Pseudonym.Number.Shortest
import Pseudonym.Python.Tree
import Pseudonym.Text.CharacterName

/-!
# Literals of Python programs

The values of numbers and strings, and the pieces of formatted strings.
-/

namespace Pseudonym.Python

open Text

/-! ## Numbers -/

/-- The number that digits of a base write. -/
def digitsInBase (base : Nat) (cs : List Char) : Nat :=
  cs.foldl (fun n c => base * n + (hexDigit? c.toLower).getD 0) 0

/-- The value of a number token. -/
def numberValue (text : String) : Constant :=
  let cs := text.toList.filter (· ≠ '_')
  match cs with
  | '0' :: m :: rest =>
    if m = 'x' ∨ m = 'X' then .int (digitsInBase 16 rest)
    else if m = 'o' ∨ m = 'O' then .int (digitsInBase 8 rest)
    else if m = 'b' ∨ m = 'B' then .int (digitsInBase 2 rest)
    else decimal cs
  | _ => decimal cs
where
  /-- The value of a decimal number. -/
  decimal (cs : List Char) : Constant :=
    match cs.getLast? with
    | some 'j' | some 'J' => .imaginary (Number.shortest (Number.ofDecimalText cs.dropLast))
    | _ =>
      if cs.any fun c => c = '.' || c = 'e' || c = 'E' then
        .float (Number.shortest (Number.ofDecimalText cs))
      else .int (Number.digitsToNat cs)

/-! ## Escapes -/

/-- The character that a one-letter escape stands for. -/
def simpleEscape? : Char → Option Char
  | '\\' => some '\\'
  | '\'' => some '\''
  | '"' => some '"'
  | 'a' => some '\x07'
  | 'b' => some '\x08'
  | 'f' => some '\x0c'
  | 'n' => some '\n'
  | 'r' => some '\r'
  | 't' => some '\t'
  | 'v' => some '\x0b'
  | _ => none

/-- Exactly `count` hexadecimal digits. -/
def hexEscape? (count : Nat) (cs : List Char) : Option (Nat × List Char) :=
  let ds := (cs.take count).map Char.toLower
  if ds.length = count ∧ ds.all (fun c => (hexDigit? c).isSome) then
    some (digitsInBase 16 ds, cs.drop count)
  else none

/-- One to three octal digits. -/
def octalEscape (cs : List Char) : List Char × List Char :=
  let ds := (cs.take 3).takeWhile fun c => '0' ≤ c && c ≤ '7'
  (ds, cs.drop ds.length)

/-- A character by its number; a number that denotes none stands for the replacement character. -/
def charOrReplacement (n : Nat) : Char :=
  if n < 0xD800 ∨ (0xE000 ≤ n ∧ n < 0x110000) then Char.ofNat n else Char.ofNat 0xFFFD

/-- Resolves the escapes of a text. Unknown ones stay as they are, but a name that no character has is
refused; the count of rounds is bounded by the length of the text. -/
def decodeText : Nat → List Char → Option (List Char)
  | 0, _ => none
  | _ + 1, [] => some []
  | _ + 1, ['\\'] => some ['\\']
  | fuel + 1, '\\' :: c :: rest =>
    let numbered (count : Nat) : Option (List Char) := do
      let (n, rest) ← hexEscape? count rest
      if n < 0x110000 then (decodeText fuel rest).map (charOrReplacement n :: ·) else none
    if c = '\n' then decodeText fuel rest
    else if c = 'x' then numbered 2
    else if c = 'u' then numbered 4
    else if c = 'U' then numbered 8
    else if c = 'N' then
      match rest with
      | '{' :: more =>
        let name := more.takeWhile (· ≠ '}')
        match more.drop name.length with
        | _ :: after => do
          let named ← characterOfName? (String.ofList name)
          (decodeText fuel after).map (named :: ·)
        | [] => none
      | _ => none
    else if '0' ≤ c ∧ c ≤ '7' then
      let (ds, rest) := octalEscape (c :: rest)
      (decodeText fuel rest).map (charOrReplacement (digitsInBase 8 ds) :: ·)
    else match simpleEscape? c with
      | some d => (decodeText fuel rest).map (d :: ·)
      | none => (decodeText fuel rest).map fun cs => '\\' :: c :: cs
  | fuel + 1, c :: rest => (decodeText fuel rest).map (c :: ·)

/-- Resolves the escapes of a byte string; each character is one byte. -/
def decodeBytes : Nat → List Char → Option (List UInt8)
  | 0, _ => none
  | _ + 1, [] => some []
  | fuel + 1, '\\' :: c :: rest =>
    if c = '\n' then decodeBytes fuel rest
    else if c = 'x' then do
      let (n, rest) ← hexEscape? 2 rest
      (decodeBytes fuel rest).map (n.toUInt8 :: ·)
    else if '0' ≤ c ∧ c ≤ '7' then
      let (ds, rest) := octalEscape (c :: rest)
      (decodeBytes fuel rest).map ((digitsInBase 8 ds).toUInt8 :: ·)
    else match simpleEscape? c with
      | some d => (decodeBytes fuel rest).map (d.toNat.toUInt8 :: ·)
      | none => (decodeBytes fuel rest).map fun bs => 92 :: c.toNat.toUInt8 :: bs
  | fuel + 1, c :: rest => (decodeBytes fuel rest).map (c.toNat.toUInt8 :: ·)

/-! ## String tokens -/

/-- A string token taken apart: its letters, what stands before its body, and its body. -/
structure StringParts where
  marks : StringMarks
  opening : List Char
  body : List Char

/-- Takes a string token apart. -/
def stringParts? (text : String) : Option StringParts := do
  let (marks, letters, quotes) ← marksBeforeQuote? {} [] text.toList
  match quotes with
  | a :: b :: c :: rest =>
    if a = b ∧ b = c ∧ 3 ≤ rest.length then
      some ⟨marks, letters ++ [a, b, c], rest.take (rest.length - 3)⟩
    else some ⟨marks, letters ++ [a], (b :: c :: rest).dropLast⟩
  | [a, _] => some ⟨marks, letters ++ [a], []⟩
  | _ => none

/-- The text of a piece of a string literal. -/
def textOf? (raw : Bool) (cs : List Char) : Option (List Char) :=
  if raw then some cs else decodeText (cs.length + 1) cs

/-! ## Formatted strings -/

/-- A replacement field: the source of its expression, the text of the token before its brace
(backwards), the text shown for a self-documenting field, the conversion, and the format. -/
inductive Piece where
  | text (value : List Char)
  | field (source before : List Char) (shown : Option (List Char)) (conversion : Option Char)
      (format : Option (List Piece))
deriving Inhabited

/-- A place in a token: what stands before it, backwards, and what follows. -/
structure Reading where
  before : List Char
  rest : List Char

/-- How a literal piece ends. -/
inductive PieceEnd where
  | doubledBrace
  | brace
  | finish
deriving DecidableEq

/-- Reads a literal piece up to a brace. `outer` is false inside a format, where braces are not
doubled. `taken` is backwards. -/
def scanPiece (raw outer : Bool) :
    Nat → (taken : List Char) → Reading → Option (List Char × PieceEnd × Reading)
  | 0, _, _ => none
  | fuel + 1, taken, r =>
    let atBrace (c : Char) (taken before rest : List Char) :
        Option (List Char × PieceEnd × Reading) :=
      if outer then
        match rest with
        | d :: more =>
          if d = c then some (c :: taken, .doubledBrace, ⟨d :: c :: before, more⟩)
          else if c = '}' then none
          else some (taken, .brace, ⟨before, c :: rest⟩)
        | [] => if c = '}' then none else some (taken, .brace, ⟨before, c :: rest⟩)
      else some (taken, .brace, ⟨before, c :: rest⟩)
    match r.rest with
    | [] => some (taken, .finish, r)
    | '\\' :: c :: rest =>
      if raw then scanPiece raw outer fuel ('\\' :: taken) ⟨'\\' :: r.before, c :: rest⟩
      else if c = 'N' then
        match rest with
        | '{' :: more =>
          let name := more.takeWhile (· ≠ '}')
          let skipped := '\\' :: 'N' :: '{' :: name ++ (more.drop name.length).take 1
          scanPiece raw outer fuel (skipped.reverse ++ taken)
            ⟨skipped.reverse ++ r.before, (more.drop name.length).drop 1⟩
        | d :: more =>
          scanPiece raw outer fuel (d :: 'N' :: '\\' :: taken) ⟨d :: 'N' :: '\\' :: r.before, more⟩
        | [] => scanPiece raw outer fuel ('N' :: '\\' :: taken) ⟨'N' :: '\\' :: r.before, []⟩
      else if c = '{' ∨ c = '}' then atBrace c ('\\' :: taken) ('\\' :: r.before) rest
      else scanPiece raw outer fuel (c :: '\\' :: taken) ⟨c :: '\\' :: r.before, rest⟩
    | c :: rest =>
      if c = '{' ∨ c = '}' then atBrace c taken r.before rest
      else scanPiece raw outer fuel (c :: taken) ⟨c :: r.before, rest⟩

/-- Reads the expression of a field up to what ends it. `quote` is the string being read, with the
count of its quotes; `brackets` are the closers still missing; `taken` is backwards. -/
def scanField : Nat → (quote : Option (Char × Bool)) → (brackets taken : List Char) →
    List Char → Option (List Char × List Char)
  | 0, _, _, _, _ => none
  | _ + 1, _, _, _, [] => none
  | fuel + 1, quote, brackets, taken, c :: rest =>
    let triple := match rest with
      | a :: b :: _ => a = c && b = c
      | _ => false
    if c = '\\' then none
    else match quote with
      | some (q, long) =>
        if c ≠ q then scanField fuel quote brackets (c :: taken) rest
        else if !long then scanField fuel none brackets (c :: taken) rest
        else if triple then scanField fuel none brackets (c :: c :: c :: taken) (rest.drop 2)
        else scanField fuel quote brackets (c :: taken) rest
      | none =>
        if c = '\'' ∨ c = '"' then
          if triple then
            scanField fuel (some (c, true)) brackets (c :: c :: c :: taken) (rest.drop 2)
          else scanField fuel (some (c, false)) brackets (c :: taken) rest
        else if c = '(' then scanField fuel none (')' :: brackets) (c :: taken) rest
        else if c = '[' then scanField fuel none (']' :: brackets) (c :: taken) rest
        else if c = '{' then scanField fuel none ('}' :: brackets) (c :: taken) rest
        else if c = '#' then none
        else if brackets.isEmpty && (c = '!' || c = ':' || c = '}' || c = '=' || c = '<' || c = '>')
        then
          match rest with
          | '=' :: more =>
            if c = '!' ∨ c = '=' ∨ c = '<' ∨ c = '>' then
              scanField fuel none brackets ('=' :: c :: taken) more
            else some (taken, c :: rest)
          | _ =>
            if c = '<' ∨ c = '>' then scanField fuel none brackets (c :: taken) rest
            else some (taken, c :: rest)
        else if c = ')' ∨ c = ']' ∨ c = '}' then
          match brackets with
          | closer :: outer =>
            if closer = c then scanField fuel none outer (c :: taken) rest else none
          | [] => none
        else scanField fuel none brackets (c :: taken) rest

/-- Blanks that the lexer skips. -/
def isSkipped (c : Char) : Bool := c = ' ' || c = '\t' || c = '\n' || c = '\x0c'

/-- The blanks of the basic character set. -/
def isAsciiBlank (c : Char) : Bool := isSkipped c || c = '\r' || c = '\x0b'

/-- Cuts a formatted string into pieces. Formats may hold fields themselves, once. Returns the pieces
and the place where they end: the end of the string, or the brace that closes a format. -/
def scanPieces (raw : Bool) :
    (levels : Nat) → (outer : Bool) → Nat → Reading → Option (List Piece × Reading)
  | _, _, 0, _ => none
  | levels, outer, fuel + 1, r => do
    let (taken, ending, r) ← scanPiece raw outer (r.rest.length + 1) [] r
    let text ← textOf? raw taken.reverse
    let literal : List Piece := if text.isEmpty then [] else [.text text]
    let more (pieces : List Piece) (r : Reading) : Option (List Piece × Reading) := do
      let (ps, r) ← scanPieces raw levels outer fuel r
      some (literal ++ pieces ++ ps, r)
    match ending with
    | .finish => some (literal, r)
    | .doubledBrace => more [] r
    | .brace =>
      match levels, r.rest with
      | levels' + 1, '{' :: rest =>
        let (source, after) ← scanField (rest.length + 1) none [] [] rest
        if source.all isSkipped then none
        else
          let before := r.before
          let read := source ++ '{' :: before
          let (shown, read, after) := match after with
            | '=' :: more =>
              let blanks := more.takeWhile isAsciiBlank
              (some (source.reverse ++ '=' :: blanks), blanks.reverse ++ '=' :: read,
                more.drop blanks.length)
            | _ => (none, read, after)
          let (conversion, read, after) ← match after with
            | '!' :: c :: more =>
              if c = 's' ∨ c = 'r' ∨ c = 'a' then some (some c, c :: '!' :: read, more) else none
            | '!' :: [] => none
            | _ => some (none, read, after)
          let (format, read, after) ← match after with
            | ':' :: more =>
              if more.isEmpty then none
              else do
                let (ps, r) ← scanPieces raw levels' false fuel ⟨':' :: read, more⟩
                some (some ps, r.before, r.rest)
            | _ => some (none, read, after)
          match after with
          | '}' :: rest =>
            let conversion := if shown.isSome && format.isNone && conversion.isNone then some 'r'
              else conversion
            let text : List Piece := match shown with
              | some cs => [.text cs]
              | none => []
            more (text ++ [.field source.reverse before shown conversion format])
              ⟨'}' :: read, rest⟩
          | _ => none
      | _, '}' :: _ => some (literal, r)
      | _, _ => none

/-- The pieces of a formatted string token. -/
def stringPieces? (p : StringParts) : Option (List Piece) := do
  let (pieces, r) ← scanPieces p.marks.raw 2 true (p.body.length + 1)
    ⟨p.opening.reverse, p.body⟩
  if r.rest.isEmpty then some pieces else none

end Pseudonym.Python
