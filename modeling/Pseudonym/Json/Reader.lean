import Pseudonym.Json.Basic
import Pseudonym.Number.Decimal

/-!
# Reading data values

A recursive-descent reader. Each function returns what it read and the characters after it. Fuel is
the length of the text, which bounds both the depth of a value and the count of its items. The first
fault in the text ends the reading.
-/

namespace Pseudonym.Json

/-- Why a text is not read as a value. -/
inductive ReadFault where
  /-- The text is not of the form of a value. -/
  | malformed
  /-- An integer has more digits than are read. -/
  | longInteger (digits : Nat)
deriving DecidableEq, Repr, Inhabited

/-- A part that is there, or else a text that has not the form of a value. -/
def ReadFault.orMalformed : Option α → Except ReadFault α
  | some a => .ok a
  | none => .error .malformed

/-! ## Blanks and numbers -/

/-- The four blanks that may stand between tokens. -/
def isGap (c : Char) : Bool := c = ' ' || c = '\t' || c = '\n' || c = '\r'

/-- Skips blanks. -/
def skipGaps (cs : List Char) : List Char := cs.dropWhile isGap

/-- The digits at the front of a text, and the rest. -/
def spanDigits (cs : List Char) : List Char × List Char := cs.span Char.isDigit

/-- The number that decimal digits write. -/
def digitsValue (cs : List Char) : Nat :=
  cs.foldl (fun n c => 10 * n + (c.toNat - '0'.toNat)) 0

/-- A fraction part: a point and at least one digit; otherwise nothing is taken. -/
def takeFraction : List Char → List Char × List Char
  | '.' :: rest =>
    match spanDigits rest with
    | ([], _) => ([], '.' :: rest)
    | (ds, rest) => ('.' :: ds, rest)
  | cs => ([], cs)

/-- An exponent part with its mark and sign; otherwise nothing is taken. -/
def takeExponent : List Char → List Char × List Char
  | [] => ([], [])
  | e :: rest =>
    if e = 'e' ∨ e = 'E' then
      let (sign, after) := match rest with
        | '+' :: r => (['+'], r)
        | '-' :: r => (['-'], r)
        | r => ([], r)
      match spanDigits after with
      | ([], _) => ([], e :: rest)
      | (ds, after) => (e :: sign ++ ds, after)
    else ([], e :: rest)

/-- A whole part: a single zero, or digits that do not start with one. -/
def takeWhole : List Char → List Char × List Char
  | '0' :: rest => (['0'], rest)
  | cs => spanDigits cs

/-- A number. -/
def readNumber (cs : List Char) : Except ReadFault (Json × List Char) :=
  let (sign, cs) := match cs with
    | '-' :: r => (['-'], r)
    | r => ([], r)
  match takeWhole cs with
  | ([], _) => .error .malformed
  | (whole, cs) =>
    let (fraction, cs) := takeFraction cs
    let (exponent, cs) := takeExponent cs
    if fraction.isEmpty && exponent.isEmpty then
      if Number.maxDigits < whole.length then .error (.longInteger whole.length)
      else
        let n : Int := digitsValue whole
        .ok (.int (if sign.isEmpty then n else -n), cs)
    else
      .ok (.number (.decimal (String.ofList (sign ++ whole ++ fraction ++ exponent))), cs)

/-! ## Texts -/

/-- The value of a hexadecimal digit of either case. -/
def hexValue? (c : Char) : Option Nat :=
  if '0' ≤ c ∧ c ≤ '9' then some (c.toNat - '0'.toNat)
  else if 'a' ≤ c ∧ c ≤ 'f' then some (c.toNat - 'a'.toNat + 10)
  else if 'A' ≤ c ∧ c ≤ 'F' then some (c.toNat - 'A'.toNat + 10)
  else none

/-- Four hexadecimal digits. -/
def readUnit : List Char → Option (Nat × List Char)
  | a :: b :: c :: d :: rest => do
    let a ← hexValue? a
    let b ← hexValue? b
    let c ← hexValue? c
    let d ← hexValue? d
    some (((a * 16 + b) * 16 + c) * 16 + d, rest)
  | _ => none

/-- A character given by one escape, or by two that form a pair. -/
def readEscapedUnit (cs : List Char) : Option (Char × List Char) := do
  let (high, rest) ← readUnit cs
  if 0xD800 ≤ high ∧ high < 0xDC00 then
    match rest with
    | '\\' :: 'u' :: more =>
      let (low, after) ← readUnit more
      if 0xDC00 ≤ low ∧ low < 0xE000 then
        some (Char.ofNat (0x10000 + (high - 0xD800) * 0x400 + (low - 0xDC00)), after)
      else some (Char.ofNat 0xFFFD, rest)
    | _ => some (Char.ofNat 0xFFFD, rest)
  else if 0xDC00 ≤ high ∧ high < 0xE000 then some (Char.ofNat 0xFFFD, rest)
  else some (Char.ofNat high, rest)

/-- The character that a one-letter escape stands for. -/
def simpleEscape? : Char → Option Char
  | '"' => some '"'
  | '\\' => some '\\'
  | '/' => some '/'
  | 'b' => some '\x08'
  | 'f' => some '\x0c'
  | 'n' => some '\n'
  | 'r' => some '\r'
  | 't' => some '\t'
  | _ => none

/-- The rest of a text up to its closing quote. -/
def readText : Nat → List Char → Option (List Char × List Char)
  | 0, _ => none
  | _ + 1, [] => none
  | fuel + 1, c :: rest =>
    if c = '"' then some ([], rest)
    else if c.toNat < 32 then none
    else if c = '\\' then
      match rest with
      | 'u' :: more => do
        let (d, more) ← readEscapedUnit more
        let (text, after) ← readText fuel more
        some (d :: text, after)
      | e :: more => do
        let d ← simpleEscape? e
        let (text, after) ← readText fuel more
        some (d :: text, after)
      | [] => none
    else do
      let (text, after) ← readText fuel rest
      some (c :: text, after)

/-! ## Values -/

/-- Reads the rest of an array, after its bracket and with at least one item to come. -/
def readItems (value : List Char → Except ReadFault (Json × List Char)) :
    Nat → List Char → Except ReadFault (List Json × List Char)
  | 0, _ => .error .malformed
  | fuel + 1, cs => do
    let (v, rest) ← value cs
    match skipGaps rest with
    | ',' :: rest => do
      let (vs, rest) ← readItems value fuel rest
      return (v :: vs, rest)
    | ']' :: rest => return ([v], rest)
    | _ => .error .malformed

/-- Reads the rest of an object, after its brace and with at least one field to come. -/
def readFields (value : List Char → Except ReadFault (Json × List Char)) :
    Nat → List Char → Except ReadFault (List (String × Json) × List Char)
  | 0, _ => .error .malformed
  | fuel + 1, cs =>
    match skipGaps cs with
    | '"' :: rest => do
      let (key, rest) ← ReadFault.orMalformed (readText (rest.length + 1) rest)
      match skipGaps rest with
      | ':' :: rest => do
        let (v, rest) ← value rest
        match skipGaps rest with
        | ',' :: rest => do
          let (fs, rest) ← readFields value fuel rest
          return ((String.ofList key, v) :: fs, rest)
        | '}' :: rest => return ([(String.ofList key, v)], rest)
        | _ => .error .malformed
      | _ => .error .malformed
    | _ => .error .malformed

/-- Removes a word from the front of a text. -/
def dropWord? : (word cs : List Char) → Option (List Char)
  | [], cs => some cs
  | w :: ws, c :: cs => if w = c then dropWord? ws cs else none
  | _ :: _, [] => none

/-- The words that stand for a value. -/
def constants : List (String × Json) :=
  [("null", .null), ("true", .bool true), ("false", .bool false),
   ("NaN", .number (.decimal "NaN")), ("Infinity", .number (.decimal "Infinity")),
   ("-Infinity", .number (.decimal "-Infinity"))]

/-- A value and what follows it. The fuel bounds the depth. -/
def readValue : Nat → List Char → Except ReadFault (Json × List Char)
  | 0, _ => .error .malformed
  | fuel + 1, cs =>
    match skipGaps cs with
    | [] => .error .malformed
    | '"' :: rest => do
      let (text, rest) ← ReadFault.orMalformed (readText (rest.length + 1) rest)
      return (.string (String.ofList text), rest)
    | '[' :: rest =>
      match skipGaps rest with
      | ']' :: rest => return (.array [], rest)
      | rest => do
        let (vs, rest) ← readItems (readValue fuel) (rest.length + 1) rest
        return (.array vs, rest)
    | '{' :: rest =>
      match skipGaps rest with
      | '}' :: rest => return (.object [], rest)
      | rest => do
        let (fs, rest) ← readFields (readValue fuel) (rest.length + 1) rest
        return (.object (mergeFields fs), rest)
    | cs =>
      match constants.findSome? fun (word, v) => (dropWord? word.toList cs).map fun r => (v, r) with
      | some result => return result
      | none => readNumber cs

/-- The value that a whole text writes. -/
def parse (s : String) : Except ReadFault Json := do
  let cs := s.toList
  let (v, rest) ← readValue (cs.length + 1) cs
  if (skipGaps rest).isEmpty then return v else .error .malformed

/-- The value that a whole text writes, if it writes one. -/
def ofText? (s : String) : Option Json := (parse s).toOption

end Pseudonym.Json
