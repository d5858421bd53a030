import Pseudonym.Text.Case

/-!
# Blanks, identifiers and word characters

Character classes that decide where texts are trimmed, which texts are identifiers, and which
characters make a word.
-/

namespace Pseudonym.Text

/-! ## Blanks -/

/-- White space: separators and the controls that act as such. -/
def isBlank (c : Char) : Bool :=
  let n := c.toNat
  (9 ≤ n && n ≤ 13) || (28 ≤ n && n ≤ 32) || n = 0x85 || n = 0xA0 || n = 0x1680 ||
    (0x2000 ≤ n && n ≤ 0x200A) || n = 0x2028 || n = 0x2029 || n = 0x202F || n = 0x205F ||
    n = 0x3000

/-- Removes leading characters of a class. -/
def trimLeftWhile (p : Char → Bool) (s : String) : String :=
  String.ofList (s.toList.dropWhile p)

/-- Removes trailing characters of a class. -/
def trimRightWhile (p : Char → Bool) (s : String) : String :=
  String.ofList (s.toList.reverse.dropWhile p).reverse

/-- Removes characters of a class at both ends. -/
def trimWhile (p : Char → Bool) (s : String) : String :=
  trimRightWhile p (trimLeftWhile p s)

/-- Removes blanks at both ends. -/
def trim (s : String) : String := trimWhile isBlank s

/-- A text of blanks only. -/
def isBlankText (s : String) : Bool := s.toList.all isBlank

/-! ## Identifiers -/

/-- Characters that may start an identifier although their category does not say so. -/
def extraStarts : List Nat := [0x1885, 0x1886, 0x2118, 0x212E]

/-- Characters whose category would let them start an identifier, but whose normal form may not. -/
def excludedStarts : List Nat :=
  [0x37A, 0xE33, 0xEB3, 0x2E2F, 0xFC5E, 0xFC5F, 0xFC60, 0xFC61, 0xFC62, 0xFC63, 0xFDFA, 0xFDFB,
   0xFE70, 0xFE72, 0xFE74, 0xFE76, 0xFE78, 0xFE7A, 0xFE7C, 0xFE7E, 0xFF9E, 0xFF9F]

/-- Characters that may continue an identifier although their category does not say so. -/
def extraContinues : List Nat :=
  [0xB7, 0x387, 0x1369, 0x136A, 0x136B, 0x136C, 0x136D, 0x136E, 0x136F, 0x1370, 0x1371, 0x19DA,
   0x2118, 0x212E]

/-- Characters whose category would let them continue an identifier, but whose normal form may
not. -/
def excludedContinues : List Nat :=
  [0x37A, 0x2E2F, 0xFC5E, 0xFC5F, 0xFC60, 0xFC61, 0xFC62, 0xFC63, 0xFDFA, 0xFDFB, 0xFE70, 0xFE72,
   0xFE74, 0xFE76, 0xFE78, 0xFE7A, 0xFE7C, 0xFE7E]

/-- A character that may start an identifier. -/
def isIdentifierStart (c : Char) : Bool :=
  if c.toNat < 128 then c.isAlpha || c = '_'
  else match category c with
    | .upperLetter | .lowerLetter | .titleLetter | .modifierLetter | .otherLetter
    | .letterNumber => !excludedStarts.contains c.toNat
    | _ => extraStarts.contains c.toNat

/-- A character that may stand in an identifier after its start. -/
def isIdentifierContinue (c : Char) : Bool :=
  if c.toNat < 128 then c.isAlphanum || c = '_'
  else match category c with
    | .upperLetter | .lowerLetter | .titleLetter | .modifierLetter | .otherLetter
    | .letterNumber | .nonspacingMark | .spacingMark | .decimalNumber
    | .connectorPunctuation => !excludedContinues.contains c.toNat
    | _ => extraContinues.contains c.toNat

/-- A text that is an identifier. -/
def isIdentifier (s : String) : Bool :=
  match s.toList with
  | [] => false
  | c :: rest => isIdentifierStart c && rest.all isIdentifierContinue

/-! ## Words -/

/-- A character of a word: a letter, a number or the low line. -/
def isWordChar (c : Char) : Bool := isAlphanumeric c || c = '_'

/-- A character that is written as itself in a quoted text. -/
def isPrintable (c : Char) : Bool :=
  match category c with
  | .control | .format | .surrogate | .privateUse | .unassigned | .lineSeparator
  | .paragraphSeparator => false
  | .spaceSeparator => c = ' '
  | _ => true

/-- A non-empty text of letters. -/
def isLetterText (s : String) : Bool := !s.toList.isEmpty && s.toList.all isLetter

/-- A non-empty text of letters and numbers. -/
def isAlphanumericText (s : String) : Bool := !s.toList.isEmpty && s.toList.all isAlphanumeric

/-- A non-empty text of digits. -/
def isDigitText (s : String) : Bool := !s.toList.isEmpty && s.toList.all isDigit

end Pseudonym.Text
