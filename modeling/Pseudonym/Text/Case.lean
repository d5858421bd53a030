import Pseudonym.Text.CaseTable
import Pseudonym.Text.Category

/-!
# Case of texts

Full case mappings: one character may become several, and the capital sigma has two lower-case
forms, the final one at the end of a word.
-/

namespace Pseudonym.Text

/-! ## Classes of characters -/

def lowerMap : CodeMap (List Char) := .ofPoints lowerEntries
def upperMap : CodeMap (List Char) := .ofPoints upperEntries
def titleMap : CodeMap (List Char) := .ofPoints titleEntries
def otherUpper : CodeSet := .ofRuns otherUpperRuns
def otherLower : CodeSet := .ofRuns otherLowerRuns
def otherIgnorable : CodeSet := .ofRuns otherIgnorableRuns
def otherDigit : CodeSet := .ofRuns otherDigitRuns

/-- An upper-case character. -/
def isUpper (c : Char) : Bool :=
  if c.toNat < 128 then c.isUpper
  else category c = .upperLetter || otherUpper.contains c.toNat

/-- A lower-case character. -/
def isLower (c : Char) : Bool :=
  if c.toNat < 128 then c.isLower
  else category c = .lowerLetter || otherLower.contains c.toNat

/-- A character that takes part in case distinctions. -/
def isCased (c : Char) : Bool :=
  isUpper c || isLower c || category c = .titleLetter

/-- A character that is stepped over when looking for a cased neighbour. -/
def isCaseIgnorable (c : Char) : Bool :=
  match category c with
  | .nonspacingMark | .enclosingMark | .format | .modifierLetter | .modifierSymbol => true
  | _ => otherIgnorable.contains c.toNat

/-- A digit: decimal digits and the digits with a decoration. -/
def isDigit (c : Char) : Bool :=
  if c.toNat < 128 then c.isDigit
  else category c = .decimalNumber || otherDigit.contains c.toNat

/-! ## Mappings of one character -/

/-- The upper-case form of a character. -/
def upperChar (c : Char) : List Char :=
  if c.toNat < 128 then [c.toUpper] else (upperMap.get? c.toNat).getD [c]

/-- The title-case form of a character. -/
def titleChar (c : Char) : List Char :=
  if c.toNat < 128 then [c.toUpper] else (titleMap.get? c.toNat).getD (upperChar c)

/-- The capital sigma. -/
def capitalSigma : Char := 'Σ'

/-- Whether a sigma between these neighbours ends a word: a cased character stands before it and
none after it, ignorable characters aside. `before` is read from the sigma backwards. -/
def isFinalSigma (before after : List Char) : Bool :=
  ((before.dropWhile isCaseIgnorable).head?.map isCased).getD false &&
    !((after.dropWhile isCaseIgnorable).head?.map isCased).getD false

/-- The lower-case form of a character between its neighbours. -/
def lowerChar (before : List Char) (c : Char) (after : List Char) : List Char :=
  if c.toNat < 128 then [c.toLower]
  else if c = capitalSigma then [if isFinalSigma before after then 'ς' else 'σ']
  else (lowerMap.get? c.toNat).getD [c]

/-! ## Mappings of texts -/

/-- Lower case of what follows `before`, which is read backwards. -/
def lowerAfter : (before rest : List Char) → List Char
  | _, [] => []
  | before, c :: rest => lowerChar before c rest ++ lowerAfter (c :: before) rest

/-- A text in lower case. -/
def lower (s : String) : String := String.ofList (lowerAfter [] s.toList)

/-- A text in upper case. -/
def upper (s : String) : String := String.ofList (s.toList.flatMap upperChar)

/-- The first character in title case, all others in lower case. -/
def capitalize (s : String) : String :=
  match s.toList with
  | [] => ""
  | c :: rest => String.ofList (titleChar c ++ lowerAfter [c] rest)

/-- Title case of what follows `before`: a character after a cased one is lowered. -/
def titleAfter : (before rest : List Char) → List Char
  | _, [] => []
  | before, c :: rest =>
    (if (before.head?.map isCased).getD false then lowerChar before c rest else titleChar c) ++
      titleAfter (c :: before) rest

/-- Every word of a text capitalised, where a word is a run of cased characters. -/
def title (s : String) : String := String.ofList (titleAfter [] s.toList)

/-- Some cased character occurs, and none that is lower or title case. -/
def isUpperText (s : String) : Bool :=
  s.toList.any isUpper && !s.toList.any fun c => isLower c || category c = .titleLetter

end Pseudonym.Text
