import Pseudonym.Text.CategoryTable
import Pseudonym.Text.StepTable

/-!
# General categories

The ASCII characters are classified by arithmetic, all others by table.
-/

namespace Pseudonym.Text

namespace Category

/-- Letters of every kind. -/
def isLetter : Category → Bool
  | upperLetter | lowerLetter | titleLetter | modifierLetter | otherLetter => true
  | _ => false

/-- Numbers of every kind. -/
def isNumber : Category → Bool
  | decimalNumber | letterNumber | otherNumber => true
  | _ => false

end Category

/-- The categories beyond ASCII. -/
def categoryTable : StepTable Category := ⟨.ofEntries categoryRuns⟩

/-- The category of a character below 128. -/
def asciiCategory (c : Char) : Category :=
  if c.isLower then .lowerLetter
  else if c.isUpper then .upperLetter
  else if c.isDigit then .decimalNumber
  else if c = '_' then .connectorPunctuation
  else if c = ' ' then .spaceSeparator
  else if c.toNat < 32 ∨ c.toNat = 127 then .control
  else if c = '(' ∨ c = '[' ∨ c = '{' then .openPunctuation
  else if c = ')' ∨ c = ']' ∨ c = '}' then .closePunctuation
  else if c = '-' then .dashPunctuation
  else if c = '$' then .currencySymbol
  else if c = '^' ∨ c.toNat = 96 then .modifierSymbol
  else if c = '+' ∨ c = '<' ∨ c = '=' ∨ c = '>' ∨ c = '|' ∨ c = '~' then .mathSymbol
  else .otherPunctuation

/-- The general category of a character. -/
def category (c : Char) : Category :=
  if c.toNat < 128 then asciiCategory c else categoryTable.get c.toNat .unassigned

/-- A letter. -/
def isLetter (c : Char) : Bool := (category c).isLetter

/-- A letter or a number. -/
def isAlphanumeric (c : Char) : Bool := (category c).isLetter || (category c).isNumber

end Pseudonym.Text
