import Pseudonym.Symbol.Kind
import Pseudonym.Text.Word

/-!
# The words of an identifier

A name is cut where the category of its characters changes. A capital in front of small letters
goes with them, so that acronyms stay whole: `HTTPServer` has the words `HTTP` and `Server`.
-/

namespace Pseudonym.Name

open Text

/-! ## Cutting -/

/-- Cuts the rest of a name. `token` is the token in progress, backwards, and `kind` the category
of the character read last. -/
def splitFrom (token : List Char) (kind : Category) : List Char → List (List Char)
  | [] => [token.reverse]
  | c :: rest =>
    if category c = kind then splitFrom (c :: token) kind rest
    else if category c = .lowerLetter ∧ kind = .upperLetter then
      match token with
      | last :: first :: more =>
        (first :: more).reverse :: splitFrom [c, last] (category c) rest
      | _ => splitFrom (c :: token) (category c) rest
    else token.reverse :: splitFrom [c] (category c) rest

/-- The tokens of a character sequence. -/
def splitChars : List Char → List (List Char)
  | [] => []
  | c :: rest => splitFrom [c] (category c) rest

/-- The tokens of a name: their concatenation is the name. -/
def split (name : String) : List String := (splitChars name.toList).map String.ofList

/-- The words of a name: its tokens of letters, in lower case. -/
def words (name : String) : List String :=
  ((split name).filter isLetterText).map lower

/-! ## Underscores -/

/-- The low line, which marks restricted names and joins words. -/
def isUnderscore (c : Char) : Bool := c = '_'

/-- The underscores a name starts with. -/
def leading (name : String) : String := String.ofList (name.toList.takeWhile isUnderscore)

/-- A name without the underscores it starts with. -/
def body (name : String) : String := trimLeftWhile isUnderscore name

/-! ## What the spelling of a name says -/

/-- A name with two underscores at both ends and something between them. -/
def isDunder (name : String) : Bool :=
  4 < name.length && name.startsWith "__" && name.endsWith "__"

/-- A name that is mangled inside a class: two underscores in front, and not two at the end. -/
def isMangled (name : String) : Bool := name.startsWith "__" && !name.endsWith "__"

/-- A name spelled as a constant. -/
def isConstantSpelling (name : String) : Bool := isUpperText name

end Pseudonym.Name

namespace Pseudonym.Visibility

/-- The tier of a class member, by the spelling of its name. -/
def ofMember (name : String) : Visibility :=
  if Name.isMangled name then .priv
  else if name.startsWith "_" && !Name.isDunder name then .prot
  else .pub

end Pseudonym.Visibility
