import Pseudonym.Name.Words
import Pseudonym.Symbol.Kind

/-!
# Spelling styles

A word sequence is spelled as a type name, a camel-case or snake-case name, or a constant.
-/

namespace Pseudonym.Name

open Text

/-- How variables and methods are spelled. -/
inductive Convention where
  | camel
  | snake
deriving DecidableEq, Repr, Inhabited

namespace Convention

/-- All conventions. -/
def all : List Convention := [.camel, .snake]

/-- The word for a convention. -/
def word : Convention → String
  | .camel => "camel"
  | .snake => "snake"

/-- The convention that a word names. -/
def ofWord? (s : String) : Option Convention := all.find? (·.word = s)

end Convention

/-- The parts of a spelling: words without surrounding blanks, empty ones left out. -/
def parts (tokens : List String) : List String :=
  (tokens.filter fun t => !isBlankText t).map trim

/-- Every word capitalised and joined. -/
def typeName (tokens : List String) : String :=
  String.join ((parts tokens).map fun p => capitalize (lower p))

/-- A type name with its first character in lower case. -/
def camelName (tokens : List String) : String :=
  match (typeName tokens).toList with
  | [] => ""
  | c :: rest => lower c.toString ++ String.ofList rest

/-- Words in lower case, joined by underscores. -/
def snakeName (tokens : List String) : String :=
  "_".intercalate ((parts tokens).map lower)

/-- Words in upper case, joined by underscores. -/
def constantName (tokens : List String) : String :=
  "_".intercalate ((parts tokens).map upper)

/-- The spelling for a kind of symbol: types have a style of their own, and so have constants. -/
def spell (convention : Convention) (kind : SymbolKind) (constant : Bool)
    (tokens : List String) : String :=
  match kind with
  | .type => typeName tokens
  | _ =>
    if constant then constantName tokens
    else match convention with
      | .snake => snakeName tokens
      | .camel => camelName tokens

end Pseudonym.Name
