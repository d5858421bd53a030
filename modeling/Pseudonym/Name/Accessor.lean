import Pseudonym.Name.Words

/-!
# Accessor names

A method called `get_x`, `getX`, `is_x`, `isX`, `set_x` or `setX` reads or writes the property `x`.
Underscores in front of the name are kept when the accessor is spelled for another property.
-/

namespace Pseudonym.Name

open Text

/-! ## Properties -/

/-- The property a field holds: its name without the underscores in front, unless nothing else is
left. -/
def property (field : String) : String :=
  if body field = "" then field else body field

/-- The form in which properties are compared: no underscores, lower case. -/
def normalizeProperty (name : String) : String :=
  lower (String.ofList (name.toList.filter fun c => !isUnderscore c))

/-- Adds a token to the words collected so far (backwards): digits join the word before them, and
tokens that are no letters or numbers are dropped. -/
def pushWord (done : List String) (token : String) : List String :=
  if !isAlphanumericText token then done
  else match isDigitText token, done with
    | true, last :: more => (last ++ token) :: more
    | _, _ => token :: done

/-- The words of a property name, with digits kept. -/
def propertyWords (name : String) : List String :=
  ((split (trimWhile isUnderscore name)).foldl pushWord []).reverse

/-! ## Verbs -/

/-- What an accessor does, as its name starts. -/
inductive Verb where
  | get
  | is
  | set
deriving DecidableEq, Repr, Inhabited

namespace Verb

/-- All verbs, in the order in which a name is tried against them. -/
def all : List Verb := [.get, .is, .set]

/-- How a verb is written. -/
def word : Verb → String
  | .get => "get"
  | .is => "is"
  | .set => "set"

/-- Accessors that read. -/
def isGetter : Verb → Bool
  | .get | .is => true
  | .set => false

/-- Accessors that write. -/
def isSetter : Verb → Bool
  | .set => true
  | _ => false

end Verb

/-- A word with its first character in upper case. -/
def raiseFirst (word : String) : String :=
  match word.toList with
  | [] => ""
  | c :: rest => String.ofList (upperChar c ++ rest)

/-- The name of an accessor for a property. -/
def accessorName (verb : Verb) (property : String) (snake : Bool) : String :=
  let ws := propertyWords property
  if snake then "_".intercalate (verb.word :: ws.map lower)
  else verb.word ++ String.join (ws.map raiseFirst)

/-! ## Accessors -/

/-- A method name read as underscores, verb and property. -/
structure Accessor where
  leading : String
  verb : Verb
  stem : String
  snake : Bool
deriving DecidableEq, Repr, Inhabited

namespace Accessor

/-- The property in the form for comparison. -/
def normalized (a : Accessor) : String := normalizeProperty a.stem

/-- The same accessor for another property. -/
def withProperty (a : Accessor) (property : String) : String :=
  a.leading ++ accessorName a.verb property a.snake

end Accessor

/-- Reads a name without leading underscores against one verb. -/
def accessorWithVerb? (lead : String) (rest : List Char) (verb : Verb) : Option Accessor :=
  match (verb.word.toList.isPrefixOf rest), rest.drop verb.word.toList.length with
  | false, _ => none
  | true, [] => none
  | true, c :: more =>
    if isUnderscore c then
      let stem := more.dropWhile isUnderscore
      if stem.isEmpty then none else some ⟨lead, verb, String.ofList stem, true⟩
    else if isUpper c then some ⟨lead, verb, String.ofList (c :: more), false⟩
    else none

/-- Reads a method name as an accessor. -/
def accessor? (method : String) : Option Accessor :=
  Verb.all.findSome? (accessorWithVerb? (leading method) (body method).toList)

end Pseudonym.Name
