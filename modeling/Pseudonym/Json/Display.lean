import Pseudonym.Json.Basic
import Pseudonym.Number.Decimal
import Pseudonym.Number.Shortest
import Pseudonym.Text.Quoted

/-!
# Values inside messages

A message that quotes a value shows a text as it is, and inside a list or an object between quotes.
Absent values and truth values are written as words, decimals with the fewest digits that read back.
-/

namespace Pseudonym.Json

/-- The double that the text of a decimal denotes. -/
def decimalValue (text : String) : Float :=
  if text = "NaN" then 0.0 / 0.0
  else if text = "Infinity" then 1.0 / 0.0
  else if text = "-Infinity" then -1.0 / 0.0
  else match text.toList with
    | '-' :: digits => -Number.ofDecimalText digits
    | digits => Number.ofDecimalText digits

/-- A number inside a message. -/
def displayNumber : JsonNumber → String
  | .integer n => toString n
  | .decimal text => Number.shortest (decimalValue text)

mutual

/-- A value inside a list, an object or a pair of quotes. -/
def display : Json → String
  | .null => "None"
  | .bool b => if b then "True" else "False"
  | .number n => displayNumber n
  | .string s => Text.quoted s
  | .array items => "[" ++ displayItems items ++ "]"
  | .object fields => "\x7b" ++ displayFields fields ++ "\x7d"

/-- Items with commas between them. -/
def displayItems : List Json → String
  | [] => ""
  | [v] => display v
  | v :: rest => display v ++ ", " ++ displayItems rest

/-- Fields with commas between them. -/
def displayFields : List (String × Json) → String
  | [] => ""
  | [(k, v)] => Text.quoted k ++ ": " ++ display v
  | (k, v) :: rest => Text.quoted k ++ ": " ++ display v ++ ", " ++ displayFields rest

end

/-- A value that stands alone in a message: a text is shown without quotes. -/
def displayAlone : Json → String
  | .string s => s
  | v => display v

/-- A list of texts inside a message. -/
def displayTexts (texts : List String) : String := display (.array (texts.map .string))

/-- The word for the type of a value. -/
def typeWord : Json → String
  | .null => "NoneType"
  | .bool _ => "bool"
  | .number (.integer _) => "int"
  | .number (.decimal _) => "float"
  | .string _ => "str"
  | .array _ => "list"
  | .object _ => "dict"

end Pseudonym.Json
