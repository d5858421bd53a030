/-!
# Data values

The values that settings and saved profiles are made of. An object keeps its fields in the order
in which they were written.
-/

namespace Pseudonym

/-- A number: an integer of any size, or a decimal by its text. -/
inductive JsonNumber where
  | integer (value : Int)
  | decimal (text : String)
deriving DecidableEq, Repr, Inhabited

/-- A data value. -/
inductive Json where
  | null
  | bool (value : Bool)
  | number (value : JsonNumber)
  | string (value : String)
  | array (items : List Json)
  | object (fields : List (String × Json))
deriving Repr, Inhabited, BEq

namespace Json

/-- An integer value. -/
def int (n : Int) : Json := .number (.integer n)

/-- A natural number as a value. -/
def nat (n : Nat) : Json := .int n

/-- A value, or null. -/
def ofOption (f : α → Json) : Option α → Json
  | none => .null
  | some a => f a

/-- A list of texts as a value. -/
def ofTexts (texts : List String) : Json := .array (texts.map .string)

/-- Sets a field: an existing key keeps its place. -/
def setField (key : String) (value : Json) : List (String × Json) → List (String × Json)
  | [] => [(key, value)]
  | (k, v) :: rest => if k = key then (k, value) :: rest else (k, v) :: setField key value rest

/-- One field for each key: the first place, the last value. -/
def mergeFields (fields : List (String × Json)) : List (String × Json) :=
  fields.foldl (fun done (k, v) => setField k v done) []

/-- The value of a field. -/
def field? (key : String) : Json → Option Json
  | .object fields => (fields.find? fun f => f.1 = key).map (·.2)
  | _ => none

/-- The text of a text value. -/
def string? : Json → Option String
  | .string s => some s
  | _ => none

/-- The value of a truth value. -/
def bool? : Json → Option Bool
  | .bool b => some b
  | _ => none

/-- The value of an integer. -/
def int? : Json → Option Int
  | .number (.integer n) => some n
  | _ => none

/-- The items of an array. -/
def items? : Json → Option (List Json)
  | .array items => some items
  | _ => none

end Json

end Pseudonym
