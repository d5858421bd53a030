/-!
# Tables over code points

A `StepTable` is a function on code points that changes its value at listed points only; a
`CodeSet` is a set of code points given by runs; a `CodeMap` lists the code points that have an
entry. All three are search trees over their entries, which come in increasing order from a list or
from compact text.
-/

namespace Pseudonym.Text

/-! ## Reading table text -/

/-- The value of a lower-case hexadecimal digit. -/
def hexDigit? (c : Char) : Option Nat :=
  if '0' ≤ c ∧ c ≤ '9' then some (c.toNat - '0'.toNat)
  else if 'a' ≤ c ∧ c ≤ 'f' then some (c.toNat - 'a'.toNat + 10)
  else none

/-- The number written by the hexadecimal digits of a text; other characters are skipped. -/
def readHex (cs : List Char) : Nat :=
  cs.foldl (fun n c => match hexDigit? c with | some d => 16 * n + d | none => n) 0

/-- The fields of a table text, which blanks and line breaks separate. -/
def tableFields (s : String) : List String :=
  ((s.map fun c => if c = '\n' then ' ' else c).splitOn " ").filter (· ≠ "")

/-! ## Search trees -/

variable {α : Type}

/-- A search tree over code points, the smaller ones on the left. -/
inductive CodeTree (α : Type) where
  | leaf
  | node (left : CodeTree α) (key : Nat) (value : α) (right : CodeTree α)

namespace CodeTree

/-- A tree of at most the given height over the first entries, and the entries left over. -/
def fill : (height : Nat) → List (Nat × α) → CodeTree α × List (Nat × α)
  | 0, entries => (leaf, entries)
  | height + 1, entries =>
    match fill height entries with
    | (left, []) => (left, [])
    | (left, (key, value) :: rest) =>
      let (right, rest) := fill height rest
      (node left key value right, rest)

/-- The tree of entries in increasing order. -/
def ofEntries (entries : List (Nat × α)) : CodeTree α :=
  (fill (entries.length.log2 + 1) entries).1

/-- The last entry whose key is at most `n`; `best` is the last one found so far. -/
def lastUpTo (n : Nat) : CodeTree α → (best : Option (Nat × α)) → Option (Nat × α)
  | leaf, best => best
  | node left key value right, best =>
    bif n.blt key then left.lastUpTo n best else right.lastUpTo n (some (key, value))

end CodeTree

/-! ## The three kinds of table -/

/-- A function on code points that changes at the listed points only. -/
structure StepTable (α : Type) where
  /-- The first code point of each run and the value on that run. -/
  steps : CodeTree α

/-- The value at a code point: that of the last run which starts at or before it. -/
def StepTable.get (t : StepTable α) (n : Nat) (fallback : α) : α :=
  match t.steps.lastUpTo n none with
  | some (_, a) => a
  | none => fallback

/-- A set of code points. -/
structure CodeSet where
  /-- The first and the last code point of each run. -/
  runs : CodeTree Nat

/-- The set of runs in increasing order. -/
def CodeSet.ofRuns (runs : List (Nat × Nat)) : CodeSet := ⟨.ofEntries runs⟩

/-- Membership of a code point. -/
def CodeSet.contains (s : CodeSet) (n : Nat) : Bool :=
  match s.runs.lastUpTo n none with
  | some (_, last) => n ≤ last
  | none => false

/-- A partial function on code points. -/
structure CodeMap (α : Type) where
  /-- The code points that have an entry. -/
  entries : CodeTree α

/-- The map of code points to texts that are given by their code points. -/
def CodeMap.ofPoints (entries : List (Nat × List Nat)) : CodeMap (List Char) :=
  ⟨.ofEntries (entries.map fun (key, points) => (key, points.map Char.ofNat))⟩

/-- Reads entries written `a:x+y+…`. -/
def CodeMap.ofText (s : String) : CodeMap (List Char) :=
  ⟨.ofEntries ((tableFields s).filterMap fun field =>
    match field.splitOn ":" with
    | [a, b] => some (readHex a.toList, (b.splitOn "+").map fun x => Char.ofNat (readHex x.toList))
    | _ => none)⟩

/-- The entry of a code point. -/
def CodeMap.get? (t : CodeMap α) (n : Nat) : Option α :=
  match t.entries.lastUpTo n none with
  | some (key, a) => if key = n then some a else none
  | none => none

end Pseudonym.Text
