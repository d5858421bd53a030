/-!
# Transition counts

A table counts how often one token follows another. The empty token stands for the start and the
end of a name. Rows and columns are read in lexicographic order.
-/

namespace Pseudonym.Model

/-- The token at both ends of every name. -/
def terminator : String := ""

/-- Counts of successors, in order of first appearance. -/
abbrev Row := List (String × Nat)

/-- Adds one to the count of a token. -/
def Row.increment (token : String) : Row → Row
  | [] => [(token, 1)]
  | (t, n) :: rest => if t = token then (t, n + 1) :: rest else (t, n) :: increment token rest

/-- The count of a token. -/
def Row.count (row : Row) (token : String) : Nat :=
  ((row.find? fun e => e.1 = token).map (·.2)).getD 0

/-- The sum of all counts. -/
def Row.total (row : Row) : Nat := row.foldr (fun e n => e.2 + n) 0

/-- The rows of a table, in order of first appearance. -/
structure Table where
  rows : List (String × Row)
deriving DecidableEq, Repr, Inhabited

namespace Table

/-- The table without transitions. -/
def empty : Table := ⟨[]⟩

/-- The counts after a token. -/
def row? (t : Table) (source : String) : Option Row :=
  (t.rows.find? fun r => r.1 = source).map (·.2)

/-- Counts one transition more in a list of rows. -/
def incrementRows (source target : String) : List (String × Row) → List (String × Row)
  | [] => [(source, [(target, 1)])]
  | (s, row) :: rest =>
    if s = source then (s, row.increment target) :: rest
    else (s, row) :: incrementRows source target rest

/-- Counts one transition more. -/
def increment (t : Table) (source target : String) : Table :=
  ⟨incrementRows source target t.rows⟩

/-- How often `target` followed `source`. -/
def count (t : Table) (source target : String) : Nat :=
  ((t.row? source).map (·.count target)).getD 0

/-- The count of rows. -/
def size (t : Table) : Nat := t.rows.length

/-- A table without rows. -/
def isEmpty (t : Table) : Bool := t.rows.isEmpty

/-- Entries sorted by token. -/
def sortByToken (entries : List (String × α)) : List (String × α) :=
  entries.mergeSort fun a b => decide (a.1 ≤ b.1)

/-- A row as probabilities, sorted by token. -/
def normalizeRow (row : Row) : List (String × Float) :=
  (sortByToken row).map fun (t, n) => (t, Float.ofNat n / Float.ofNat row.total)

/-- The table as probabilities, sorted by token in both directions. -/
def probabilities (t : Table) : List (String × List (String × Float)) :=
  ((sortByToken t.rows).filter fun r => r.2.total ≠ 0).map fun (s, row) => (s, normalizeRow row)

/-- The probabilities after a token; empty when it has no row. -/
def row (t : Table) (source : String) : List (String × Float) :=
  match t.row? source with
  | some r => if r.total = 0 then [] else normalizeRow r
  | none => []

end Table

/-- Walks a row until the probabilities passed exceed `u`; the last token stands for the rest. -/
def drawFrom (u : Float) : (passed : Float) → (chosen : String) → List (String × Float) → String
  | _, chosen, [] => chosen
  | passed, _, (token, p) :: rest =>
    if passed + p > u then token else drawFrom u (passed + p) token rest

/-- The token that a fraction of one picks from a row; the terminator for an empty row. -/
def draw (row : List (String × Float)) (u : Float) : String := drawFrom u 0.0 terminator row

end Pseudonym.Model
