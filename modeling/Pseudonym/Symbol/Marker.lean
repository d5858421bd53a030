import Pseudonym.Text.Word

/-!
# Markers

A marker is the qualified name of a decorator or base type. A marker set lists names that keep a
declaration from being renamed; an entry `p.*` covers every name inside the package `p`. A marker
that could not be resolved leaves the question open, and an open question blocks like a hit.
-/

namespace Pseudonym

open Text

/-- The answer to a marker look-up. -/
inductive Presence where
  | absent
  | unknown
  | present
deriving DecidableEq, Repr, Inhabited

namespace Presence

/-- The word for an answer. -/
def word : Presence → String
  | .absent => "absent"
  | .unknown => "unknown"
  | .present => "present"

/-- Whether an answer keeps a declaration from being renamed. -/
def blocks : Presence → Bool
  | .absent => false
  | _ => true

/-- The stronger of two answers: a hit wins over an open question, that over a miss. -/
def join : Presence → Presence → Presence
  | .present, _ => .present
  | _, .present => .present
  | .unknown, _ => .unknown
  | _, .unknown => .unknown
  | .absent, .absent => .absent

/-- The strongest of several answers. -/
def combine (answers : List Presence) : Presence := answers.foldr join .absent

end Presence

/-- A marker set: full names and packages, each once, in order of entry. -/
structure MarkerSet where
  names : List String := []
  packages : List String := []
deriving DecidableEq, Repr, Inhabited

namespace MarkerSet

/-- Appends an item unless it is there. -/
def insertOnce (item : String) (items : List String) : List String :=
  if item ∈ items then items else items ++ [item]

/-- The package of a wildcard entry. -/
def package? (entry : String) : Option String :=
  if entry.endsWith ".*" then some (String.ofList (entry.toList.dropLast.dropLast)) else none

/-- Adds an entry; surrounding blanks are dropped, and so is a blank entry. -/
def insert (s : MarkerSet) (entry : String) : MarkerSet :=
  let entry := trim entry
  if entry = "" then s
  else match package? entry with
    | some p => { s with packages := insertOnce p s.packages }
    | none => { s with names := insertOnce entry s.names }

/-- The set of a list of entries. -/
def ofList (entries : List String) : MarkerSet := entries.foldl insert {}

/-- All packages that hold a dotted name: its proper initial segments at dots. -/
def enclosingPackages (marker : String) : List String :=
  let parts := marker.splitOn "."
  (List.range (parts.length - 1)).map fun n => ".".intercalate (parts.take (n + 1))

/-- Whether a resolved marker is covered. -/
def covers (s : MarkerSet) (marker : String) : Bool :=
  s.names.contains marker || (enclosingPackages marker).any fun p => s.packages.contains p

/-- Looks up the markers of one declaration; `none` is a marker that could not be resolved. -/
def lookup (s : MarkerSet) (markers : List (Option String)) : Presence :=
  if markers.any fun m => (m.map s.covers).getD false then .present
  else if markers.any Option.isNone then .unknown
  else .absent

/-- Sorts texts by code points. -/
def sortTexts (items : List String) : List String :=
  items.mergeSort fun a b => decide (a ≤ b)

/-- All entries: full names, then wildcards, each sorted. -/
def toList (s : MarkerSet) : List String :=
  sortTexts s.names ++ sortTexts (s.packages.map (· ++ ".*"))

/-- The count of entries. -/
def size (s : MarkerSet) : Nat := s.names.length + s.packages.length

end MarkerSet

end Pseudonym
