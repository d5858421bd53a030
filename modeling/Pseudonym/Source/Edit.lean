import Pseudonym.Source.Line

/-!
# Edits by position

An edit replaces a range of characters on one line. Edits of a line are applied from right to left,
so that each finds its range where it was; an edit that reaches into one applied before it is
dropped.
-/

namespace Pseudonym.Source

/-- Replaces characters `start` to `stop` of a line, or to the end of the line, by a text. A negative
place counts from the end. -/
structure Edit where
  line : Int
  start : Int
  stop : Option Int
  text : String
deriving DecidableEq, Repr, Inhabited

namespace Edit

/-- The place among `length` characters that a number denotes. -/
def place (length : Nat) (i : Int) : Nat :=
  if i < 0 then (length + i).toNat else min i.toNat length

/-- Whether the first edit is applied before the second: the one further right comes first, and an
open end counts as further right than any closed one. -/
def before (a b : Edit) : Bool :=
  decide (a.start > b.start) ||
    (a.start = b.start &&
      ((a.stop.isNone && b.stop.isSome) ||
        (a.stop.isNone = b.stop.isNone && decide (a.stop.getD 0 ≥ b.stop.getD 0))))

/-- A line in the course of being edited: its characters and the place that edits still to come must
not pass. -/
structure Progress where
  content : List Char
  limit : Int

/-- Applies one edit, unless it passes the limit or ends before it starts. -/
def apply (p : Progress) (e : Edit) : Progress :=
  let stop := e.stop.getD p.content.length
  if stop > p.limit ∨ e.start > stop then p
  else
    let n := p.content.length
    ⟨p.content.take (place n e.start) ++ e.text.toList ++ p.content.drop (place n stop), e.start⟩

/-- A line content after all its edits. -/
def applyAll (edits : List Edit) (content : List Char) : List Char :=
  ((edits.mergeSort before).foldl apply ⟨content, content.length⟩).content

end Edit

/-- Edits and deletes lines from a place on. -/
def editLines (edits : List Edit) (deleted : List Int) : Nat → List Line → List Char
  | _, [] => []
  | number, l :: rest =>
    (if deleted.contains (number : Int) then []
      else
        match edits.filter (·.line = (number : Int)) with
        | [] => l.chars
        | own => Edit.applyAll own l.content ++ l.ending) ++
      editLines edits deleted (number + 1) rest

/-- Applies edits and deletes lines. -/
def applyEdits (source : String) (edits : List Edit) (deleted : List Int) : String :=
  String.ofList (editLines edits deleted 1 (lines source))

end Pseudonym.Source
