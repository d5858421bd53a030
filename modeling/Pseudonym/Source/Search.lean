import Pseudonym.Text.Word

/-!
# Searching a line for a name

Some names have no position of their own in a tree. They are found behind the word or sign that
introduces them.
-/

namespace Pseudonym.Source

open Text

/-- What stands before a name. -/
inductive Lead where
  /-- One of some words, and blanks. -/
  | words (choices : List String)
  /-- Two stars, and perhaps blanks. -/
  | stars
  /-- Nothing that could make the name part of something else. -/
  | nothing
deriving DecidableEq, Repr

/-- Takes characters from the front of a list. -/
def takeFront? : (front chars : List Char) → Option (List Char)
  | [], cs => some cs
  | f :: fs, c :: cs => if f = c then takeFront? fs cs else none
  | _ :: _, [] => none

/-- Whether a name stands at the front of a list and ends there. -/
def nameEndsAt (name chars : List Char) : Bool :=
  match takeFront? name chars with
  | some (c :: _) => !isWordChar c
  | some [] => true
  | none => false

/-- How far behind this place the name stands, if its lead stands here. `previous` is the character
before this place. -/
def Lead.offset? (lead : Lead) (name : List Char) (previous : Option Char) (chars : List Char) :
    Option Nat :=
  match lead with
  | .words choices =>
    if (previous.map isWordChar).getD false then none
    else choices.findSome? fun word => do
      let rest ← takeFront? word.toList chars
      let blanks := rest.takeWhile isBlank
      if !blanks.isEmpty ∧ nameEndsAt name (rest.drop blanks.length) then
        some (word.length + blanks.length)
      else none
  | .stars => do
    let rest ← takeFront? ['*', '*'] chars
    let blanks := rest.takeWhile isBlank
    if nameEndsAt name (rest.drop blanks.length) then some (2 + blanks.length) else none
  | .nothing =>
    if (previous.map fun c => isWordChar c || c = '.').getD false then none
    else if nameEndsAt name chars then some 0 else none

/-- The first column from `start` on at which a name stands behind its lead. -/
def findName (lead : Lead) (name : List Char) (start : Nat) :
    (column : Nat) → (previous : Option Char) → List Char → Option Nat
  | column, previous, chars =>
    let here := if start ≤ column then (lead.offset? name previous chars).map (column + ·) else none
    match here, chars with
    | some found, _ => some found
    | none, [] => none
    | none, c :: rest => findName lead name start (column + 1) (some c) rest

/-- The column of a name behind its lead on a line, from a column on. -/
def nameColumn? (lead : Lead) (name : String) (line : List Char) (start : Nat) : Option Nat :=
  findName lead name.toList start 0 none line

end Pseudonym.Source
