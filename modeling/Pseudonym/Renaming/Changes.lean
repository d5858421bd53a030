import Pseudonym.Python.Comment
import Pseudonym.Renaming.Conflict

/-!
# Changes to a program

Plans are committed as a whole or refused. Beside committed plans, the record of changes holds the
constants whose uses are replaced by their literal and the comments to be deleted.
-/

namespace Pseudonym

open Files

/-- All changes made so far. -/
structure Changes where
  /-- Whether methods of one scope may share a name when their signatures differ. -/
  overloading : Bool := false
  /-- The committed plans, in order. -/
  committed : List Plan := []
  /-- The constants replaced by their literals. -/
  inlined : List SymbolId := []
  /-- The deleted comments of each file. -/
  deleted : List (Option Path × List Comment) := []
deriving Repr, Inhabited

/-- Why a change is refused. -/
inductive ChangeError where
  | documentationComment (line : Nat)
  | publicConstant (name : String)
  | noLiteral (name : String)
  | renamedConstant (name : String)
deriving DecidableEq, Repr

/-- The text of a refusal. -/
def ChangeError.message : ChangeError → String
  | .documentationComment line => s!"Refusing to delete documentation comment at line {line}"
  | .publicConstant name => s!"Cannot inline public declaration {name}"
  | .noLiteral name => s!"{name} is not bound to an inlinable literal"
  | .renamedConstant name => s!"{name} was already renamed"

namespace Changes

/-! ## Renaming -/

/-- Gives every symbol of a list of renames its new name. -/
def applyRenames (g : Graph) (renames : List Rename) : Graph :=
  renames.foldl (fun g r => g.rename r.symbol r.name) g

/-- Commits a plan if it has no conflicts; otherwise tells them and changes nothing. -/
def rename (c : Changes) (g : Graph) (p : Plan) : List Conflict × Graph × Changes :=
  match g.conflicts c.overloading p with
  | [] => ([], applyRenames g p.entries, { c with committed := c.committed ++ [p] })
  | conflicts => (conflicts, g, c)

/-! ## Inlining -/

/-- Why a constant cannot be replaced by its literal. -/
def inlineError? (s : Symbol) : Option ChangeError :=
  if s.visibility = .pub then some (.publicConstant s.name)
  else if s.literal.isNone then some (.noLiteral s.name)
  else if s.isRenamed then some (.renamedConstant s.name)
  else none

/-- Replaces a constant by its literal from now on. -/
def inline (c : Changes) (s : Symbol) : Except ChangeError Changes :=
  match inlineError? s with
  | some e => .error e
  | none => .ok (if s.id ∈ c.inlined then c else { c with inlined := c.inlined ++ [s.id] })

/-- Whether a constant is replaced by its literal. -/
def isInlined (c : Changes) (id : SymbolId) : Bool := c.inlined.contains id

/-! ## Comments -/

/-- The deleted comments of a file. -/
def deletedIn (c : Changes) (file : Option Path) : List Comment :=
  ((c.deleted.find? (·.1 = file)).map (·.2)).getD []

/-- Adds a comment to those of its file, each once. -/
def recordComment (comment : Comment) :
    List (Option Path × List Comment) → List (Option Path × List Comment)
  | [] => [(comment.file, [comment])]
  | (file, comments) :: rest =>
    if file = comment.file then
      (file, if comment ∈ comments then comments else comments ++ [comment]) :: rest
    else (file, comments) :: recordComment comment rest

/-- Deletes a comment, unless it is documentation. -/
def deleteComment (c : Changes) (comment : Comment) : Except ChangeError Changes :=
  if comment.isDocumentation then .error (.documentationComment comment.line)
  else .ok { c with deleted := recordComment comment c.deleted }

/-! ## Files -/

/-- Appends the items that are not there yet. -/
def union (xs ys : List Path) : List Path :=
  ys.foldl (fun xs y => if y ∈ xs then xs else xs ++ [y]) xs

/-- The files of the occurrences of some symbols. -/
def filesOf (g : Graph) (ids : List SymbolId) : List Path :=
  (g.symbolsOf ids).flatMap fun s => s.spans.map (·.file)

/-- The files with a committed rename, an inlined constant or a deleted comment. -/
def touchedFiles (c : Changes) (g : Graph) : List Path :=
  union [] (c.committed.flatMap (fun p => filesOf g p.symbols) ++ filesOf g c.inlined ++
    c.deleted.filterMap (·.1))

end Changes

end Pseudonym
