import Pseudonym.Python.Comment
import Pseudonym.Python.Grammar.Statement
import Pseudonym.Renaming.Changes

/-!
# Rendering changed files

Changes become edits at the recorded places of the text; every other character stays. The result is
read again, and one that is no program is reported.
-/

namespace Pseudonym

open Files

/-- The edits of one file. -/
structure FileEdits where
  edits : List Source.Edit := []
  deletedLines : List Int := []
  /-- How many occurrences are renamed. -/
  renamed : Nat := 0
  /-- How many uses are replaced by a literal. -/
  inlined : Nat := 0
deriving DecidableEq, Repr, Inhabited

namespace FileEdits

/-- Replaces an occurrence by a new name. -/
def addRename (f : FileEdits) (span : Span) (name : String) : FileEdits :=
  { f with
    edits := f.edits ++ [⟨span.line, span.column, some span.endColumn, name⟩]
    renamed := f.renamed + 1 }

/-- Replaces a use by a literal. -/
def addLiteral (f : FileEdits) (span : Span) (literal : String) : FileEdits :=
  { f with
    edits := f.edits ++ [⟨span.line, span.column, some span.endColumn, literal⟩]
    inlined := f.inlined + 1 }

/-- Deletes lines. -/
def deleteLines (f : FileEdits) (lines : List Int) : FileEdits :=
  { f with deletedLines := f.deletedLines ++ lines.filter (!f.deletedLines.contains ·) }

end FileEdits

/-- The edits of several files, in the order in which the files came up. -/
abbrev EditPlan := List (Path × FileEdits)

namespace EditPlan

/-- Changes the edits of a file. -/
def update (path : Path) (f : FileEdits → FileEdits) : EditPlan → EditPlan
  | [] => [(path, f {})]
  | (p, edits) :: rest => if p = path then (p, f edits) :: rest else (p, edits) :: update path f rest

/-- The edits of a file. -/
def get? (plan : EditPlan) (path : Path) : Option FileEdits :=
  (plan.find? (·.1 = path)).map (·.2)

end EditPlan

/-- The lines from a first to a last one. -/
def linesBetween (first last : Int) : List Int :=
  (List.range (last + 1 - first).toNat).map fun (n : Nat) => first + n

/-- Plans the edits that replace a constant by its literal: at every use, and its statement goes. -/
def planInlining (plan : EditPlan) (s : Symbol) : EditPlan :=
  let plan := s.references.foldl
    (fun plan r => plan.update r.span.file (·.addLiteral r.span (s.literal.getD ""))) plan
  match s.declaration, s.statementLines with
  | some d, some (first, last) => plan.update d.file (·.deleteLines (linesBetween first last))
  | _, _ => plan

/-- Plans the edits that give a symbol its name. -/
def planRenaming (plan : EditPlan) (s : Symbol) : EditPlan :=
  s.spans.foldl (fun plan span => plan.update span.file (·.addRename span s.name)) plan

/-- The edits for all renames and all inlined constants. -/
def planEdits (g : Graph) (c : Changes) : EditPlan :=
  g.symbols.foldl
    (fun plan s =>
      if c.isInlined s.id then planInlining plan s
      else if s.isRenamed && s.isPhysical then planRenaming plan s
      else plan)
    []

/-! ## Rendering -/

/-- A rendered file. -/
structure Rendered where
  code : String
  /-- Whether the code is a program. -/
  valid : Bool
  renamed : Nat
  inlined : Nat
  deletedComments : Nat
deriving DecidableEq, Repr, Inhabited

/-- Whether a text can be read as a program. A null character stops the attempt. -/
inductive Readability where
  | readable
  | unreadable
  | nullCharacter
deriving DecidableEq, Repr

/-- Tries to read a text. -/
def readability (source : String) : Readability :=
  if source.toList.contains '\x00' then .nullCharacter
  else if (Python.Module.parse? source).isSome then .readable
  else .unreadable

/-- Puts a literal in parentheses if it has a sign, or if an attribute of it is taken. -/
def guardLiteral (lines : List (List Char)) (e : Source.Edit) : Source.Edit :=
  if e.text = "" ∨ Text.isIdentifier e.text then e
  else
    let following := match e.stop with
      | some stop =>
        if 1 ≤ e.line then
          let content := (Source.atLine? lines e.line.toNat).getD []
          (content.drop (Source.Edit.place content.length stop)).dropWhile Text.isBlank
        else []
      | none => []
    if e.text.startsWith "+" || e.text.startsWith "-" || following.head? = some '.' then
      { e with text := "(" ++ e.text ++ ")" }
    else e

/-- Applies edits and deletes comments. None if the result cannot even be looked at. -/
def render (source : String) (f : FileEdits) (comments : List Comment) : Option Rendered :=
  let lines := (Source.lines source).map (·.content)
  let (fixes, commentLines) := Python.commentEdits source comments
  let code := Source.applyEdits source (f.edits.map (guardLiteral lines) ++ fixes)
    (f.deletedLines ++ commentLines)
  match readability code with
  | .nullCharacter => none
  | r => some ⟨code, r = .readable, f.renamed, f.inlined, comments.length⟩

/-- What is said of a file whose rendered code is no program. -/
def invalidRendering (file : Option Path) : String :=
  let name := (file.map (·.text)).getD "None"
  s!"Rendered code for {name} is invalid"

end Pseudonym
