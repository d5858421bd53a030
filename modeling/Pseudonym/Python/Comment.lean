import Pseudonym.Files.Path
import Pseudonym.Python.Lexeme
import Pseudonym.Source.Edit

/-!
# Comments of a program

Comments are found by a scan of the text, so that a mark inside a string is no comment. The line that
names an interpreter and the one that declares an encoding say something to other programs and stay.
A comment alone on its line goes with the line, another one goes with the blanks before it.
-/

namespace Pseudonym

/-- A comment. Lines count from one, columns from zero, in characters. -/
structure Comment where
  file : Option Files.Path
  line : Nat
  column : Nat
  /-- The text with its mark. -/
  text : String
  /-- Whether the comment says something to a program and must stay. -/
  isDocumentation : Bool := false
  /-- Whether only blanks stand before it. -/
  ownLine : Bool := false
deriving DecidableEq, Repr, Inhabited

namespace Python

open Files Text

/-- A character of the name of an encoding. -/
def isEncodingChar (c : Char) : Bool := c = '-' || c = '.' || isWordChar c

/-- Whether the name of an encoding stands behind the word `coding` at the front of a list. -/
def declaresEncodingAt (cs : List Char) : Bool :=
  match cs.drop 6 with
  | mark :: rest =>
    "coding".toList.isPrefixOf cs && (mark = ':' || mark = '=') &&
      match rest.dropWhile fun c => c = ' ' || c = '\t' with
      | c :: _ => isEncodingChar c
      | [] => false
  | [] => false

/-- Whether an encoding is declared somewhere in a list. -/
def declaresEncodingIn : List Char → Bool
  | [] => false
  | c :: rest => declaresEncodingAt (c :: rest) || declaresEncodingIn rest

/-- Whether a comment declares an encoding. -/
def declaresEncoding (text : String) : Bool :=
  match text.toList with
  | '#' :: rest => declaresEncodingIn rest
  | _ => false

/-- Whether a comment says something to other programs. -/
def isDocumentation (text : String) (line : Nat) (ownLine : Bool) : Bool :=
  (line = 1 && text.startsWith "#!") || (ownLine && line ≤ 2 && declaresEncoding text)

/-- The comments of a text in order. -/
def findComments (source : String) (file : Option Path) : Except ScanError (List Comment) := do
  let ls := (Source.lines source).map (·.content)
  let found ← lexemes source
  return (found.filter (·.kind = .comment)).map fun l =>
    let before := ((Source.atLine? ls l.line).getD []).take l.column
    let ownLine := before.all isBlank
    { file, line := l.line, column := l.column, text := l.text
      isDocumentation := isDocumentation l.text l.line ownLine, ownLine }

/-- The column at which the blanks before a column start. -/
def gapStart (content : List Char) (column : Nat) : Nat :=
  column - ((content.take column).reverse.takeWhile fun c => c = ' ' || c = '\t').length

/-- The edits and the deleted lines that remove comments. -/
def commentEdits (source : String) (comments : List Comment) :
    List Source.Edit × List Int :=
  let ls := (Source.lines source).map (·.content)
  ((comments.filter (!·.ownLine)).map fun c =>
      ⟨c.line, gapStart ((Source.atLine? ls c.line).getD []) c.column, none, ""⟩,
    (comments.filter (·.ownLine)).map fun c => (c.line : Int))

/-- A text without some of its comments. -/
def removeComments (source : String) (comments : List Comment) : String :=
  let (edits, deleted) := commentEdits source comments
  Source.applyEdits source edits deleted

/-- A text without its comments, those that say something to other programs apart. -/
def stripComments (source : String) : Except ScanError String := do
  let removable := (← findComments source none).filter (!·.isDocumentation)
  return if removable.isEmpty then source else removeComments source removable

end Python

end Pseudonym
