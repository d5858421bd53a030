import Pseudonym.Python.Grammar.Statement
import Pseudonym.Source.Line
import Pseudonym.Source.Search
import Pseudonym.Symbol.Basic

/-!
# Modules of a program

A module is a source text with its tree. Trees give places in bytes; the spans of a module count
characters.
-/

namespace Pseudonym

open Files Python

/-- A module that has been read. -/
structure SourceModule where
  /-- The dotted name, which is also the id of its scope. -/
  name : String
  path : Path
  source : String
  tree : Tree
  /-- Whether its text may be changed. -/
  editable : Bool := true
deriving Repr, Inhabited

namespace SourceModule

/-- The lines of the text without their endings. -/
def lines (m : SourceModule) : List (List Char) := (Source.lines m.source).map (·.content)

/-- Whether the module is a package: relative imports start from it and not from what is around
it. -/
def isPackage (m : SourceModule) : Bool := (Path.splitSuffix m.path.name).1 = "__init__"

/-- A line by its number, which counts from one. -/
def line? (m : SourceModule) (line : Int) : Option (List Char) :=
  if 1 ≤ line then m.lines[line.toNat - 1]? else none

/-- The character column of a byte column; what it is on a line that does not exist does not
matter. -/
def charColumn (m : SourceModule) (line bytes : Int) : Int :=
  match m.line? line with
  | some cs => Source.charColumn cs bytes
  | none => bytes

/-- The span between two byte columns of a line. -/
def span? (m : SourceModule) (line start stop : Int) : Option Span :=
  match m.line? line with
  | some cs =>
    if start < 0 ∨ stop < start then none
    else some ⟨m.path, line.toNat, Source.charColumn cs start, Source.charColumn cs stop⟩
  | none => none

/-- The text of a span. -/
def text? (m : SourceModule) (s : Span) : Option String :=
  (m.line? s.line).map fun cs => String.ofList ((cs.take s.endColumn).drop s.column)

/-- The count of bytes that a name takes. -/
def nameBytes (name : String) : Int := Source.byteLength name.toList

/-- The span of a whole node. -/
def nodeSpan? (m : SourceModule) (t : Tree) : Option Span :=
  m.span? t.range.start.line t.range.start.column t.range.stop.column

/-- The span of a name that a node starts with. -/
def headSpan? (m : SourceModule) (t : Tree) (name : String) : Option Span :=
  m.span? t.range.start.line t.range.start.column (t.range.start.column + nameBytes name)

/-- The span of a name that a node ends with. -/
def tailSpan? (m : SourceModule) (t : Tree) (name : String) : Option Span :=
  m.span? t.range.stop.line (t.range.stop.column - nameBytes name) t.range.stop.column

/-- The span of a name that stands behind its lead, from a byte column of a line on, and up to a last
line. -/
def searchSpan? (m : SourceModule) (lead : Source.Lead) (name : String)
    (line bytes lastLine : Nat) : Option Span :=
  (List.range' line (lastLine + 1 - line)).findSome? fun (number : Nat) =>
    (m.line? number).bind fun cs =>
      let start := if number = line then Source.charColumn cs bytes else 0
      (Source.nameColumn? lead name cs start).map fun column =>
        ⟨m.path, number, column, column + name.length⟩

/-- The text between two places of the source, which may lie on different lines. -/
def segment? (m : SourceModule) (r : Range) : Option String := do
  let ls := Source.lines m.source
  let first ← Source.atLine? ls r.start.line
  let last ← Source.atLine? ls r.stop.line
  let left := Source.charColumn first.chars r.start.column
  let right := Source.charColumn last.chars r.stop.column
  if r.start.line = r.stop.line then
    some (String.ofList ((first.chars.take right).drop left))
  else
    let between := (ls.take (r.stop.line - 1)).drop r.start.line
    some (String.ofList
      (first.chars.drop left ++ between.flatMap (·.chars) ++ last.chars.take right))

end SourceModule

end Pseudonym
