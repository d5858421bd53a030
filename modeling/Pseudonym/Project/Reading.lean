import Pseudonym.Files.Disk
import Pseudonym.Number.Fixed
import Pseudonym.Python.Comment
import Pseudonym.Python.Grammar.Statement

/-!
# Reading source files

A source file is read as text and then as a program. Each step may fail, and the failure names the
file.
-/

namespace Pseudonym.Project

open Files Python

/-- The size in megabytes up to which a file is read. -/
def maxMegabytes : Nat := 10

/-- The bytes of a megabyte. -/
def megabyte : Nat := 1024 * 1024

/-- Why a source file is not read. -/
inductive ReadError where
  | missing
  | denied
  | tooLarge (size : Nat)
  | unread (error : FileError)
  | notText
  | notProgram
  | nullCharacter
deriving DecidableEq, Repr

/-- The text of a failure. -/
def ReadError.message (p : Path) : ReadError → String
  | .missing => "File not found: " ++ p.text
  | .denied => "File is not readable: " ++ p.text
  | .tooLarge size =>
    "File exceeds maximum size of " ++ toString maxMegabytes ++ "MB: " ++ p.text ++ " (" ++
      Number.fixed 2 (size.toFloat / megabyte.toFloat) ++ "MB)"
  | .unread e => "Failed to read file " ++ p.text ++ ": " ++ e.message
  | .notText => "Encoding error reading file " ++ p.text
  | .notProgram => "Syntax error in " ++ p.text
  | .nullCharacter => "Value error parsing " ++ p.text

/-- What reading a file gave: its text as far as there is one, and its tree or a failure. -/
structure Reading where
  path : Path
  source : String := ""
  tree : Except ReadError Tree

/-- The text of a file. -/
def readText (d : Disk) (p : Path) : Except ReadError String :=
  if !d.contains p then .error .missing
  else if !d.grants p .read then .error .denied
  else match d.read p with
    | .error e => .error (.unread e)
    | .ok bytes =>
      if maxMegabytes * megabyte < bytes.size then .error (.tooLarge bytes.size)
      else match String.fromUTF8? bytes with
        | none => .error .notText
        | some source => .ok source

/-- Reads a file. -/
def readSource (d : Disk) (p : Path) : Reading :=
  match readText d p with
  | .error e => { path := p, tree := .error e }
  | .ok source =>
    { path := p, source
      tree := if source.toList.contains '\x00' then .error .nullCharacter
        else match Module.parse? source with
          | some tree => .ok tree
          | none => .error .notProgram }

/-- The comments of a file; none if it cannot be scanned. -/
def Reading.comments (r : Reading) : List Comment :=
  (findComments r.source (some r.path)).toOption.getD []

/-- The count of statements of a file that was read. -/
def Reading.statements? (r : Reading) : Option Nat :=
  r.tree.toOption.map fun tree => (tree.all .body).length

end Pseudonym.Project
