import Pseudonym.Files.Disk
import Pseudonym.Settings.Basic

/-!
# The layout of a project

A source file is a module whose dotted name follows from its place below the root of the project. A
folder with an initial file is a package: the file itself has the name of the folder. An operation
scope selects some of the files, measured from a target.
-/

namespace Pseudonym.Project

open Files

/-- The file that makes a folder a package. -/
def initialFile : String := "__init__.py"

/-- The components of a module name: the last one without its suffix, and none for the file of a
package. -/
def moduleParts (names : List String) : List String :=
  if names.getLast? = some "__init__" then names.dropLast else names

/-- The dotted name of a source file below a root; none for a file elsewhere, and none for the root
itself. -/
def moduleName? (p root : Path) : Option String := do
  let relative ← p.relativeTo? root
  let bare ← relative.withoutSuffix?
  return ".".intercalate (moduleParts bare.parts)

/-- The dotted name of a source file of a project; a root that is a package keeps its own name. -/
def projectModuleName? (d : Disk) (p root : Path) : Option String :=
  (moduleName? p root).map fun name =>
    if d.contains (root.child initialFile) then
      if name = "" then root.name else root.name ++ "." ++ name
    else if name = "" then root.name
    else name

/-- The files that an operation scope selects. -/
def filesInScope (d : Disk) (files : List Path) (scope : OperationScope) (target : Path) :
    List Path :=
  let folder := if d.isFile target then target.parent else target
  match scope with
  | .program => files
  | .file => files.filter (· = target)
  | .directory => files.filter (·.parent = folder)
  | .module => files.filter (·.isInside folder)

end Pseudonym.Project
