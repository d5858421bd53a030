import Pseudonym.Text.Case
import Pseudonym.Text.Word

/-!
# Paths

A path is a root and a list of components. Empty components and single dots vanish when a path is
read; double dots stay until the path is resolved. Paths are ordered by their components.
-/

namespace Pseudonym.Files

/-- A path. The root is empty for a relative path. -/
structure Path where
  root : String
  parts : List String
deriving DecidableEq, Repr, Inhabited, Hashable

namespace Path

/-- Reads a path. Two slashes in front are a root of their own, other counts stand for one. -/
def ofText (s : String) : Path where
  root := match (s.toList.takeWhile (· = '/')).length with
    | 0 => ""
    | 2 => "//"
    | _ => "/"
  parts := (s.splitOn "/").filter fun part => part ≠ "" ∧ part ≠ "."

/-- The text of a path; the empty path is a dot. -/
def text (p : Path) : String :=
  if p.root = "" ∧ p.parts = [] then "." else p.root ++ "/".intercalate p.parts

instance : ToString Path := ⟨text⟩

/-- Root and components as one list. -/
def components (p : Path) : List String := if p.root = "" then p.parts else p.root :: p.parts

/-- Component by component: the first difference decides, and a path stands before its extensions. -/
def componentsLe : List String → List String → Bool
  | [], _ => true
  | _ :: _, [] => false
  | a :: as, b :: bs => if a = b then componentsLe as bs else decide (a < b)

/-- The order by components. -/
def le (p q : Path) : Bool := componentsLe p.components q.components

/-- Sorts paths by components. -/
def sort (ps : List Path) : List Path := ps.mergeSort le

/-- Appends a path; an absolute one replaces what stands before it. -/
def append (p q : Path) : Path := if q.root = "" then ⟨p.root, p.parts ++ q.parts⟩ else q

/-- Appends one component. -/
def child (p : Path) (part : String) : Path := ⟨p.root, p.parts ++ [part]⟩

/-- The path without its last component. -/
def parent (p : Path) : Path := ⟨p.root, p.parts.dropLast⟩

/-- All proper ancestors, the nearest first. -/
def parents (p : Path) : List Path :=
  ((List.range p.parts.length).map fun n => ⟨p.root, p.parts.take n⟩).reverse

/-- The last component, empty when there is none. -/
def name (p : Path) : String := p.parts.getLast?.getD ""

/-- A file name cut before its suffix, which starts at the last dot; a dot at either end of the name
starts none. -/
def splitSuffix (name : String) : String × String :=
  let back := name.toList.reverse
  let tail := back.takeWhile (· ≠ '.')
  match back.drop tail.length with
  | [] => (name, "")
  | dot :: stem =>
    if tail.isEmpty ∨ stem.isEmpty then (name, "")
    else (String.ofList stem.reverse, String.ofList (dot :: tail.reverse))

/-- The suffix of the last component, with its dot. -/
def suffix (p : Path) : String := (splitSuffix p.name).2

/-- The path without its suffix; a path without components has no name to cut. -/
def withoutSuffix? (p : Path) : Option Path :=
  if p.name = "" then none
  else some ⟨p.root, p.parts.dropLast ++ [(splitSuffix p.name).1]⟩

/-- The rest of a list after a list that starts it. -/
def dropFront? : (front parts : List String) → Option (List String)
  | [], parts => some parts
  | f :: fs, p :: ps => if f = p then dropFront? fs ps else none
  | _ :: _, [] => none

/-- The path seen from a base above it. -/
def relativeTo? (p base : Path) : Option Path :=
  if p.root = base.root then (dropFront? base.parts p.parts).map fun rest => ⟨"", rest⟩ else none

/-- Whether a path is a base or lies below it. -/
def isWithin (p base : Path) : Bool := (p.relativeTo? base).isSome

/-- Removes double dots together with the components before them. -/
def collapse (parts : List String) : List String :=
  (parts.foldl (fun done part => if part = ".." then done.drop 1 else part :: done) []).reverse

/-- An absolute path without its double dots. -/
def clean (p : Path) : Path := ⟨"/", collapse p.parts⟩

/-- The absolute path without double dots; relative paths start at `here`. -/
def resolve (here p : Path) : Path := (here.append p).clean

/-- Whether an absolute path is a base or lies below it once both are clean. -/
def isInside (p base : Path) : Bool := p.clean.isWithin base.clean

end Path

end Pseudonym.Files
