import Pseudonym.Files.Path
import Pseudonym.Text.Case

/-!
# What a platform decides

The word for the system that a program runs on, and the paths that its users give. Such a path may
start with a tilde for the home folder, and it is relative to the folder in which the program was
started. All paths inside the program are absolute and clean, so this is where the home folder and the
current folder come in, and nowhere else.
-/

namespace Pseudonym.Files

/-- The word for a system by the name that it gives itself. -/
def platformWord (system : String) : String :=
  if system = "Darwin" then "macos" else Text.lower system

namespace Path

/-- A path with the home folder in the place of a tilde in front. -/
def expandUser (home p : Path) : Path :=
  match p.root, p.parts with
  | "", "~" :: rest => home.append ⟨"", rest⟩
  | _, _ => p

/-- Reads a path that a user gave. A blank text is no path. -/
def ofUser? (here home : Path) (s : String) : Option Path :=
  if Text.isBlankText s then none else some (resolve here (expandUser home (ofText s)))

/-- What is said of a path that is none. -/
def blankMessage : String := "Path cannot be None or empty"

end Path

end Pseudonym.Files
