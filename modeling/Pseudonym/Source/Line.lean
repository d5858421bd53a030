/-!
# Lines and columns of a source text

A line ends at a line feed, at a carriage return, or at a carriage return with a line feed right
after it. Other characters that some tools take for line breaks do not end a line. Within a line,
trees of programs count columns in bytes of the encoded text and edits in characters, so a column has
to be translated from the one to the other.
-/

namespace Pseudonym.Source

/-- A line: what it says and how it ends. -/
structure Line where
  content : List Char
  ending : List Char
deriving DecidableEq, Repr, Inhabited

/-- The characters of a line. -/
def Line.chars (l : Line) : List Char := l.content ++ l.ending

/-- Cuts the rest of a text into lines; `done` is the line in progress, backwards. -/
def linesFrom (done : List Char) : List Char → List Line
  | [] => if done.isEmpty then [] else [⟨done.reverse, []⟩]
  | '\r' :: '\n' :: rest => ⟨done.reverse, ['\r', '\n']⟩ :: linesFrom [] rest
  | c :: rest =>
    if c = '\r' ∨ c = '\n' then ⟨done.reverse, [c]⟩ :: linesFrom [] rest
    else linesFrom (c :: done) rest

/-- The lines of a text. Their characters concatenate to the text. -/
def lines (source : String) : List Line := linesFrom [] source.toList

/-- The lines of a text with their endings. -/
def fullLines (source : String) : List String :=
  (lines source).map fun l => String.ofList l.chars

/-- The lines of a text without their endings. -/
def contents (source : String) : List String :=
  (lines source).map fun l => String.ofList l.content

/-- The item at a one-based place. -/
def atLine? (items : List α) (line : Nat) : Option α :=
  if line = 0 then none else items[line - 1]?

/-! ## Columns -/

/-- How many characters start before a byte. -/
def charsBefore : List Char → (bytes : Nat) → Nat
  | [], _ => 0
  | c :: rest, bytes => if bytes = 0 then 0 else 1 + charsBefore rest (bytes - c.utf8Size)

/-- The count of bytes that characters take. -/
def byteLength (cs : List Char) : Nat := cs.foldr (fun c n => c.utf8Size + n) 0

/-- The character column of a byte column. A negative byte column counts from the end. -/
def charColumn (line : List Char) (bytes : Int) : Nat :=
  charsBefore line (if bytes < 0 then (byteLength line + bytes).toNat else bytes.toNat)

end Pseudonym.Source
