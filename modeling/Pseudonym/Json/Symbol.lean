import Pseudonym.Json.Basic
import Pseudonym.Python.Comment
import Pseudonym.Source.Edit
import Pseudonym.Symbol.Basic
import Pseudonym.Symbol.Marker

/-!
# Programs as data values

Symbols, scopes, comments and edits, as they are handed to other programs.
-/

namespace Pseudonym

open Files

/-- A text or null. -/
def Json.ofText (s : Option String) : Json := .ofOption .string s

/-- The text of a path. -/
def Json.ofPath (p : Path) : Json := .string p.text

/-- A span: file, line, and its two columns. -/
def Span.toJson (s : Span) : Json :=
  .array [.ofPath s.file, .nat s.line, .nat s.column, .nat s.endColumn]

/-- A reference: its span, its scope, and whether it binds. -/
def Reference.toJson (r : Reference) : Json :=
  .array [.ofPath r.span.file, .nat r.span.line, .nat r.span.column, .nat r.span.endColumn,
    .ofText r.scope, .bool r.binds]

namespace Symbol

/-- All flags of a symbol by name. -/
def flags (s : Symbol) : List (String × Bool) :=
  [("override", s.isOverride), ("constructor", s.isConstructor),
   ("compiler_synthesized", s.isSynthesized), ("type_parameter", s.isTypeParameter),
   ("physical", s.isPhysical), ("canonical", s.isCanonical), ("constant", s.isConstant),
   ("local", s.isLocal), ("field", s.isField), ("default_method", s.isDefaultMethod),
   ("dynamic", s.isDynamic)]

/-- The names of the flags that are set. -/
def flagNames (s : Symbol) : List String :=
  (s.flags.filter (·.2)).map (·.1)

/-- Sets a flag by its name. -/
def setFlag (s : Symbol) (flag : String) (v : Bool) : Symbol :=
  match flag with
  | "override" => { s with isOverride := v }
  | "constructor" => { s with isConstructor := v }
  | "compiler_synthesized" => { s with isSynthesized := v }
  | "type_parameter" => { s with isTypeParameter := v }
  | "physical" => { s with isPhysical := v }
  | "canonical" => { s with isCanonical := v }
  | "constant" => { s with isConstant := v }
  | "local" => { s with isLocal := v }
  | "field" => { s with isField := v }
  | "default_method" => { s with isDefaultMethod := v }
  | "dynamic" => { s with isDynamic := v }
  | _ => s

/-- A symbol with all that is known about it. -/
def toJson (s : Symbol) : Json := .object
  [("id", .string s.id), ("name", .string s.name), ("original", .string s.declaredName),
   ("kind", .string s.kind.word), ("visibility", .string s.visibility.word),
   ("qualname", .string s.qualname), ("scope", .ofText s.scope),
   ("file", .ofOption .ofPath s.file), ("declaration", .ofOption Span.toJson s.declaration),
   ("references", .array (s.references.map Reference.toJson)),
   ("markers", .array (s.markers.map .ofText)), ("parameters", .ofTexts s.parameters),
   ("param_types", .ofTexts s.parameterTypes), ("flags", .ofTexts s.flagNames),
   ("literal", .ofText s.literal),
   ("statement_lines", .ofOption (fun (a, b) => .array [.int a, .int b]) s.statementLines)]

end Symbol

/-- A scope with the names it leaves open and the symbols it imports. -/
def Scope.toJson (s : Scope) : Json := .object
  [("id", .string s.id), ("kind", .string s.kind.word), ("parent", .ofText s.parent),
   ("owner", .ofText s.owner), ("file", .ofOption .ofPath s.file),
   ("unresolved", .ofTexts (MarkerSet.sortTexts s.unresolved)),
   ("imported", .ofTexts s.imported)]

/-- A comment with its place. -/
def Comment.toJson (c : Comment) : Json := .object
  [("file", .ofOption .ofPath c.file), ("line", .nat c.line), ("column", .nat c.column),
   ("text", .string c.text), ("documentation", .bool c.isDocumentation),
   ("own_line", .bool c.ownLine)]

/-- An edit: line, columns and text; an edit to the end of its line has no second column. -/
def Source.Edit.toJson (e : Source.Edit) : Json :=
  .array [.int e.line, .int e.start, .ofOption .int e.stop, .string e.text]

end Pseudonym
