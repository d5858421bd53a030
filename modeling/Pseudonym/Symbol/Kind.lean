/-!
# Kinds and visibility of declared names
-/

namespace Pseudonym

/-- What a declared name stands for. -/
inductive SymbolKind where
  | variable
  | type
  | method
deriving DecidableEq, Repr, Inhabited

namespace SymbolKind

/-- All kinds. -/
def all : List SymbolKind := [.variable, .type, .method]

/-- The word for a kind. -/
def word : SymbolKind → String
  | .variable => "variable"
  | .type => "type"
  | .method => "method"

/-- The kind that a word names. -/
def ofWord? (s : String) : Option SymbolKind := all.find? (·.word = s)

end SymbolKind

/-- How far a declared name can be seen, from the most to the least restricted tier. -/
inductive Visibility where
  | priv
  | prot
  | pack
  | pub
deriving DecidableEq, Repr, Inhabited

namespace Visibility

/-- All tiers. -/
def all : List Visibility := [.priv, .prot, .pack, .pub]

/-- The word for a tier. -/
def word : Visibility → String
  | .priv => "private"
  | .prot => "protected"
  | .pack => "package_default"
  | .pub => "public"

/-- The tier that a word names. -/
def ofWord? (s : String) : Option Visibility := all.find? (·.word = s)

end Visibility

end Pseudonym
