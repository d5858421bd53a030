import Pseudonym.Text.Quoted

/-!
# The catalogue of source tools

The tools for source texts are offered under one roof; each name is looked up when it is asked for
and leads to the component that defines it.
-/

namespace Pseudonym.Interface

/-- The roof under which the tools are offered. -/
def toolsRoof : String := "shuffler.processors"

/-- Every tool with the component that defines it. -/
def tools : List (String × String) :=
  [("PythonProcessor", "python_processor"), ("ParseResult", "python_processor"),
   ("GenerateResult", "python_processor"), ("FileEdits", "python_processor"),
   ("PythonSymbolExtractor", "symbol_extractor"), ("ModuleSource", "symbol_extractor"),
   ("find_comments", "comment_stripper"), ("strip_comments", "comment_stripper"),
   ("TextEdit", "source_edits"), ("apply_edits", "source_edits")]

/-- The names of all tools. -/
def toolNames : List String := tools.map (·.1)

/-- The full name of the component that defines a tool. -/
def componentOf? (name : String) : Option String :=
  (tools.find? (·.1 = name)).map fun t => toolsRoof ++ "." ++ t.2

/-- What is said of a name that is no tool. -/
def noToolMessage (name : String) : String :=
  "module " ++ Text.quoted toolsRoof ++ " has no attribute " ++ Text.quoted name

end Pseudonym.Interface
