import Pseudonym.Extraction.Library
import Pseudonym.Extraction.Module
import Pseudonym.Graph.Hierarchy
import Pseudonym.Name.Words
import Pseudonym.Python.Walk

/-!
# The state of an extraction

Modules are added one by one; then they are resolved together. What later steps need to know about
earlier ones is kept here: which symbol a name is bound to in a scope, which classes and functions
were met, what imports are still to be linked, and which names a program can look up at run time.
-/

namespace Pseudonym

open Files Python

/-- A scope with the trees evaluated in it. -/
structure Region where
  scope : ScopeId
  module : SourceModule
  roots : List Tree
  /-- Whether a formatted string stands around the scope. -/
  inText : Bool := false

/-- A class that was met. -/
structure ClassFact where
  symbol : SymbolId
  node : Tree
  module : SourceModule
  outerScope : ScopeId
  bodyScope : ScopeId

/-- A function that was met. -/
structure FunctionFact where
  symbol : SymbolId
  node : Tree
  module : SourceModule
  outerScope : ScopeId
  bodyScope : ScopeId
  /-- The class whose method it is. -/
  owner : Option SymbolId := none
  /-- The parameter that stands for the object. -/
  receiver : Option SymbolId := none

/-- An import that is still to be linked. -/
structure PendingImport where
  module : SourceModule
  scope : ScopeId
  statement : Tree
  importedName : Tree

/-- A call of a function that names the scope it stands in. -/
structure DynamicCall where
  scope : ScopeId
  function : String

/-- The state of an extraction. -/
structure Extraction where
  graph : Graph := {}
  /-- What is seen of objects outside the program. -/
  introspection : Library.Introspection := Library.listed
  modules : List SourceModule := []
  /-- The next number for an id that would not be unique. -/
  counter : Nat := 1
  /-- What each name is bound to in each scope, the latest first. -/
  index : List ((ScopeId × String) × SymbolId) := []
  /-- What stands before the names of a scope in qualified names. -/
  qualifiers : List (ScopeId × String) := []
  comprehensions : List ScopeId := []
  regions : List Region := []
  pendingImports : List PendingImport := []
  classes : List ClassFact := []
  functions : List FunctionFact := []
  /-- Symbols that stand for modules, and the modules. -/
  moduleAliases : List (SymbolId × String) := []
  /-- Symbols that stand for names outside the program, and the qualified names. -/
  externalNames : List (SymbolId × String) := []
  /-- Symbols that stand for other symbols. -/
  aliasTargets : List (SymbolId × SymbolId) := []
  /-- Parameters that stand for the object of a class, and the class. -/
  receivers : List (SymbolId × SymbolId) := []
  /-- Parameters other than receivers, by name. -/
  parameters : List (String × SymbolId) := []
  /-- Classes and their bases outside the program; `none` is one that could not be resolved. -/
  externalBases : List (SymbolId × Option String) := []
  /-- One entry for every time a symbol was bound. -/
  bindings : List SymbolId := []
  /-- Names bound to the result of a call: the scope, the name, the call. -/
  callAssignments : List (ScopeId × String × Tree) := []
  /-- Statements of a module that bind one name: the module, the name, the statement. -/
  constantCandidates : List (SourceModule × String × Tree) := []
  nonInlinable : List SymbolId := []
  dynamicNames : List String := []
  dynamicParameters : List String := []
  dynamicCalls : List DynamicCall := []
  starImports : List String := []
  resolved : Bool := false

/-- Why a module is refused. -/
inductive ExtractionError where
  | alreadyResolved
  | duplicateModule (name : String)
  | nullCharacter
  | unreadable
  | graph (cause : GraphError)
deriving DecidableEq, Repr

/-- The text of a refusal. -/
def ExtractionError.message : ExtractionError → String
  | .alreadyResolved => "Cannot add modules after resolve()"
  | .duplicateModule name => s!"Duplicate module name: {name}"
  | .nullCharacter => "source code string cannot contain null bytes"
  | .unreadable => "invalid syntax"
  | .graph cause => cause.message

/-- The value of the first pair with a key. -/
def valueOf? [DecidableEq α] (pairs : List (α × β)) (key : α) : Option β :=
  (pairs.find? (·.1 = key)).map (·.2)

/-- Adds a pair unless its key has a value. -/
def addDefault [DecidableEq α] (pairs : List (α × β)) (key : α) (value : β) : List (α × β) :=
  if (valueOf? pairs key).isSome then pairs else pairs ++ [(key, value)]

namespace Extraction

/-! ## Modules -/

/-- The module of a name. -/
def module? (x : Extraction) (name : String) : Option SourceModule :=
  x.modules.find? (·.name = name)

/-- The module of a file; of several, the one added last. -/
def moduleFor? (x : Extraction) (path : Path) : Option SourceModule :=
  (x.modules.filter (·.path = path)).getLast?

/-- The dotted names that start another dotted name. -/
def packagesAbove (name : String) : List String :=
  let parts := name.splitOn "."
  (List.range (parts.length - 1)).map fun n => ".".intercalate (parts.take (n + 1))

/-- Whether a dotted name is a module of the program or holds one. -/
def isProjectModule (x : Extraction) (name : String) : Bool :=
  x.modules.any fun m => m.name = name || (packagesAbove m.name).contains name

/-! ## Symbols of scopes -/

/-- The symbol that a name is bound to in a scope by a statement there. -/
def declared? (x : Extraction) (scope : ScopeId) (name : String) : Option SymbolId :=
  valueOf? x.index (scope, name)

/-- Changes a symbol. -/
def updateSymbol (x : Extraction) (id : SymbolId) (f : Symbol → Symbol) : Extraction :=
  { x with graph := x.graph.updateSymbol id f }

/-- Marks a symbol as one that can be looked up at run time. -/
def markDynamic (x : Extraction) (id : SymbolId) : Extraction :=
  x.updateSymbol id fun s => { s with isDynamic := true }

/-- Marks several symbols. -/
def markAllDynamic (x : Extraction) (ids : List SymbolId) : Extraction :=
  ids.foldl markDynamic x

/-- Notes that a symbol cannot be replaced by its value. -/
def keepNamed (x : Extraction) (id : SymbolId) : Extraction :=
  { x with nonInlinable := id :: x.nonInlinable }

/-- Whether a symbol belongs to a module whose text may be changed. -/
def isProjectSymbol (x : Extraction) (id : SymbolId) : Bool :=
  match (x.graph.symbol? id).bind (·.file) with
  | some file => ((x.moduleFor? file).map (·.editable)).getD false
  | none => false

/-- Records a use of a symbol. A use in a module that must stay as it is pins the symbol, and a use
without a place makes it one that cannot be renamed. -/
def addReference (x : Extraction) (m : SourceModule) (id : SymbolId) (span : Option Span)
    (scope : Option ScopeId) (binds : Bool) : Extraction :=
  if !m.editable then if x.isProjectSymbol id then x.markDynamic id else x
  else match span with
    | none => x.updateSymbol id fun s => { s with isPhysical := false }
    | some span => { x with graph := x.graph.addReference id ⟨span, scope, binds⟩ }

/-- The tier of a symbol by its scope and its name. -/
def visibilityIn (kind : ScopeKind) (name : String) : Visibility :=
  match kind with
  | .function => .priv
  | .type => .ofMember name
  | _ => if name.startsWith "_" && !Name.isDunder name then .pack else .pub

/-- The symbol for a name that is declared in a scope. -/
def makeSymbol (x : Extraction) (m : SourceModule) (scope : ScopeId) (name : String)
    (kind : SymbolKind) (span : Option Span) (canonical : Bool) (id : SymbolId) : Symbol :=
  let scopeKind := ((x.graph.scope? scope).map (·.kind)).getD .module
  let isLocal : Bool := scopeKind = .function
  let qualifier := (valueOf? x.qualifiers scope).getD ""
  { id
    name
    kind
    visibility := visibilityIn scopeKind name
    qualname := qualifier ++ "." ++ name
    scope := some scope
    file := some m.path
    declaration := span
    isConstructor := kind = .method && scopeKind = .type && (name = "__init__" || name = "__new__")
    isSynthesized := Name.isDunder name
    isPhysical := m.editable && span.isSome
    isCanonical := canonical
    isConstant := kind = .variable && !isLocal && Name.isConstantSpelling name
    isLocal
    isField := kind = .variable && scopeKind = .type }

/-- Declares a new symbol in a scope. -/
def newSymbol (x : Extraction) (m : SourceModule) (scope : ScopeId) (name : String)
    (kind : SymbolKind) (span : Option Span) (canonical : Bool) : SymbolId × Extraction :=
  let plain := s!"{scope}::{name}"
  let taken := x.graph.contains plain
  let id := if taken then s!"{plain}#{x.counter}" else plain
  let counter := if taken then x.counter + 1 else x.counter
  let s := x.makeSymbol m scope name kind span canonical id
  let graph := match x.graph.addSymbol s with
    | .ok g => g
    | .error _ => x.graph
  (id, { x with graph, counter, index := ((scope, name), id) :: x.index })

/-- Declares a name in a scope, or records that it is bound again. `occurrence` is the scope in which
that happens. -/
def bind (x : Extraction) (m : SourceModule) (scope : ScopeId) (name : String) (kind : SymbolKind)
    (span : Option Span) (occurrence : ScopeId) : SymbolId × Extraction :=
  match x.declared? scope name with
  | some id =>
    let x := { x with bindings := id :: x.bindings }
    let declaration := (x.graph.symbol? id).bind (·.declaration)
    (id, if span = declaration then x else x.addReference m id span (some occurrence) false)
  | none =>
    let (id, x) := x.newSymbol m scope name kind span true
    (id, { x with bindings := id :: x.bindings })

/-! ## Scopes around scopes -/

/-- The scope to which an assignment inside an expression belongs: comprehensions are passed over. -/
def walrusScope (x : Extraction) (scope : ScopeId) : ScopeId :=
  let chain := scope :: (x.graph.ancestors scope).map (·.id)
  (chain.find? fun s => !x.comprehensions.contains s).getD scope

/-- The function scope around a scope that declares a name. -/
def nonlocalScope? (x : Extraction) (scope : ScopeId) (name : String) : Option ScopeId :=
  ((x.graph.ancestors scope).find? fun s =>
    s.kind = .function && (x.declared? s.id name).isSome).map (·.id)

/-- An id for a scope that no other scope has. -/
def uniqueScope (x : Extraction) (id : ScopeId) : ScopeId × Extraction :=
  if (x.graph.scope? id).isNone then (id, x)
  else (s!"{id}#{x.counter}", { x with counter := x.counter + 1 })

end Extraction

end Pseudonym
