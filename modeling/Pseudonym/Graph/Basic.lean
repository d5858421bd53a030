import Pseudonym.Graph.Reach
import Pseudonym.Symbol.Basic

/-!
# The symbol graph

The graph holds symbols and scopes in the order in which they were registered, and the relations
between symbols as lists of edges. A symbol is found by its id, the members of a scope are the
symbols declared in it, and the symbols of one name are listed in the order in which they got it.
-/

namespace Pseudonym

open Files

/-- Symbols, scopes and their relations. -/
structure Graph where
  symbols : List Symbol := []
  scopes : List Scope := []
  /-- All symbols, those that got their current name last at the end. -/
  naming : List SymbolId := []
  /-- Pairs of a type and a direct supertype. -/
  supertypeEdges : List (SymbolId × SymbolId) := []
  /-- Pairs of a member and a member it overrides directly. -/
  overrideEdges : List (SymbolId × SymbolId) := []
  /-- Answers to earlier questions for root declarations. -/
  rootCache : List (SymbolId × List SymbolId) := []
deriving Repr, Inhabited

/-- Why a registration is refused. -/
inductive GraphError where
  | duplicateScope (id : ScopeId)
  | duplicateSymbol (id : SymbolId)
deriving DecidableEq, Repr

/-- The text of a refusal. -/
def GraphError.message : GraphError → String
  | .duplicateScope id => s!"Duplicate scope id: {id}"
  | .duplicateSymbol id => s!"Duplicate symbol id: {id}"

namespace Graph

/-! ## Look-up by id -/

/-- The symbol of an id. -/
def symbol? (g : Graph) (id : SymbolId) : Option Symbol := g.symbols.find? (·.id = id)

/-- The scope of an id. -/
def scope? (g : Graph) (id : ScopeId) : Option Scope := g.scopes.find? (·.id = id)

/-- Whether an id is registered. -/
def contains (g : Graph) (id : SymbolId) : Bool := g.symbols.any (·.id = id)

/-- The ids of all symbols. -/
def symbolIds (g : Graph) : List SymbolId := g.symbols.map (·.id)

/-- The ids of all scopes. -/
def scopeIds (g : Graph) : List ScopeId := g.scopes.map (·.id)

/-- The symbols of several ids. -/
def symbolsOf (g : Graph) (ids : List SymbolId) : List Symbol := ids.filterMap g.symbol?

/-- The current name of a symbol. -/
def nameOf (g : Graph) (id : SymbolId) : String := ((g.symbol? id).map (·.name)).getD ""

/-! ## Registration -/

/-- Registers a scope. -/
def addScope (g : Graph) (scope : Scope) : Except GraphError Graph :=
  if (g.scope? scope.id).isSome then .error (.duplicateScope scope.id)
  else .ok { g with scopes := g.scopes ++ [scope] }

/-- Registers a symbol. -/
def addSymbol (g : Graph) (s : Symbol) : Except GraphError Graph :=
  if g.contains s.id then .error (.duplicateSymbol s.id)
  else .ok { g with symbols := g.symbols ++ [s], naming := g.naming ++ [s.id] }

/-- Changes the symbol of an id. -/
def updateSymbol (g : Graph) (id : SymbolId) (f : Symbol → Symbol) : Graph :=
  { g with symbols := g.symbols.map fun s => if s.id = id then f s else s }

/-- Changes the scope of an id. -/
def updateScope (g : Graph) (id : ScopeId) (f : Scope → Scope) : Graph :=
  { g with scopes := g.scopes.map fun s => if s.id = id then f s else s }

/-- Gives a symbol a name; it moves to the end of the naming order unless it has that name. -/
def rename (g : Graph) (id : SymbolId) (name : String) : Graph :=
  if g.nameOf id = name then g
  else
    { g.updateSymbol id fun s => { s with name := name } with
      naming := g.naming.erase id ++ [id] }

/-- Forgets answers about root declarations. -/
def forgetRoots (g : Graph) : Graph := { g with rootCache := [] }

/-- Relates a type to a supertype. -/
def addSupertype (g : Graph) (type supertype : SymbolId) : Graph :=
  if (type, supertype) ∈ g.supertypeEdges then g
  else { g with supertypeEdges := g.supertypeEdges ++ [(type, supertype)] }.forgetRoots

/-- Relates a member to a member it overrides; no member overrides itself. -/
def addOverride (g : Graph) (member overridden : SymbolId) : Graph :=
  if member = overridden ∨ (member, overridden) ∈ g.overrideEdges then g
  else
    ({ g with overrideEdges := g.overrideEdges ++ [(member, overridden)] }.updateSymbol member
      fun s => { s with isOverride := true }).forgetRoots

/-- Records a use of a symbol. -/
def addReference (g : Graph) (id : SymbolId) (r : Reference) : Graph :=
  g.updateSymbol id (·.addReference r)

/-- Marks the symbols declared under one of some names as reachable by name at run time; tells how
many were new. Local symbols are spared unless asked for. -/
def markDynamic (g : Graph) (names : List String) (localsToo : Bool) : Nat × Graph :=
  let hit (s : Symbol) : Bool :=
    names.contains s.declaredName && (!s.isLocal || localsToo) && !s.isDynamic
  (g.symbols.countP hit,
    { g with symbols := g.symbols.map fun s => if hit s then { s with isDynamic := true } else s })

/-! ## Names and scopes -/

/-- The symbols whose current name is `name`, in the order in which they got it. -/
def symbolsNamed (g : Graph) (name : String) : List Symbol :=
  (g.symbolsOf g.naming).filter (·.name = name)

/-- The symbols of a file. -/
def symbolsInFile (g : Graph) (file : Path) : List Symbol :=
  g.symbols.filter (·.file = some file)

/-- The symbols declared in a scope. -/
def membersOfScope (g : Graph) (id : ScopeId) : List Symbol :=
  g.symbols.filter (·.scope = some id)

/-- The symbols that a scope imports. -/
def importedSymbols (g : Graph) (id : ScopeId) : List Symbol :=
  match g.scope? id with
  | some scope => g.symbolsOf scope.imported
  | none => []

/-- The symbols bound in a scope, declared ones first. -/
def boundSymbols (g : Graph) (id : ScopeId) : List Symbol :=
  g.membersOfScope id ++ g.importedSymbols id

/-- The symbol that a name is bound to in a scope. -/
def lookup (g : Graph) (id : ScopeId) (name : String) : Option Symbol :=
  (g.boundSymbols id).find? (·.name = name)

/-- The scopes directly inside a scope. -/
def childScopes (g : Graph) (id : ScopeId) : List Scope :=
  g.scopes.filter (·.parent = some id)

/-- A scope and all scopes inside it, from the outside inwards. -/
def descendantScopes (g : Graph) (id : ScopeId) : List Scope :=
  (reach (fun s => (g.childScopes s).map (·.id)) g.scopeIds [id]).filterMap g.scope?

/-- The id of the scope around a scope. -/
def parentIds (g : Graph) (id : ScopeId) : List ScopeId :=
  ((g.scope? id).bind (·.parent)).toList

/-- The scopes around a scope, from the inside outwards. -/
def ancestors (g : Graph) (id : ScopeId) : List Scope :=
  (reach g.parentIds g.scopeIds (g.parentIds id)).filterMap g.scope?

/-- The outermost scope of the run of function scopes that starts at a function scope. -/
def rootFunctionScope (g : Graph) (id : ScopeId) : Option Scope :=
  (((g.scope? id).toList ++ g.ancestors id).takeWhile (·.kind = .function)).getLast?

/-- The body of a class or function; the scope registered last wins. -/
def ownedScope (g : Graph) (id : SymbolId) : Option Scope :=
  (g.scopes.filter (·.owner = some id)).getLast?

/-! ## Members -/

/-- The class or function that declares a symbol. -/
def enclosing (g : Graph) (s : Symbol) : Option Symbol := do
  let scope ← g.scope? (← s.scope)
  g.symbol? (← scope.owner)

/-- The class that declares a symbol. -/
def declaringType (g : Graph) (s : Symbol) : Option Symbol := do
  let scope ← g.scope? (← s.scope)
  if scope.kind = .type then g.symbol? (← scope.owner) else none

/-- The members of a class. -/
def members (g : Graph) (type : SymbolId) : List Symbol :=
  match g.ownedScope type with
  | some scope => g.membersOfScope scope.id
  | none => []

/-- The other symbols declared beside a symbol. -/
def siblings (g : Graph) (s : Symbol) : List Symbol :=
  match s.scope with
  | some scope => (g.membersOfScope scope).filter (·.id ≠ s.id)
  | none => []

/-- The methods of a class under one name. -/
def methodsByName (g : Graph) (type : SymbolId) (name : String) : List Symbol :=
  (g.members type).filter fun m => m.kind = .method ∧ m.name = name

end Graph

end Pseudonym
