import Pseudonym.Extraction.Basic
import Pseudonym.Python.Printer

/-!
# Scopes and declarations

Adding a module creates its scopes, from the outside inwards, and declares every name that a scope
binds.
-/

namespace Pseudonym

open Files Python

/-- A node that opens a scope, met in the scope around it. -/
structure NestedScope where
  node : Tree
  inText : Bool
  /-- The symbol of the class or function. -/
  owner : Option SymbolId := none

/-- The scope whose names are being declared, with the names that it declares elsewhere. -/
structure Declaring where
  module : SourceModule
  scope : ScopeId
  globals : List String
  nonlocals : List String

namespace Extraction

/-! ## Names that a scope binds -/

/-- The scope in which a name bound here is declared. -/
def bindingScope (x : Extraction) (d : Declaring) (name : String) : ScopeId :=
  if d.globals.contains name then d.module.name
  else if d.nonlocals.contains name then (x.nonlocalScope? d.scope name).getD d.scope
  else d.scope

/-- Binds a name of the scope. -/
def bindHere (x : Extraction) (d : Declaring) (name : String) (kind : SymbolKind)
    (span : Option Span) : SymbolId × Extraction :=
  x.bind d.module (x.bindingScope d name) name kind span d.scope

/-- Binds a name by an assignment inside an expression. -/
def bindWalrus (x : Extraction) (d : Declaring) (name : String) (span : Option Span) : Extraction :=
  let target := x.walrusScope d.scope
  if target = d.scope then (x.bindHere d name .variable span).2
  else (x.bind d.module target name .variable span d.scope).2

/-- Declares what one node binds; a node that opens a scope is added to the list. -/
def declareVisit (d : Declaring) (state : Extraction × List NestedScope) (v : Visit) :
    Extraction × List NestedScope :=
  let (x, nested) := state
  let m := d.module
  let t := v.node
  let first := t.range.start
  let last := t.range.stop
  let defined (name : String) (kind : SymbolKind) : Extraction × List NestedScope :=
    let span := m.searchSpan? (.words ["def", "class"]) name first.line first.column first.line
    let (id, x) := x.bindHere d name kind span
    (x, nested ++ [⟨t, v.inText, some id⟩])
  let bound (name : String) (span : Option Span) : Extraction × List NestedScope :=
    ((x.bindHere d name .variable span).2, nested)
  match t.label with
  | .functionDef name _ => defined name .method
  | .classDef name => defined name .type
  | .lambda | .comprehension _ => (x, nested ++ [⟨t, v.inText, none⟩])
  | .name id .store | .name id .delete => bound id (m.nodeSpan? t)
  | .name id .walrus => (x.bindWalrus d id (m.nodeSpan? t), nested)
  | .importModules | .importFrom .. =>
    ({ x with
      pendingImports :=
        x.pendingImports ++ (t.all .importedName).map fun a => ⟨m, d.scope, t, a⟩ }, nested)
  | .handler (some name) =>
    bound name (m.searchSpan? (.words ["as"]) name first.line first.column last.line)
  | .matchAs (some name) | .matchStar (some name) => bound name (m.tailSpan? t name)
  | .matchMapping (some name) =>
    bound name (m.searchSpan? .stars name first.line first.column last.line)
  | .assignment =>
    match t.all .target, t.get? .value with
    | [target], some value =>
      match target.label, value.label with
      | .name id _, .call =>
        ({ x with callAssignments := x.callAssignments ++ [(d.scope, id, value)] }, nested)
      | _, _ => state
    | _, _ => state
  | _ => state

/-- Declares every name that a scope binds, and lists the scopes in it. -/
def declareRegion (x : Extraction) (r : Region) : Extraction × List NestedScope :=
  let visits := walkAll r.inText r.roots
  let globals := visits.flatMap fun v => match v.node.label with
    | .globalNames names => names
    | _ => []
  let nonlocals := visits.flatMap fun v => match v.node.label with
    | .nonlocalNames names => names
    | _ => []
  visits.foldl (declareVisit ⟨r.module, r.scope, globals, nonlocals⟩) (x, [])

/-! ## Opening scopes -/

/-- The word for a scope without a name. -/
def anonymousWord : Label → String
  | .comprehension .list => "listcomp"
  | .comprehension .set => "setcomp"
  | .comprehension .dict => "dictcomp"
  | .comprehension .generator => "generatorexp"
  | _ => "lambda"

/-- The id of the scope that a node opens. -/
def scopeIdFor (x : Extraction) (parent : ScopeId) (node : Tree) : ScopeId × Extraction :=
  let parentKind := ((x.graph.scope? parent).map (·.kind)).getD .module
  let named (name : String) : ScopeId :=
    if parentKind = .module then s!"{parent}:{name}" else s!"{parent}.{name}"
  match node.label with
  | .classDef name => x.uniqueScope (named name)
  | .functionDef name _ => x.uniqueScope (named name)
  | label =>
    let id := s!"{parent}.<{anonymousWord label}{x.counter}>"
    { x with counter := x.counter + 1 }.uniqueScope id

/-- What stands before the names of a scope in qualified names. -/
def qualifierFor (x : Extraction) (parent : ScopeId) (kind : ScopeKind) (owner : Option SymbolId) :
    String :=
  match owner.bind x.graph.symbol? with
  | some s => if kind = .type then s.qualname else s.qualname ++ ".<locals>"
  | none =>
    let around := (valueOf? x.qualifiers parent).getD ""
    let parentKind := ((x.graph.scope? parent).map (·.kind)).getD .module
    if parentKind = .function then around else around ++ ".<locals>"

/-- What is known about a function whose parameters are being declared. -/
structure Signature where
  module : SourceModule
  scope : ScopeId
  /-- The class whose object the first parameter stands for. -/
  receiverType : Option SymbolId
  /-- The symbol that gets the parameters, if this is its first definition. -/
  function : Option SymbolId

/-- Declares one parameter. The result is the receiver, if the parameter is one. -/
def declareParameter (s : Signature) (state : Extraction × Option SymbolId) (item : Tree × Nat) :
    Extraction × Option SymbolId :=
  let (x, receiver) := state
  match item.1.label with
  | .parameter name _ _ =>
    let (id, x) := x.bind s.module s.scope name .variable (s.module.headSpan? item.1 name) s.scope
    match s.receiverType, item.2 with
    | some type, 0 =>
      let x := x.updateSymbol id fun p => { p with isSynthesized := true }
      ({ x with receivers := x.receivers ++ [(id, type)] }, some id)
    | _, _ =>
      let x := { x with parameters := x.parameters ++ [(name, id)] }
      match s.function with
      | some f =>
        (x.updateSymbol f fun p => { p with parameters := p.parameters ++ [id] }, receiver)
      | none => (x, receiver)
  | _ => state

/-- The text of the type hint of a parameter. -/
def annotationText (parameter : Tree) : String :=
  ((parameter.get? .hint).map (·.text)).getD ""

/-- Declares the parameters of a function, and notes the function. -/
def declareParameters (x : Extraction) (m : SourceModule) (parent scope : ScopeId)
    (node : Tree) (owner : Option SymbolId) : Extraction :=
  let class? := (x.graph.scope? parent).bind fun s =>
    if s.kind = .type then s.owner else none
  let parameters := node.all .parameter
  let hasPosition := parameters.any fun p => match p.label with
    | .parameter _ .positionOnly _ | .parameter _ .regular _ => true
    | _ => false
  let hasReceiver := class?.isSome && node.isFunction && !node.isStatic && hasPosition
  let receiverType := if hasReceiver then class? else none
  let function := (owner.bind x.graph.symbol?).bind fun s =>
    if s.parameters.isEmpty && (s.declaration.map (·.line)) = some node.line then some s.id else none
  let (x, receiver) := parameters.zipIdx.foldl
    (declareParameter ⟨m, scope, receiverType, function⟩) (x, none)
  let x := match function with
    | some f => x.updateSymbol f fun s =>
      { s with parameterTypes := (parameters.drop (if hasReceiver then 1 else 0)).map annotationText }
    | none => x
  match owner with
  | some id =>
    if node.isFunction then
      { x with functions := x.functions ++ [⟨id, node, m, parent, scope, class?, receiver⟩] }
    else x
  | none => x

/-- Opens the scope of a node. -/
def openScope (x : Extraction) (m : SourceModule) (parent : ScopeId) (n : NestedScope) :
    Extraction × Region :=
  let kind : ScopeKind := if n.node.isClass then .type else .function
  let (id, x) := x.scopeIdFor parent n.node
  let graph := match x.graph.addScope
      { id, kind, parent := some parent, owner := n.owner, file := some m.path } with
    | .ok g => g
    | .error _ => x.graph
  let x := { x with
    graph
    qualifiers := (id, x.qualifierFor parent kind n.owner) :: x.qualifiers
    comprehensions := if n.node.isComprehension then id :: x.comprehensions else x.comprehensions }
  let x := match n.node.label, n.owner with
    | .classDef _, some owner =>
      { x with classes := x.classes ++ [⟨owner, n.node, m, parent, id⟩] }
    | .functionDef .., owner | .lambda, owner => x.declareParameters m parent id n.node owner
    | _, _ => x
  (x, ⟨id, m, n.node.innerParts, n.inText⟩)

/-- Opens several scopes. -/
def openScopes (m : SourceModule) (parent : ScopeId) :
    List NestedScope → Extraction → Extraction × List Region
  | [], x => (x, [])
  | n :: rest, x =>
    let (x, region) := x.openScope m parent n
    let (x, regions) := openScopes m parent rest x
    (x, region :: regions)

/-- Declares the names of regions and of all scopes in them, from the outside inwards. Every scope is
a node of its own, so the count of nodes bounds the rounds. -/
def declareRegions : Nat → List Region → Extraction → Extraction
  | 0, _, x => x
  | _ + 1, [], x => x
  | fuel + 1, r :: queue, x =>
    let (x, nested) := { x with regions := x.regions ++ [r] }.declareRegion r
    let (x, regions) := openScopes r.module r.scope nested x
    declareRegions fuel (queue ++ regions) x

/-! ## Adding modules -/

/-- A statement that binds one name to a value, with the name. -/
def constantCandidate? (statement : Tree) : Option String :=
  match statement.label, statement.all .target, statement.get? .value with
  | .assignment, [target], _ => boundName target
  | .annotatedAssignment _, [target], some _ => boundName target
  | _, _, _ => none
where
  /-- The name that a target is. -/
  boundName (target : Tree) : Option String :=
    match target.label with
    | .name id _ => some id
    | _ => none

/-- Adds a module that has been read. -/
def addTree (x : Extraction) (m : SourceModule) : Except ExtractionError Extraction :=
  match x.graph.addScope { id := m.name, kind := .module, file := some m.path } with
  | .error cause => .error (.graph cause)
  | .ok graph =>
    let body := m.tree.all .body
    let candidates := body.filterMap fun t => (constantCandidate? t).map fun name => (m, name, t)
    let x := { x with
      graph
      modules := x.modules ++ [m]
      qualifiers := (m.name, m.name) :: x.qualifiers
      constantCandidates := x.constantCandidates ++ candidates }
    .ok (declareRegions (m.tree.size + 1) [⟨m.name, m, body, false⟩] x)

/-- Why no module of a name can be added. -/
def refusal? (x : Extraction) (name : String) : Option ExtractionError :=
  if x.resolved then some .alreadyResolved
  else if (x.module? name).isSome then some (.duplicateModule name)
  else none

/-- Adds a module that has been read, if its name is free. -/
def addRead (x : Extraction) (m : SourceModule) : Except ExtractionError Extraction :=
  match x.refusal? m.name with
  | some e => .error e
  | none => x.addTree m

/-- Adds a module by its text. -/
def addModule (x : Extraction) (path : Path) (source name : String) (editable : Bool) :
    Except ExtractionError Extraction :=
  match x.refusal? name with
  | some e => .error e
  | none =>
    if source.toList.contains '\x00' then .error .nullCharacter
    else match Module.parse? source with
      | none => .error .unreadable
      | some tree => x.addTree ⟨name, path, source, tree, editable⟩

end Extraction

end Pseudonym
