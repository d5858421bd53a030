import Pseudonym.Extraction.Resolution

/-!
# Uses of symbols

Every region is walked once more. Names, attributes and keyword arguments that resolve become
references; what a program could look up by a name at run time is noted as dynamic.
-/

namespace Pseudonym

open Python

namespace Extraction

/-! ## Names -/

/-- Records the use of a name. -/
def visitName (x : Extraction) (m : SourceModule) (scope : ScopeId) (t : Tree) (id : String)
    (context : Context) (inText : Bool) : Extraction :=
  match x.resolveName scope id with
  | none =>
    if context = .load then
      { x with graph := x.graph.updateScope scope fun s =>
          if s.unresolved.contains id then s else { s with unresolved := s.unresolved ++ [id] } }
    else x
  | some symbol =>
    let span := m.nodeSpan? t
    match x.graph.symbol? symbol with
    | none => x
    | some s =>
      if span = s.declaration then x
      else
        let plain : Bool := context = .load && s.file = some m.path && !inText
        let x := if plain then x else x.keepNamed symbol
        x.addReference m symbol span (some scope) false

/-- Records the use of an attribute. -/
def visitAttribute (x : Extraction) (m : SourceModule) (scope : ScopeId) (t : Tree)
    (name : String) : Extraction :=
  match x.resolveAttribute scope t with
  | .symbol id => (x.keepNamed id).addReference m id (m.tailSpan? t name) none false
  | .unknown => { x with dynamicNames := name :: x.dynamicNames }
  | .foreign => x

/-! ## Calls -/

/-- Functions that read or write the names of the scope that calls them. -/
def dynamicFunctions : List String := ["eval", "exec", "locals", "vars", "globals"]

/-- Notes a call of a function that reads or writes the names of its scope. -/
def visitDynamicCall (x : Extraction) (scope : ScopeId) (call function : Tree) : Extraction :=
  match function.label with
  | .name id _ =>
    if dynamicFunctions.contains id && (x.resolveName scope id).isNone &&
        !(id = "vars" && !(call.all .argument).isEmpty) then
      { x with dynamicCalls := x.dynamicCalls ++ [⟨scope, id⟩] }
    else x
  | _ => x

/-- The symbol that a call calls. -/
def callTarget? (x : Extraction) (scope : ScopeId) (function : Tree) : Option SymbolId :=
  match function.label with
  | .attribute .. =>
    match x.resolveAttribute scope function with
    | .symbol id => some id
    | _ => none
  | .name .. =>
    match x.resolveExpr scope false function with
    | some (.symbol id) => some id
    | _ => none
  | _ => none

/-- The parameters that the keyword arguments of a call may name. -/
def callParameters? (x : Extraction) (target : SymbolId) : Option (List SymbolId) :=
  match x.graph.symbol? target with
  | none => none
  | some s =>
    match s.kind with
    | .method => some s.parameters
    | .type =>
      (x.classMember? target "__init__").bind fun init =>
        (x.graph.symbol? init).map (·.parameters)
    | .variable => none

/-- Records one keyword argument of a call. A mapping that is spread out may name any parameter. -/
def visitKeyword (m : SourceModule) (parameters : Option (List SymbolId)) (x : Extraction)
    (keyword : Tree) : Extraction :=
  match keyword.label with
  | .keyword none => x.markAllDynamic (parameters.getD [])
  | .keyword (some name) =>
    match (x.graph.symbolsOf (parameters.getD [])).find? (·.declaredName = name) with
    | some p => x.addReference m p.id (m.headSpan? keyword name) none false
    | none => { x with dynamicParameters := name :: x.dynamicParameters }
  | _ => x

/-- Records what a call says about names. -/
def visitCall (x : Extraction) (m : SourceModule) (scope : ScopeId) (call : Tree) : Extraction :=
  match call.get? .function with
  | none => x
  | some function =>
    let x := x.visitDynamicCall scope call function
    match call.all .keyword with
    | [] => x
    | keywords =>
      let parameters := (x.callTarget? scope function).bind x.callParameters?
      keywords.foldl (visitKeyword m parameters) x

/-! ## Declarations and texts -/

/-- Records a name after `global` or `nonlocal`. -/
def visitDeclared (m : SourceModule) (scope : ScopeId) (t : Tree) (keyword : String)
    (symbolOf : Extraction → String → Option SymbolId) (x : Extraction) (name : String) :
    Extraction :=
  match symbolOf x name with
  | none => x
  | some id =>
    let span := m.searchSpan? .nothing name t.range.start.line
      (t.range.start.column + keyword.length) t.range.stop.line
    (x.keepNamed id).addReference m id span (some scope) false

/-- The longest text that can name something. -/
def maxNameText : Nat := 200

/-- The names that a text could be used to look up. -/
def namesInText (text : String) : List String :=
  if text = "" ∨ maxNameText < text.length then []
  else
    let parts := text.splitOn "."
    if parts.all Text.isIdentifier then parts else []

/-- Notes names that can be looked up at run time. -/
def addDynamicNames (x : Extraction) (names : List String) : Extraction :=
  { x with dynamicNames := names ++ x.dynamicNames }

/-! ## Regions -/

/-- Records what one node says about names. -/
def visit (m : SourceModule) (scope : ScopeId) (x : Extraction) (v : Visit) : Extraction :=
  let t := v.node
  match t.label with
  | .name id context => x.visitName m scope t id context v.inText
  | .attribute name _ => x.visitAttribute m scope t name
  | .call => x.visitCall m scope t
  | .globalNames names =>
    names.foldl (visitDeclared m scope t "global" fun x name => x.declared? m.name name) x
  | .nonlocalNames names =>
    names.foldl
      (visitDeclared m scope t "nonlocal" fun x name =>
        (x.nonlocalScope? scope name).bind fun s => x.declared? s name)
      x
  | .constant (.text value _) => x.addDynamicNames (namesInText value)
  | .matchClass keywords => x.addDynamicNames keywords
  | _ => x

/-- Records what a region says about names. The text that documents a body is no name. -/
def collectRegion (x : Extraction) (r : Region) : Extraction :=
  (walkAll r.inText (undocumented r.roots)).foldl (visit r.module r.scope) x

end Extraction

end Pseudonym
