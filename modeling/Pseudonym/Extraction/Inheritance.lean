import Pseudonym.Extraction.Library
import Pseudonym.Extraction.Resolution

/-!
# Classes, fields and overrides

Classes are related to their bases, get the fields that their methods assign to the object, and
their members are related to what they override.
-/

namespace Pseudonym

open Python

namespace Extraction

/-! ## Markers and bases -/

/-- Adds a marker to a symbol. -/
def addMarker (x : Extraction) (id : SymbolId) (marker : Option String) : Extraction :=
  x.updateSymbol id fun s => { s with markers := s.markers ++ [marker] }

/-- Adds the markers of decorators. -/
def addDecorators (x : Extraction) (id : SymbolId) (scope : ScopeId) (decorators : List Tree) :
    Extraction :=
  decorators.foldl (fun x d => x.addMarker id (x.marker scope d)) x

/-- Relates a class to one base. A base outside the program is a marker of the class. -/
def linkBase (c : ClassFact) (x : Extraction) (base : Tree) : Extraction :=
  let outside (qualname : Option String) : Extraction :=
    if qualname = some "builtins.object" then x
    else
      let x := x.addMarker c.symbol qualname
      { x with externalBases := x.externalBases ++ [(c.symbol, qualname)] }
  match x.resolveExpr c.outerScope true base with
  | some (.symbol id) =>
    if (x.graph.symbol? id).map (·.kind) = some .type then
      { x with graph := x.graph.addSupertype c.symbol id }
    else outside none
  | some other => outside (x.referentName other)
  | none => outside none

/-- Adds the marker of a metaclass. -/
def linkMetaclass (c : ClassFact) (x : Extraction) (keyword : Tree) : Extraction :=
  match keyword.label, keyword.get? .value with
  | .keyword (some "metaclass"), some value =>
    x.addMarker c.symbol (x.marker c.outerScope value)
  | _, _ => x

/-- Relates a class to its decorators, bases and metaclass. -/
def linkClass (x : Extraction) (c : ClassFact) : Extraction :=
  let x := x.addDecorators c.symbol c.outerScope (c.node.all .decorator)
  let x := (c.node.all .base).foldl (linkBase c) x
  (c.node.all .keyword).foldl (linkMetaclass c) x

/-! ## Interfaces -/

/-- What marks a class as an interface. -/
def interfaceMarkers : List String :=
  ["typing.Protocol", "typing_extensions.Protocol", "abc.ABC", "abc.ABCMeta"]

/-- What marks a method as abstract. -/
def abstractMarkers : List String :=
  ["abc.abstractmethod", "abc.abstractproperty", "abc.abstractclassmethod",
   "abc.abstractstaticmethod"]

/-- Whether a symbol has one of some markers. -/
def hasMarker (s : Symbol) (markers : List String) : Bool :=
  s.markers.any fun m => match m with
    | some name => markers.contains name
    | none => false

/-- Whether a class or one above it is marked as an interface. -/
def isInterface (x : Extraction) (type : SymbolId) : Bool :=
  (x.graph.symbolsOf (type :: x.graph.allSupertypes type)).any (hasMarker · interfaceMarkers)

/-- The methods of a class that were met. -/
def methodsOf (x : Extraction) (type : SymbolId) : List FunctionFact :=
  x.functions.filter (·.owner = some type)

/-- Notes that a method of an interface does something by itself. -/
def markDefaultMethod (x : Extraction) (f : FunctionFact) : Extraction :=
  match x.graph.symbol? f.symbol with
  | some s =>
    if hasMarker s abstractMarkers || f.node.isStub then x
    else x.updateSymbol f.symbol fun s => { s with isDefaultMethod := true }
  | none => x

/-- Links all classes and functions to what they are marked with and derived from. -/
def linkClasses (x : Extraction) : Extraction :=
  let x := x.classes.foldl linkClass x
  let x := x.functions.foldl
    (fun x f => x.addDecorators f.symbol f.outerScope (f.node.all .decorator)) x
  x.classes.foldl
    (fun x c => if x.isInterface c.symbol then (x.methodsOf c.symbol).foldl markDefaultMethod x else x)
    x

/-! ## Type parameters -/

/-- The functions that make type parameters. -/
def typeParameterMakers : List String :=
  ["typing.TypeVar", "typing.ParamSpec", "typing.TypeVarTuple", "typing_extensions.TypeVar",
   "typing_extensions.ParamSpec", "typing_extensions.TypeVarTuple"]

/-- Notes that a name is bound to a type parameter. -/
def markTypeParameter (x : Extraction) (item : ScopeId × String × Tree) : Extraction :=
  let (scope, name, call) := item
  let maker := ((call.get? .function).bind (x.resolveExpr scope false)).bind x.referentName
  if (maker.map typeParameterMakers.contains).getD false then
    match x.lookup scope name with
    | some id => x.updateSymbol id fun s => { s with isTypeParameter := true }
    | none => x
  else x

/-! ## Fields -/

/-- Whether a node assigns an attribute of the object: the name of the attribute. -/
def assignedField? (receiver : String) (t : Tree) : Option String :=
  match t.label, t.get? .value with
  | .attribute name .store, some value =>
    match value.label with
    | .name id _ => if id = receiver then some name else none
    | _ => none
  | _, _ => none

/-- Declares a field that a node assigns, unless the class has such a member. -/
def declareField (c : ClassFact) (receiver : String) (x : Extraction) (t : Tree) : Extraction :=
  match assignedField? receiver t with
  | some name =>
    if (x.classMember? c.symbol name).isSome then x
    else
      let (id, x) :=
        x.newSymbol c.module c.bodyScope name .variable (c.module.tailSpan? t name) true
      x.updateSymbol id fun s => { s with isConstant := false }
  | none => x

/-- Declares the fields that a method assigns. -/
def declareMethodFields (c : ClassFact) (x : Extraction) (f : FunctionFact) : Extraction :=
  match f.receiver.bind x.graph.symbol? with
  | some receiver =>
    ((f.node.all .body).flatMap walkOutsideClasses).foldl (declareField c receiver.declaredName) x
  | none => x

/-- Declares the fields of all classes, those with fewer classes above them first. -/
def declareFields (x : Extraction) : Extraction :=
  let depth (c : ClassFact) : Nat := (x.graph.allSupertypes c.symbol).length
  (x.classes.mergeSort fun a b => depth a ≤ depth b).foldl
    (fun x c => (x.methodsOf c.symbol).foldl (declareMethodFields c) x) x

/-! ## Overrides -/

/-- The scope of members that stand for members outside the program. -/
def externalScope : ScopeId := "<external>"

/-- The bases outside the program of a class and of all classes above it. -/
def externalBasesOf (x : Extraction) (type : SymbolId) : List (Option String) :=
  (type :: x.graph.allSupertypes type).flatMap fun t =>
    (x.externalBases.filter (·.1 = t)).map (·.2)

/-- Whether a member of a name may override one of a base outside the program, as far as a look at run
time tells. -/
def mayOverrideExternal (look : Library.Introspection) (name : String)
    (bases : List (Option String)) : Bool :=
  bases.any fun base => match base with
    | none => true
    | some qualname => Library.mayHave look qualname name

/-- The member outside the program that a member of a class overrides. -/
def placeholder (x : Extraction) (type : SymbolId) (member : Symbol) : SymbolId × Extraction :=
  let withScope := match x.graph.addScope { id := externalScope, kind := .external } with
    | .ok g => g
    | .error _ => x.graph
  let id := s!"{externalScope}::{type}.{member.declaredName}"
  let s : Symbol :=
    { id
      name := member.declaredName
      kind := member.kind
      qualname := s!"{externalScope}.{member.declaredName}"
      scope := some externalScope
      isPhysical := false }
  match withScope.addSymbol s with
  | .ok g => (id, { x with graph := g })
  | .error _ => (id, { x with graph := withScope })

/-- Relates a member to one of the same name in or above a base; tells whether there is one. -/
def linkOverride (member : Symbol) (state : Extraction × Bool) (base : SymbolId) :
    Extraction × Bool :=
  let (x, found) := state
  match x.classMember? base member.declaredName with
  | some overridden =>
    if overridden = member.id then (x, found)
    else ({ x with graph := x.graph.addOverride member.id overridden }, true)
  | none => (x, found)

/-- Relates a member to what it overrides. -/
def linkMember (c : ClassFact) (x : Extraction) (member : Symbol) : Extraction :=
  let name := member.declaredName
  if Name.isDunder name || Visibility.ofMember name = .priv then x
  else
    let external := x.externalBasesOf c.symbol
    let (x, found) := (x.graph.supertypes c.symbol).foldl (linkOverride member) (x, false)
    if !found && mayOverrideExternal x.introspection name external then
      let (id, x) := x.placeholder c.symbol member
      { x with graph := x.graph.addOverride member.id id }
    else x

/-- Relates all members to what they override. Parameters of members that override or are overridden
keep their names. -/
def linkOverrides (x : Extraction) : Extraction :=
  let x := x.classes.foldl
    (fun x c => (x.graph.membersOfScope c.bodyScope).foldl (linkMember c) x) x
  x.graph.symbols.foldl
    (fun x s =>
      if s.kind = .method ∧
          (!(x.graph.superMembers s.id).isEmpty ∨ !(x.graph.overriders s.id).isEmpty) then
        x.markAllDynamic s.parameters
      else x)
    x

end Extraction

end Pseudonym
