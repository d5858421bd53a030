import Pseudonym.Extraction.Resolution

/-!
# Imports

An import binds a name to a module, to a symbol of another module, or to something outside the
program. What a module exports may itself come from an import, so linking goes on as long as a round
links something.
-/

namespace Pseudonym

open Python

namespace Extraction

/-- Binds a name by an import. A name that is bound already stands for no single thing from then
on. -/
def bindImport (x : Extraction) (m : SourceModule) (scope : ScopeId) (name : String)
    (span : Option Span) : SymbolId × Extraction :=
  match x.declared? scope name with
  | some id =>
    let x := x.updateSymbol id fun s => { s with isCanonical := false }
    let x := { x with bindings := id :: x.bindings }
    (id, x.addReference m id span (some scope) false)
  | none =>
    let (id, x) := x.newSymbol m scope name .variable span false
    (id, { x with bindings := id :: x.bindings })

/-- Binds a name to a module. -/
def bindModule (x : Extraction) (m : SourceModule) (scope : ScopeId) (name : String)
    (span : Option Span) (target : String) : Extraction :=
  let (id, x) := x.bindImport m scope name span
  { x with moduleAliases := addDefault x.moduleAliases id target }

/-- Binds a name to something outside the program. -/
def bindExternal (x : Extraction) (m : SourceModule) (scope : ScopeId) (name : String)
    (span : Option Span) (qualname : String) : Extraction :=
  let (id, x) := x.bindImport m scope name span
  { x with externalNames := addDefault x.externalNames id qualname }

/-- Binds a name to a symbol of another module. Without a new name the symbol itself is bound here,
unless the name is bound to something else as well. -/
def bindSymbol (x : Extraction) (item : PendingImport) (name : String) (asName : Option String)
    (boundSpan : Option Span) (target : SymbolId) : Extraction :=
  let m := item.module
  let nameSpan := m.headSpan? item.importedName name
  let x := x.keepNamed target
  match asName with
  | some bound =>
    let x := x.addReference m target nameSpan none false
    let (id, x) := x.bindImport m item.scope bound boundSpan
    { x with aliasTargets := addDefault x.aliasTargets id target }
  | none =>
    match x.declared? item.scope name with
    | some existing =>
      ((x.markDynamic existing).markDynamic target).addReference m target nameSpan none false
    | none =>
      let x := x.addReference m target nameSpan (some item.scope) true
      { x with graph := x.graph.updateScope item.scope fun s =>
          if s.imported.contains target then s else { s with imported := s.imported ++ [target] } }

/-- The module that an import takes names from; none if it lies above the outermost package. -/
def absoluteModule? (m : SourceModule) (module : Option String) (level : Nat) : Option String :=
  if level = 0 then module
  else
    let around := if m.isPackage then m.name else ".".intercalate (m.name.splitOn ".").dropLast
    let package := if around = "" then [] else around.splitOn "."
    if level - 1 > package.length then none
    else
      let base := package.take (package.length - (level - 1)) ++ module.toList
      if base.isEmpty then none else some (".".intercalate base)

/-- Links an import of a name from a module. In a round that is not the last, a name that is not
found yet is left for later. -/
def linkFrom (x : Extraction) (item : PendingImport) (name : String) (asName : Option String)
    (module : Option String) (final : Bool) : Option Extraction :=
  let m := item.module
  let bound := asName.getD name
  let span := match asName with
    | some s => m.tailSpan? item.importedName s
    | none => m.headSpan? item.importedName name
  match module with
  | none => some (x.bindExternal m item.scope bound span name)
  | some source =>
    let inner := s!"{source}.{name}"
    if !x.isProjectModule source then some (x.bindExternal m item.scope bound span inner)
    else
      let target := if (x.module? source).isSome then x.lookup source name else none
      match target with
      | some id => some (x.bindSymbol item name asName span id)
      | none =>
        if x.isProjectModule inner then some (x.bindModule m item.scope bound span inner)
        else if final then
          let x := x.bindExternal m item.scope bound span inner
          some { x with dynamicNames := name :: x.dynamicNames }
        else none

/-- Links one import; none if it is left for later. -/
def linkImport (x : Extraction) (item : PendingImport) (final : Bool) : Option Extraction :=
  let m := item.module
  match item.statement.label, item.importedName.label with
  | .importModules, .importedName name (some asName) =>
    some (x.bindModule m item.scope asName (m.tailSpan? item.importedName asName) name)
  | .importModules, .importedName name none =>
    let bound := (name.splitOn ".").head?.getD ""
    some (x.bindModule m item.scope bound (m.headSpan? item.importedName bound) bound)
  | .importFrom module level, .importedName name asName =>
    let source := absoluteModule? m module level
    if name = "*" then
      match source with
      | some s =>
        some (if (x.module? s).isSome then { x with starImports := x.starImports ++ [s] } else x)
      | none => some x
    else x.linkFrom item name asName source final
  | _, _ => some x

/-- One round over the imports that are left: the state after it, and those still left. -/
def linkRound (x : Extraction) (items : List PendingImport) : Extraction × List PendingImport :=
  items.foldl
    (fun (x, left) item =>
      match x.linkImport item false with
      | some x => (x, left)
      | none => (x, left ++ [item]))
    (x, [])

/-- Rounds as long as each links something; what is left then stands for something outside. -/
def linkRounds : Nat → List PendingImport → Extraction → Extraction
  | 0, _, x => x
  | fuel + 1, items, x =>
    let (x, left) := x.linkRound items
    if left.length < items.length ∧ !left.isEmpty then linkRounds fuel left x
    else left.foldl (fun x item => (x.linkImport item true).getD x) x

/-- Links all imports. -/
def linkImports (x : Extraction) : Extraction :=
  linkRounds (x.pendingImports.length + 1) x.pendingImports x

end Extraction

end Pseudonym
