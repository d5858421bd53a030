import Pseudonym.Extraction.Declaration
import Pseudonym.Extraction.Import
import Pseudonym.Extraction.Inheritance
import Pseudonym.Extraction.Reference

/-!
# Resolving a program

`resolve` links the modules that were added, records every use, and settles which symbols can be
renamed at all and which constants can be replaced by their values.
-/

namespace Pseudonym

open Python

namespace Extraction

/-! ## Dynamic names -/

/-- The scopes whose names a call can reach. -/
def reachedScopes (x : Extraction) (c : DynamicCall) : List Scope :=
  let chain := (x.graph.scope? c.scope).toList ++ x.graph.ancestors c.scope
  if c.function = "globals" then chain.filter (·.kind = .module)
  else chain.take 1 ++ (chain.drop 1).filter (·.kind ≠ .type)

/-- Marks the members of a scope. -/
def markScope (x : Extraction) (scope : ScopeId) (p : Symbol → Bool) : Extraction :=
  x.markAllDynamic (((x.graph.membersOfScope scope).filter p).map (·.id))

/-- Marks every symbol that can be looked up at run time. -/
def markDynamicSymbols (x : Extraction) : Extraction :=
  let x := { x with graph := (x.graph.markDynamic x.dynamicNames false).2 }
  let x := x.markAllDynamic
    ((x.parameters.filter fun p => x.dynamicParameters.contains p.1).map (·.2))
  let x := (x.dynamicCalls.flatMap x.reachedScopes).foldl
    (fun x s => x.markScope s.id fun _ => true) x
  x.starImports.foldl
    (fun x name => x.markScope name fun s => !s.declaredName.startsWith "_") x

/-! ## Spans -/

/-- Whether a span says a name. -/
def spells (x : Extraction) (name : String) (span : Span) : Bool :=
  ((x.moduleFor? span.file).bind (·.text? span)) = some name

/-- Gives up on symbols that are spelled otherwise somewhere. -/
def checkSpans (x : Extraction) : Extraction :=
  { x with graph := { x.graph with symbols := x.graph.symbols.map fun s =>
      { s with isPhysical := s.isPhysical && s.spans.all (x.spells s.declaredName) } } }

/-! ## Constants -/

/-- Whether a label is a number. -/
def isNumber : Label → Bool
  | .constant (.int _) | .constant (.float _) | .constant (.imaginary _) => true
  | _ => false

/-- Whether a value is a literal: a constant, or a number with a sign. -/
def isLiteral (value : Tree) : Bool :=
  match value.label with
  | .unary .minus | .unary .plus => (value.all .operand).any fun t => isNumber t.label
  | .constant .ellipsis => false
  | .constant _ => true
  | _ => false

/-- The text of a literal, if a value is one. -/
def literalText? (m : SourceModule) (value : Tree) : Option String :=
  if isLiteral value then m.segment? value.range else none

/-- Whether nothing but a statement, and perhaps a comment behind it, stands on its lines. -/
def ownsLines (m : SourceModule) (statement : Tree) : Bool :=
  let r := statement.range
  match m.line? r.start.line, m.line? r.stop.line with
  | some first, some last =>
    let front := first.take (Source.charColumn first r.start.column)
    let behind := (last.drop (Source.charColumn last r.stop.column)).dropWhile Text.isBlank
    front.all Text.isBlank && (behind.isEmpty || behind.head? = some '#')
  | _, _ => false

/-- Gives a constant its literal if all its uses can be replaced by it. -/
def findConstant (x : Extraction) (item : SourceModule × String × Tree) : Extraction :=
  let (m, name, statement) := item
  match (x.declared? m.name name).bind x.graph.symbol? with
  | none => x
  | some s =>
    let usable := m.editable && s.isPhysical && s.isConstant && s.visibility ≠ .pub &&
      !s.isDynamic && !x.nonInlinable.contains s.id && x.bindings.count s.id = 1 &&
      s.declaration.map (·.line) = some statement.line
    if !usable then x
    else
      match (statement.get? .value).bind (literalText? m) with
      | some literal =>
        if ownsLines m statement then
          x.updateSymbol s.id fun s =>
            { s with
              literal := some literal
              statementLines := some (statement.range.start.line, statement.range.stop.line) }
        else x
      | none => x

/-! ## The whole -/

/-- Links all modules and records all uses. A second call changes nothing. -/
def resolve (x : Extraction) : Extraction :=
  if x.resolved then x
  else
    let x := { x with resolved := true }.linkImports.linkClasses
    let x := x.callAssignments.foldl markTypeParameter x
    let x := x.declareFields.linkOverrides
    let x := x.regions.foldl collectRegion x
    let x := x.markDynamicSymbols.checkSpans
    let x := x.constantCandidates.foldl findConstant x
    { x with graph := x.graph.forgetRoots }

/-- Whether a symbol stands for something outside the program or for a module. -/
def isExternal (x : Extraction) (s : Symbol) : Bool :=
  s.scope = some externalScope || (valueOf? x.moduleAliases s.id).isSome ||
    (valueOf? x.externalNames s.id).isSome

end Extraction

end Pseudonym
