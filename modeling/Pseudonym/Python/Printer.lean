import Pseudonym.Python.Tree
import Pseudonym.Text.Quoted

/-!
# Expressions as text

`Tree.text` writes an expression in one canonical layout: parentheses only where the operators need
them, one blank around binary operators, strings in single quotes. Two annotations that differ only
in layout have the same text.
-/

namespace Pseudonym.Python

open Text

/-! ## How tightly operators bind -/

/-- Levels of binding, the loosest first. -/
inductive Binding where
  | walrus | tuple | yield | test | disjunction | conjunction | negation | comparison | bitOr
  | bitXor | bitAnd | shift | sum | term | sign | power | await | atom
deriving DecidableEq, Repr, Inhabited

namespace Binding

/-- All levels in order. -/
def all : List Binding :=
  [.walrus, .tuple, .yield, .test, .disjunction, .conjunction, .negation, .comparison, .bitOr,
   .bitXor, .bitAnd, .shift, .sum, .term, .sign, .power, .await, .atom]

/-- The rank of a level. -/
def rank (b : Binding) : Nat := all.idxOf b

/-- The level some steps tighter. -/
def tighter (b : Binding) (steps : Nat) : Binding := all.getD (b.rank + steps) .atom

end Binding

/-- The sign of a binary operator and its level. -/
def BinaryOp.sign : BinaryOp → String × Binding
  | .add => ("+", .sum)
  | .sub => ("-", .sum)
  | .mult => ("*", .term)
  | .matMult => ("@", .term)
  | .div => ("/", .term)
  | .floorDiv => ("//", .term)
  | .mod => ("%", .term)
  | .pow => ("**", .power)
  | .leftShift => ("<<", .shift)
  | .rightShift => (">>", .shift)
  | .bitOr => ("|", .bitOr)
  | .bitXor => ("^", .bitXor)
  | .bitAnd => ("&", .bitAnd)

/-- The sign of a unary operator and its level. -/
def UnaryOp.sign : UnaryOp → String × Binding
  | .plus => ("+", .sign)
  | .minus => ("-", .sign)
  | .invert => ("~", .sign)
  | .logicalNot => ("not ", .negation)

/-- The sign of a comparison. -/
def CompareOp.sign : CompareOp → String
  | .eq => "=="
  | .notEq => "!="
  | .lt => "<"
  | .le => "<="
  | .gt => ">"
  | .ge => ">="
  | .is => "is"
  | .isNot => "is not"
  | .isIn => "in"
  | .notIn => "not in"

/-- How tightly a part must bind to go without parentheses. -/
def partBinding (label : Label) (role : Role) (place : Nat) : Binding :=
  match label, role with
  | .attribute .., _ | .call, .function | .subscript _, .value => .atom
  | .subscript _, .index => .tuple
  | .walrus, _ => .atom
  | .starred _, _ | .dict, .spread => .bitOr
  | .unary op, _ => op.sign.2
  | .binary op, .left => if op = .pow then op.sign.2.tighter 1 else op.sign.2
  | .binary op, .right => if op = .pow then op.sign.2 else op.sign.2.tighter 1
  | .conjunction, _ => Binding.conjunction.tighter (place + 1)
  | .disjunction, _ => Binding.disjunction.tighter (place + 1)
  | .compare _, _ => Binding.comparison.tighter 1
  | .conditional, .test | .conditional, .body => Binding.test.tighter 1
  | .clause _, .target => .tuple
  | .clause _, _ => Binding.test.tighter 1
  | .await, _ | .yield, _ | .yieldFrom, _ => .atom
  | .formattedValue _, .value => Binding.test.tighter 1
  | .formattedValue _, .format => .walrus
  | _, _ => .test

/-- The level of a node; none for one that never needs parentheses. -/
def Label.binding? : Label → Option Binding
  | .walrus => some .walrus
  | .tuple _ => some .tuple
  | .yield | .yieldFrom => some .yield
  | .conditional | .lambda => some .test
  | .disjunction => some .disjunction
  | .conjunction => some .conjunction
  | .compare _ => some .comparison
  | .unary op => some op.sign.2
  | .binary op => some op.sign.2
  | .await => some .await
  | _ => none

/-! ## Constants -/

/-- A byte between quotes. -/
def quotedByte (quote : Char) (b : UInt8) : List Char :=
  let c := Char.ofNat b.toNat
  if 127 ≤ b.toNat then '\\' :: 'x' :: hexDigits 2 b.toNat else quotedChar quote c

/-- A number without a fraction of zero, and in digits where it is beyond all bounds. -/
def imaginaryText (s : String) : String :=
  if s = "inf" then "1e309" else if s.endsWith ".0" then (s.dropEnd 2).toString else s

/-- The text of a constant. -/
def Constant.literal : Constant → String
  | .none => "None"
  | .bool true => "True"
  | .bool false => "False"
  | .ellipsis => "..."
  | .text s marked => (if marked then "u" else "") ++ quoted s
  | .bytes bs =>
    let q := quoteFor (bs.map fun b => Char.ofNat b.toNat)
    String.ofList ('b' :: q :: bs.flatMap (quotedByte q) ++ [q])
  | .int n => toString n
  | .float s => if s = "inf" then "1e309" else s
  | .imaginary s => imaginaryText s ++ "j"

/-! ## Nodes -/

/-- A part that has been written: its role, the label of its node, and its text. -/
structure Written where
  role : Role
  label : Label
  text : String

namespace Written

/-- The texts in a role. -/
def all (ws : List Written) (role : Role) : List String :=
  (ws.filter (·.role = role)).map (·.text)

/-- The text of the first part in a role. -/
def get (ws : List Written) (role : Role) : String := ((all ws role).head?).getD ""

end Written

/-- Texts with commas between them; one alone has a comma behind it. -/
def tupleText : List String → String
  | [s] => s ++ ","
  | ss => ", ".intercalate ss

/-- The parameters of an anonymous function. `defaults` and `keywordDefaults` are those still to be
given out, and `starred` tells whether a star has been written. -/
def parameterTexts : (defaults keywordDefaults : List String) → (starred : Bool) →
    List (String × ParameterKind × Bool) → List String
  | _, _, _, [] => []
  | ds, ks, starred, (name, kind, hasDefault) :: rest =>
    let isPositionOnly (p : String × ParameterKind × Bool) : Bool := p.2.1 = .positionOnly
    match kind with
    | .positionOnly | .regular =>
      let (value, ds) := match ds with
        | d :: ds => if hasDefault then ("=" ++ d, ds) else ("", d :: ds)
        | [] => ("", [])
      let slash := if kind = .positionOnly ∧ !rest.any isPositionOnly then ["/"] else []
      (name ++ value) :: slash ++ parameterTexts ds ks starred rest
    | .variadic => ("*" ++ name) :: parameterTexts ds ks true rest
    | .keywordOnly =>
      let (value, ks) := match ks with
        | k :: ks => if hasDefault then ("=" ++ k, ks) else ("", k :: ks)
        | [] => ("", [])
      (if starred then [] else ["*"]) ++ (name ++ value) :: parameterTexts ds ks true rest
    | .keywordVariadic => ("**" ++ name) :: parameterTexts ds ks starred rest

/-- The entries of a dictionary: its keys are given out to the values that are not spread. -/
def entryTexts : (keys : List String) → List Written → List String
  | _, [] => []
  | keys, w :: rest =>
    match w.role, keys with
    | .spread, _ => ("**" ++ w.text) :: entryTexts keys rest
    | .value, k :: keys => (k ++ ": " ++ w.text) :: entryTexts keys rest
    | _, _ => entryTexts keys rest

/-- Text inside a formatted string: its braces are doubled. -/
def doubleBraces (s : String) : String :=
  String.ofList (s.toList.flatMap fun c => if c = '{' ∨ c = '}' then [c, c] else [c])

/-- Puts the text of a node together from the texts of its parts. -/
def compose (label : Label) (ws : List Written) : String :=
  let get := Written.get ws
  let all := Written.all ws
  let brace (s : String) : String := "\x7b" ++ s ++ "\x7d"
  match label with
  | .name id _ => id
  | .attribute name _ =>
    let isInt := match ws with
      | [w] => match w.label with
        | .constant (.int _) | .constant (.bool _) => true
        | _ => false
      | _ => false
    get .value ++ (if isInt then " ." else ".") ++ name
  | .subscript _ => get .value ++ "[" ++ get .index ++ "]"
  | .starred _ => "*" ++ get .value
  | .call => get .function ++ "(" ++ ", ".intercalate (all .argument ++ all .keyword) ++ ")"
  | .keyword (some name) => name ++ "=" ++ get .value
  | .keyword none => "**" ++ get .value
  | .constant c => c.literal
  | .joinedText => String.join (ws.map fun w =>
      match w.label with
      | .constant (.text s _) => doubleBraces s
      | _ => w.text)
  | .formattedValue conversion =>
    let value := get .value
    let value := if value.startsWith "\x7b" then " " ++ value else value
    let conversion := match conversion with
      | some c => "!" ++ String.singleton c
      | none => ""
    let format := match all .format with
      | f :: _ => ":" ++ f
      | [] => ""
    brace (value ++ conversion ++ format)
  | .tuple _ => tupleText (all .element)
  | .list _ => "[" ++ ", ".intercalate (all .element) ++ "]"
  | .set => brace (", ".intercalate (all .element))
  | .dict => brace (", ".intercalate (entryTexts (all .key) ws))
  | .unary op => op.sign.1 ++ get .operand
  | .binary op => get .left ++ " " ++ op.sign.1 ++ " " ++ get .right
  | .conjunction => " and ".intercalate (all .value)
  | .disjunction => " or ".intercalate (all .value)
  | .compare ops =>
    get .left ++ String.join ((ops.zip (all .comparator)).map fun (op, e) =>
      " " ++ op.sign ++ " " ++ e)
  | .conditional => get .body ++ " if " ++ get .test ++ " else " ++ get .orelse
  | .lambda =>
    let parameters := ws.filterMap fun w =>
      match w.label with
      | .parameter name kind hasDefault => some (name, kind, hasDefault)
      | _ => none
    let texts := parameterTexts (all .default) (all .keywordDefault) false parameters
    "lambda" ++ (if texts.isEmpty then "" else " " ++ ", ".intercalate texts) ++ ": " ++ get .body
  | .await => "await " ++ get .value
  | .yield => if ws.isEmpty then "yield" else "yield " ++ get .value
  | .yieldFrom => "yield from " ++ get .value
  | .walrus => get .target ++ " := " ++ get .value
  | .slice =>
    get .lower ++ ":" ++ get .upper ++
      (match all .step with
        | s :: _ => ":" ++ s
        | [] => "")
  | .comprehension kind =>
    let clauses := String.join (all .generator)
    match kind with
    | .list => "[" ++ get .element ++ clauses ++ "]"
    | .set => brace (get .element ++ clauses)
    | .dict => brace (get .key ++ ": " ++ get .value ++ clauses)
    | .generator => "(" ++ get .element ++ clauses ++ ")"
  | .clause isAsync =>
    (if isAsync then " async for " else " for ") ++ get .target ++ " in " ++ get .iterable ++
      String.join ((all .condition).map fun c => " if " ++ c)
  | _ => ""

/-- The text of an expression that stands where parts must bind at least as tightly as `binding`. -/
def Tree.textWithin (binding : Binding) (t : Tree) : String :=
  let ws := t.parts.attach.zipIdx.map fun (⟨(role, u), _⟩, place) =>
    (⟨role, u.label, u.textWithin (partBinding t.label role place)⟩ : Written)
  let text := compose t.label ws
  let text := match t.label with
    | .joinedText => if binding = .walrus then text else "f" ++ quoted text
    | _ => text
  let isEmptyTuple := match t.label with
    | .tuple _ => t.parts.isEmpty
    | _ => false
  match t.label.binding? with
  | some own => if own.rank < binding.rank || isEmptyTuple then "(" ++ text ++ ")" else text
  | none => text
termination_by sizeOf t
decreasing_by exact Tree.sizeOf_lt_of_mem_parts (by assumption)

/-- The canonical text of an expression. -/
def Tree.text (t : Tree) : String := t.textWithin .test

end Pseudonym.Python
