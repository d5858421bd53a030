import Pseudonym.Text.NormalTable
import Pseudonym.Text.StepTable

/-!
# Compatibility normalisation

Two spellings of an identifier are the same name when they agree after compatibility decomposition,
canonical ordering and canonical composition.
-/

namespace Pseudonym.Text

/-! ## Data -/

def decompositionMap : CodeMap (List Char) := CodeMap.ofText decompositionEntries

/-- Pairs that compose, keyed by both code points. -/
def compositionMap : CodeMap Char where
  entries := .ofEntries ((tableFields compositionEntries).filterMap fun field =>
    match field.splitOn ":" with
    | [pair, c] =>
      match pair.splitOn "+" with
      | [a, b] =>
        some (readHex a.toList * 0x200000 + readHex b.toList, Char.ofNat (readHex c.toList))
      | _ => none
    | _ => none)

def combiningTable : StepTable Nat where
  steps := .ofEntries ((tableFields combiningRuns).filterMap fun field =>
    match field.splitOn ":" with
    | [a, k] => some (readHex a.toList, readHex k.toList)
    | _ => none)

/-- The canonical combining class of a character. -/
def combiningClass (c : Char) : Nat :=
  if c.toNat < 128 then 0 else combiningTable.get c.toNat 0

/-! ## Hangul syllables -/

def hangulBase : Nat := 0xAC00
def hangulLeadBase : Nat := 0x1100
def hangulVowelBase : Nat := 0x1161
def hangulTailBase : Nat := 0x11A7

/-- A syllable as its letters. -/
def hangulLetters? (c : Char) : Option (List Char) :=
  let n := c.toNat
  if hangulBase ≤ n ∧ n < hangulBase + 11172 then
    let s := n - hangulBase
    let lead := Char.ofNat (hangulLeadBase + s / 588)
    let vowel := Char.ofNat (hangulVowelBase + s % 588 / 28)
    if s % 28 = 0 then some [lead, vowel]
    else some [lead, vowel, Char.ofNat (hangulTailBase + s % 28)]
  else none

/-- The syllable that two letters, or a syllable and a letter, form. -/
def hangulCompose? (a b : Char) : Option Char :=
  let x := a.toNat
  let y := b.toNat
  if hangulLeadBase ≤ x ∧ x < hangulLeadBase + 19 ∧
      hangulVowelBase ≤ y ∧ y < hangulVowelBase + 21 then
    some (Char.ofNat (hangulBase + ((x - hangulLeadBase) * 21 + (y - hangulVowelBase)) * 28))
  else if hangulBase ≤ x ∧ x < hangulBase + 11172 ∧ (x - hangulBase) % 28 = 0 ∧
      hangulTailBase < y ∧ y < hangulTailBase + 28 then
    some (Char.ofNat (x + (y - hangulTailBase)))
  else none

/-! ## The three steps -/

/-- The full compatibility decomposition of a character. -/
def decomposeChar (c : Char) : List Char :=
  if c.toNat < 128 then [c]
  else match hangulLetters? c with
    | some cs => cs
    | none => (decompositionMap.get? c.toNat).getD [c]

/-- Puts a combining mark in front of the marks of a higher class that end a reversed text. -/
def insertMark (c : Char) : List Char → List Char
  | [] => [c]
  | d :: rest =>
    if combiningClass c < combiningClass d then d :: insertMark c rest else c :: d :: rest

/-- Sorts each run of combining marks by class, keeping equal classes in order. -/
def orderMarks (cs : List Char) : List Char :=
  (cs.foldl (fun done c => if combiningClass c = 0 then c :: done else insertMark c done)
    []).reverse

/-- The character that two characters form. -/
def compose? (a b : Char) : Option Char :=
  match hangulCompose? a b with
  | some c => some c
  | none => compositionMap.get? (a.toNat * 0x200000 + b.toNat)

/-- The state of composition: text before the last starter (reversed), that starter, and the marks
after it that did not compose (reversed). -/
structure Composing where
  done : List Char
  starter : Option Char
  marks : List Char

/-- The text composed so far. -/
def Composing.text (s : Composing) : List Char :=
  s.done.reverse ++ s.starter.toList ++ s.marks.reverse

/-- Adds a character: it joins the last starter if they compose and no mark of its class or above,
and no starter, stands between. -/
def Composing.push (s : Composing) (c : Char) : Composing :=
  let k := combiningClass c
  let blocked := match s.marks.head? with
    | some m => decide (combiningClass m ≥ k)
    | none => false
  match (if blocked then none else s.starter.bind (compose? · c)) with
  | some joined => { s with starter := some joined }
  | none =>
    if k = 0 then ⟨s.marks ++ s.starter.toList ++ s.done, some c, []⟩
    else { s with marks := c :: s.marks }

/-- Canonical composition of a canonically ordered text. -/
def composeAll (cs : List Char) : List Char :=
  (cs.foldl Composing.push ⟨[], none, []⟩).text

/-- The compatibility-composed form of a text. -/
def normalize (s : String) : String :=
  if s.toList.all (·.toNat < 128) then s
  else String.ofList (composeAll (orderMarks (s.toList.flatMap decomposeChar)))

end Pseudonym.Text
