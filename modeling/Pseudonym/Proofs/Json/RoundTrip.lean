import Mathlib.Algebra.Group.Nat.Defs
import Mathlib.Data.List.Basic
import Mathlib.Data.List.TakeDrop
import Mathlib.Data.List.TakeWhile
import Pseudonym.Json.Reader
import Pseudonym.Json.Writer

/-!
# Written values are read back

What the writer makes of a value, the reader turns into the value again, whatever follows the text
(`readValue_pretty`). The one exception are integers with too many digits: the first of them in the
order of the text ends the reading (`overlong?`).
-/

namespace Pseudonym.Json

/-! ## Texts -/

theorem hexValue?_hexChar {d : Nat} (h : d < 16) : hexValue? (hexChar d) = some d := by
  have hall : ∀ d : Fin 16, hexValue? (hexChar d) = some d.val := by decide
  exact hall ⟨d, h⟩

/-- Four digits are read as the number that they were written from. -/
theorem readUnit_unitEscape {n : Nat} (h : n < 0x10000) (rest : List Char) :
    readUnit ((unitEscape n).drop 2 ++ rest) = some (n, rest) := by
  have hn : ((n / 4096 % 16 * 16 + n / 256 % 16) * 16 + n / 16 % 16) * 16 + n % 16 = n := by omega
  simp only [unitEscape, List.drop_succ_cons, List.drop_zero, List.cons_append, List.nil_append,
    readUnit, hexValue?_hexChar (Nat.mod_lt _ (by decide : 16 > 0)), bind, Option.bind, hn]

theorem toNat_lt (c : Char) : c.toNat < 0x110000 := by
  rcases c.valid with h | h
  · exact h.trans (by decide)
  · exact h.2

/-- A high and a low unit are read as the character that they are the halves of. -/
theorem readEscapedUnit_units {high low : Nat} (hhigh : 0xD800 ≤ high) (hhigh' : high < 0xDC00)
    (hlow : 0xDC00 ≤ low) (hlow' : low < 0xE000) (rest : List Char) :
    readEscapedUnit ((unitEscape high).drop 2 ++ (unitEscape low ++ rest)) =
      some (Char.ofNat (0x10000 + (high - 0xD800) * 0x400 + (low - 0xDC00)), rest) := by
  have hsecond : unitEscape low ++ rest = '\\' :: 'u' :: ((unitEscape low).drop 2 ++ rest) := rfl
  rw [readEscapedUnit, readUnit_unitEscape (by omega), hsecond]
  simp only [bind, Option.bind, readUnit_unitEscape (show low < 0x10000 by omega)]
  rw [if_pos ⟨hhigh, hhigh'⟩, if_pos ⟨hlow, hlow'⟩]

/-- A character outside the first plane is written as two escapes, which are read as one. -/
theorem readEscapedUnit_pair {c : Char} (h : 0x10000 ≤ c.toNat) (rest : List Char) :
    readEscapedUnit ((unitEscape (0xD800 + (c.toNat - 0x10000) / 0x400)).drop 2 ++
      (unitEscape (0xDC00 + (c.toNat - 0x10000) % 0x400) ++ rest)) = some (c, rest) := by
  have hlt := toNat_lt c
  generalize hhigh : 0xD800 + (c.toNat - 0x10000) / 0x400 = high
  generalize hlow : 0xDC00 + (c.toNat - 0x10000) % 0x400 = low
  have hc : 0x10000 + (high - 0xD800) * 0x400 + (low - 0xDC00) = c.toNat := by omega
  rw [readEscapedUnit_units (by omega) (by omega) (by omega) (by omega), hc, Char.ofNat_toNat]

/-- A character of the first plane is written as one escape. -/
theorem readEscapedUnit_single {c : Char} (h : c.toNat < 0x10000) (rest : List Char) :
    readEscapedUnit ((unitEscape c.toNat).drop 2 ++ rest) = some (c, rest) := by
  have hvalid : c.toNat < 0xD800 ∨ 0xDFFF < c.toNat := c.valid.imp id And.left
  rw [readEscapedUnit, readUnit_unitEscape h]
  simp only [bind, Option.bind]
  rw [if_neg (by omega), if_neg (by omega), Char.ofNat_toNat]

/-- A written character is read back as one character. -/
theorem readText_escapeChar (fuel : Nat) (c : Char) (rest : List Char) :
    readText (fuel + 1) (escapeChar c ++ rest) =
      (readText fuel rest).bind fun (text, after) => some (c :: text, after) := by
  unfold escapeChar
  split
  · next h => subst h; rfl
  split
  · next h => subst h; rfl
  split
  · next h => subst h; rfl
  split
  · next h => subst h; rfl
  split
  · next h => subst h; rfl
  split
  · next h => subst h; rfl
  split
  · next h => subst h; rfl
  next hquote hslash _ _ _ _ _ =>
  split
  · next h =>
    rw [List.singleton_append, readText.eq_def]
    simp only
    rw [if_neg hquote, if_neg (by omega), if_neg hslash]
    rfl
  have hopen (n : Nat) (more : List Char) : readText (fuel + 1) (unitEscape n ++ more) =
      (readEscapedUnit ((unitEscape n).drop 2 ++ more)).bind fun unit =>
        (readText fuel unit.2).bind fun text => some (unit.1 :: text.1, text.2) := rfl
  split
  · next hlt => rw [hopen, readEscapedUnit_single hlt]; rfl
  · next hge => rw [List.append_assoc, hopen, readEscapedUnit_pair (by omega)]; rfl

theorem escapeChar_ne_nil (c : Char) : escapeChar c ≠ [] := by
  unfold escapeChar unitEscape
  split_ifs <;> simp

theorem length_le_length_flatMap_escapeChar (cs : List Char) :
    cs.length ≤ (cs.flatMap escapeChar).length := by
  induction cs with
  | nil => exact Nat.le_refl 0
  | cons c cs ih =>
    have := List.length_pos_iff.2 (escapeChar_ne_nil c)
    simp only [List.flatMap_cons, List.length_append, List.length_cons]
    omega

/-- **A text between quotes is read back**, whatever characters it has. -/
theorem readText_flatMap_escapeChar {fuel : Nat} (cs rest : List Char) (h : cs.length < fuel) :
    readText fuel (cs.flatMap escapeChar ++ '"' :: rest) = some (cs, rest) := by
  induction cs generalizing fuel with
  | nil =>
    obtain ⟨fuel, rfl⟩ := Nat.exists_eq_add_of_lt h
    rfl
  | cons c cs ih =>
    obtain ⟨fuel, rfl⟩ : ∃ n, fuel = n + 1 := ⟨fuel - 1, by simp at h; omega⟩
    rw [List.flatMap_cons, List.append_assoc, readText_escapeChar, ih (by simpa using h)]
    rfl

theorem toList_quote (s : String) :
    (quote s).toList = '"' :: (s.toList.flatMap escapeChar ++ ['"']) := by
  simp [quote]

/-- A written text is read back by any reader that has come to its quote. -/
theorem readText_quote (s : String) (rest : List Char) :
    ∃ more, (quote s).toList ++ rest = '"' :: more ∧
      readText (more.length + 1) more = some (s.toList, rest) := by
  refine ⟨s.toList.flatMap escapeChar ++ '"' :: rest, by simp [toList_quote], ?_⟩
  refine readText_flatMap_escapeChar _ _ ?_
  have := length_le_length_flatMap_escapeChar s.toList
  simp only [List.length_append, List.length_cons]
  omega

/-! ## Numbers -/

/-- What may stand behind a number: nothing that the number could go on with. -/
def Stops (rest : List Char) : Prop :=
  ∀ c ∈ rest.head?, c.isDigit = false ∧ c ≠ '.' ∧ c ≠ 'e' ∧ c ≠ 'E'

theorem digitsValue_toDigits (n : Nat) : digitsValue (Nat.toDigits 10 n) = n :=
  Nat.ofDigitChars_toDigits (by decide) (by decide)

theorem isDigit_of_mem_toDigits {n : Nat} {c : Char} (h : c ∈ Nat.toDigits 10 n) :
    c.isDigit = true :=
  Nat.isDigit_of_mem_toDigits (by decide) (by decide) h

/-- Only zero starts with a zero. -/
theorem head?_toDigits {n : Nat} (h : 0 < n) : (Nat.toDigits 10 n).head? ≠ some '0' := by
  induction n using Nat.strong_induction_on with
  | _ n ih =>
    rw [Nat.toDigits_eq_if (by decide)]
    split
    · next hlt =>
      have hall : ∀ d : Fin 10, 0 < d.val → Nat.digitChar d.val ≠ '0' := by decide
      simpa using hall ⟨n, hlt⟩ h
    · next hge =>
      have hhead := ih (n / 10) (by omega) (by omega)
      rwa [List.head?_append_of_ne_nil _ Nat.toDigits_ne_nil]

theorem spanDigits_append {ds rest : List Char} (h : ∀ c ∈ ds, c.isDigit = true) (hrest : Stops rest) :
    spanDigits (ds ++ rest) = (ds, rest) := by
  have hnone : rest.takeWhile Char.isDigit = [] ∧ rest.dropWhile Char.isDigit = rest := by
    cases rest with
    | nil => exact ⟨rfl, rfl⟩
    | cons c rest =>
      have hc : c.isDigit = false := (hrest c rfl).1
      simp [hc]
  rw [spanDigits, List.span_eq_takeWhile_dropWhile, List.takeWhile_append_of_pos h,
    List.dropWhile_append_of_pos h, hnone.1, hnone.2, List.append_nil]

theorem takeWhole_toDigits (n : Nat) {rest : List Char} (hrest : Stops rest) :
    takeWhole (Nat.toDigits 10 n ++ rest) = (Nat.toDigits 10 n, rest) := by
  rcases Nat.eq_zero_or_pos n with rfl | hpos
  · rfl
  · have hdigits : ∀ c ∈ Nat.toDigits 10 n, c.isDigit = true := fun c => isDigit_of_mem_toDigits
    have hspan := spanDigits_append hdigits hrest
    have hhead := head?_toDigits hpos
    unfold takeWhole
    split
    · next more heq =>
      cases hds : Nat.toDigits 10 n with
      | nil => exact absurd hds Nat.toDigits_ne_nil
      | cons c ds =>
        rw [hds] at hhead heq
        exact absurd (List.cons.inj heq).1 (by simpa using hhead)
    · exact hspan

theorem takeFraction_of_stops {rest : List Char} (h : Stops rest) : takeFraction rest = ([], rest) := by
  unfold takeFraction
  split
  · next more => exact absurd rfl (h '.' rfl).2.1
  · rfl

theorem takeExponent_of_stops {rest : List Char} (h : Stops rest) : takeExponent rest = ([], rest) := by
  cases rest with
  | nil => rfl
  | cons e rest =>
    have hmark : ¬ (e = 'e' ∨ e = 'E') := not_or.2 (h e rfl).2.2
    rw [takeExponent.eq_def]
    exact if_neg hmark

/-- The sign of an integer. -/
def signText (n : Int) : List Char := if n < 0 then ['-'] else []

theorem toList_toString (n : Int) :
    (toString n).toList = signText n ++ Nat.toDigits 10 n.natAbs := by
  cases n with
  | ofNat n =>
    have hsign : signText (.ofNat n) = [] := if_neg (Int.not_lt.2 (Int.natCast_nonneg n))
    rw [hsign]
    exact Nat.toList_repr
  | negSucc n =>
    have hsign : signText (.negSucc n) = ['-'] := if_pos (Int.negSucc_lt_zero n)
    rw [hsign]
    have htext : (toString (Int.negSucc n)).toList = "-".toList ++ (n + 1).repr.toList :=
      String.toList_append
    rw [htext, Nat.toList_repr]
    rfl

/-- The digits of an integer, if they are more than are read. -/
def overlongInt? (n : Int) : Option Nat :=
  let digits := (Nat.toDigits 10 n.natAbs).length
  if Number.maxDigits < digits then some digits else none

theorem overlongInt?_eq_none {n : Int} :
    overlongInt? n = none ↔ n.natAbs < 10 ^ Number.maxDigits := by
  rw [overlongInt?, ← Nat.length_toDigits_le_iff (by decide) (by decide)]
  split
  · next h => simp [Nat.not_le.2 h]
  · next h => simp [Nat.not_lt.1 h]

/-- What reading gives, if an integer that is too long ends it. -/
def reading (overlong : Option Nat) (a : α) : Except ReadFault α :=
  match overlong with
  | none => .ok a
  | some digits => .error (.longInteger digits)

/-- What is left to do behind the sign of an integer. -/
theorem readNumber_of_sign {cs sign : List Char} {n : Nat} {rest : List Char} (hrest : Stops rest)
    (hsign : cs = sign ++ (Nat.toDigits 10 n ++ rest)) (hmark : sign = [] ∨ sign = ['-']) :
    readNumber cs = if Number.maxDigits < (Nat.toDigits 10 n).length then
        .error (.longInteger (Nat.toDigits 10 n).length)
      else .ok (.int (if sign.isEmpty then n else -n), rest) := by
  have hwhole := takeWhole_toDigits n hrest
  obtain ⟨c, ds, hds⟩ := List.exists_cons_of_ne_nil (Nat.toDigits_ne_nil (n := n) (b := 10))
  have hc : c.isDigit = true := isDigit_of_mem_toDigits (n := n) (by simp [hds])
  have hvalue := digitsValue_toDigits n
  rw [hds] at hsign hwhole hvalue ⊢
  rw [List.cons_append] at hwhole
  have htail := takeFraction_of_stops hrest
  have htail' := takeExponent_of_stops hrest
  subst hsign
  rcases hmark with rfl | rfl
  · have hnot : c ≠ '-' := by
      rintro rfl
      exact absurd hc (by decide)
    unfold readNumber
    simp [hnot, hwhole, htail, htail', hvalue]
  · unfold readNumber
    simp [hwhole, htail, htail', hvalue]

theorem readNumber_toString (n : Int) {rest : List Char} (hrest : Stops rest) :
    readNumber ((toString n).toList ++ rest) = reading (overlongInt? n) (.int n, rest) := by
  have htext : (toString n).toList ++ rest = signText n ++ (Nat.toDigits 10 n.natAbs ++ rest) := by
    rw [toList_toString, List.append_assoc]
  have hmark : signText n = [] ∨ signText n = ['-'] := by
    unfold signText
    split
    · exact .inr rfl
    · exact .inl rfl
  rw [readNumber_of_sign hrest htext hmark, overlongInt?]
  have hvalue : (if (signText n).isEmpty then (n.natAbs : Int) else -n.natAbs) = n := by
    unfold signText
    split
    · rw [List.isEmpty_cons, if_neg Bool.false_ne_true]
      omega
    · rw [List.isEmpty_nil, if_pos rfl]
      omega
  rw [hvalue]
  split <;> rfl

/-! ## Values -/

mutual

/-- A value that can be written without a loss: it has no decimals, which are kept as they were read,
and no object of it has a key twice. -/
def Plain : Json → Prop
  | .number (.decimal _) => False
  | .array items => PlainItems items
  | .object fields => (fields.map Prod.fst).Nodup ∧ PlainFields fields
  | _ => True

/-- Items without a loss. -/
def PlainItems : List Json → Prop
  | [] => True
  | v :: rest => Plain v ∧ PlainItems rest

/-- Fields without a loss. -/
def PlainFields : List (String × Json) → Prop
  | [] => True
  | (_, v) :: rest => Plain v ∧ PlainFields rest

end

mutual

/-- The digits of the first integer of a value that is too long, in the order of the text. -/
def overlong? : Json → Option Nat
  | .number (.integer n) => overlongInt? n
  | .array items => overlongItems? items
  | .object fields => overlongFields? fields
  | _ => none

/-- The digits of the first integer of some items that is too long. -/
def overlongItems? : List Json → Option Nat
  | [] => none
  | v :: rest => (overlong? v).or (overlongItems? rest)

/-- The digits of the first integer of some fields that is too long. -/
def overlongFields? : List (String × Json) → Option Nat
  | [] => none
  | (_, v) :: rest => (overlong? v).or (overlongFields? rest)

end

/-! ## Blanks -/

theorem skipGaps_append {g : List Char} (hg : ∀ c ∈ g, isGap c = true) (cs : List Char) :
    skipGaps (g ++ cs) = skipGaps cs := List.dropWhile_append_of_pos hg

theorem skipGaps_skipGaps (cs : List Char) : skipGaps (skipGaps cs) = skipGaps cs := by
  have hgaps : ∀ c ∈ cs.takeWhile isGap, isGap c = true := fun c hc => List.mem_takeWhile_imp hc
  have hsplit := skipGaps_append hgaps (cs.dropWhile isGap)
  rw [List.takeWhile_append_dropWhile] at hsplit
  exact hsplit.symm

theorem readValue_gap (fuel : Nat) {g : List Char} (hg : ∀ c ∈ g, isGap c = true) (cs : List Char) :
    readValue fuel (g ++ cs) = readValue fuel cs := by
  cases fuel with
  | zero => rfl
  | succ fuel => simp only [readValue, skipGaps_append hg]

theorem toList_lineBreak (level : Nat) :
    (lineBreak level).toList = '\n' :: List.replicate (2 * level) ' ' := by
  have hpush (s : String) (n : Nat) : (s.pushn ' ' n).toList = s.toList ++ List.replicate n ' ' := by
    induction n with
    | zero => simp [String.pushn, Nat.repeat]
    | succ n ih =>
      rw [String.pushn] at ih ⊢
      rw [Nat.repeat, String.toList_push, ih, List.append_assoc, ← List.replicate_succ']
  rw [lineBreak, String.toList_append, hpush]
  rfl

theorem isGap_of_mem_lineBreak {level : Nat} {c : Char} (h : c ∈ (lineBreak level).toList) :
    isGap c = true := by
  rw [toList_lineBreak, List.mem_cons, List.mem_replicate] at h
  rcases h with rfl | ⟨-, rfl⟩ <;> rfl

/-- The characters a written integer can start with. -/
theorem exists_toString_cons (n : Int) : ∃ c cs, (toString n).toList = c :: cs ∧
    (c.isDigit = true ∨ c = '-') := by
  rw [toList_toString]
  unfold signText
  split
  · exact ⟨'-', _, rfl, .inr rfl⟩
  · obtain ⟨c, ds, hds⟩ := List.exists_cons_of_ne_nil (Nat.toDigits_ne_nil (n := n.natAbs) (b := 10))
    exact ⟨c, ds, hds, .inl (isDigit_of_mem_toDigits (n := n.natAbs) (by simp [hds]))⟩

theorem not_gap_of_digit {c : Char} (h : c.isDigit = true ∨ c = '-') : isGap c = false ∧ c ≠ ']' := by
  constructor
  · by_contra hgap
    simp only [isGap, Bool.not_eq_false, Bool.or_eq_true, decide_eq_true_eq] at hgap
    obtain ((rfl | rfl) | rfl) | rfl := hgap <;> simp_all
  · rintro rfl
    simp_all

theorem toList_pretty_array (level : Nat) (v : Json) (rest : List Json) :
    (pretty level (.array (v :: rest))).toList =
      '[' :: ((prettyItems (level + 1) (v :: rest)).toList ++ ((lineBreak level).toList ++ [']'])) := by
  simp [pretty]

theorem toList_pretty_object (level : Nat) (f : String × Json) (rest : List (String × Json)) :
    (pretty level (.object (f :: rest))).toList =
      '\x7b' :: ((prettyFields (level + 1) (f :: rest)).toList ++
        ((lineBreak level).toList ++ ['\x7d'])) := by
  simp [pretty]

/-- What stands behind an item: the other items, each behind a comma. -/
def itemsBehind (level : Nat) : List Json → List Char
  | [] => []
  | v :: rest => ',' :: (prettyItems level (v :: rest)).toList

theorem toList_prettyItems (level : Nat) (v : Json) (rest : List Json) :
    (prettyItems level (v :: rest)).toList =
      (lineBreak level).toList ++ ((pretty level v).toList ++ itemsBehind level rest) := by
  cases rest <;> simp [prettyItems, itemsBehind]

/-- What stands behind a field: the other fields, each behind a comma. -/
def fieldsBehind (level : Nat) : List (String × Json) → List Char
  | [] => []
  | f :: rest => ',' :: (prettyFields level (f :: rest)).toList

theorem toList_prettyFields (level : Nat) (k : String) (v : Json) (rest : List (String × Json)) :
    (prettyFields level ((k, v) :: rest)).toList = (lineBreak level).toList ++
      ((quote k).toList ++ (':' :: ' ' :: ((pretty level v).toList ++ fieldsBehind level rest))) := by
  cases rest <;> simp [prettyFields, fieldsBehind]

/-- The characters a written value can start with. -/
theorem exists_pretty_cons {v : Json} (h : Plain v) (level : Nat) : ∃ c cs,
    (pretty level v).toList = c :: cs ∧ isGap c = false ∧ c ≠ ']' := by
  cases v with
  | null => exact ⟨'n', ['u', 'l', 'l'], by simp [pretty], rfl, by decide⟩
  | bool b =>
    cases b with
    | true => exact ⟨'t', ['r', 'u', 'e'], by simp [pretty], rfl, by decide⟩
    | false => exact ⟨'f', ['a', 'l', 's', 'e'], by simp [pretty], rfl, by decide⟩
  | string s => exact ⟨'"', _, by rw [pretty, toList_quote], rfl, by decide⟩
  | number n =>
    cases n with
    | decimal t => exact absurd h (by simp [Plain])
    | integer n =>
      obtain ⟨c, cs, htext, hc⟩ := exists_toString_cons n
      exact ⟨c, cs, by rw [pretty, numberText, htext], not_gap_of_digit hc⟩
  | array items =>
    cases items with
    | nil => exact ⟨'[', [']'], by simp [pretty], rfl, by decide⟩
    | cons v rest => exact ⟨'[', _, toList_pretty_array level v rest, rfl, by decide⟩
  | object fields =>
    cases fields with
    | nil => exact ⟨'\x7b', ['\x7d'], by simp [pretty], rfl, by decide⟩
    | cons f rest => exact ⟨'\x7b', _, toList_pretty_object level f rest, rfl, by decide⟩

/-! ## Reading what was written -/

theorem reading_bind {o o' : Option Nat} {a : α} {b : β} {f : α → Except ReadFault β}
    (h : f a = reading o' b) : (reading o a >>= f) = reading (o.or o') b := by
  cases o with
  | none => exact h
  | some digits => rfl

theorem stops_of_gaps {g : List Char} (hg : ∀ c ∈ g, isGap c = true) {c : Char} (hc : Stops [c])
    (rest : List Char) : Stops (g ++ c :: rest) := by
  intro d hd
  cases g with
  | nil => exact hc d hd
  | cons e g =>
    obtain rfl : e = d := by simpa using hd
    have he := hg e List.mem_cons_self
    simp only [isGap, Bool.or_eq_true, decide_eq_true_eq] at he
    obtain ((rfl | rfl) | rfl) | rfl := he <;> decide

theorem stops_comma (rest : List Char) : Stops (',' :: rest) := by
  rintro c ⟨⟩
  decide

theorem stops_itemsBehind (level : Nat) (vs : List Json) {g : List Char}
    (hg : ∀ c ∈ g, isGap c = true) (rest : List Char) :
    Stops (itemsBehind level vs ++ (g ++ ']' :: rest)) := by
  cases vs with
  | nil => exact stops_of_gaps hg (by rintro c ⟨⟩; decide) rest
  | cons v vs => exact stops_comma _

theorem stops_fieldsBehind (level : Nat) (fs : List (String × Json)) {g : List Char}
    (hg : ∀ c ∈ g, isGap c = true) (rest : List Char) :
    Stops (fieldsBehind level fs ++ (g ++ '\x7d' :: rest)) := by
  cases fs with
  | nil => exact stops_of_gaps hg (by rintro c ⟨⟩; decide) rest
  | cons f fs => exact stops_comma _

/-- No word starts like an integer. -/
theorem readValue_of_digit (fuel : Nat) {c : Char} (hc : c.isDigit = true) (sign : Bool)
    (cs : List Char) :
    readValue (fuel + 1) ((if sign then ['-'] else []) ++ c :: cs) =
      readNumber ((if sign then ['-'] else []) ++ c :: cs) := by
  have hne (d : Char) (hd : d.isDigit = false) : c ≠ d := by
    rintro rfl
    rw [hc] at hd
    cases hd
  have hgap : isGap c = false := (not_gap_of_digit (.inl hc)).1
  have hword (d : Char) (hd : d.isDigit = false) : d ≠ c := (hne d hd).symm
  cases sign with
  | false =>
    simp [readValue, skipGaps, hgap, constants, dropWord?, hne '"' rfl, hne '[' rfl, hne '\x7b' rfl,
      hword 'n' rfl, hword 't' rfl, hword 'f' rfl, hword 'N' rfl, hword 'I' rfl, hword '-' rfl]
  | true =>
    have hminus : isGap '-' = false := rfl
    simp [readValue, skipGaps, hminus, constants, dropWord?, hword 'I' rfl]

theorem readValue_toString (fuel : Nat) (n : Int) (rest : List Char) :
    readValue (fuel + 1) ((toString n).toList ++ rest) =
      readNumber ((toString n).toList ++ rest) := by
  obtain ⟨c, ds, hds⟩ := List.exists_cons_of_ne_nil (Nat.toDigits_ne_nil (n := n.natAbs) (b := 10))
  have hc : c.isDigit = true := isDigit_of_mem_toDigits (n := n.natAbs) (by simp [hds])
  have hsign : signText n = if decide (n < 0) then ['-'] else [] := by simp [signText]
  rw [toList_toString, hds, hsign, List.append_assoc, List.cons_append]
  exact readValue_of_digit fuel hc _ _

theorem readValue_skipGaps (fuel : Nat) (cs : List Char) :
    readValue fuel (skipGaps cs) = readValue fuel cs := by
  cases fuel with
  | zero => rfl
  | succ fuel => simp only [readValue, skipGaps_skipGaps]

theorem readItems_skipGaps (fuel n : Nat) (cs : List Char) :
    readItems (readValue fuel) n (skipGaps cs) = readItems (readValue fuel) n cs := by
  cases n with
  | zero => rfl
  | succ n => simp only [readItems, readValue_skipGaps]

theorem readFields_skipGaps (fuel n : Nat) (cs : List Char) :
    readFields (readValue fuel) n (skipGaps cs) = readFields (readValue fuel) n cs := by
  cases n with
  | zero => rfl
  | succ n => simp only [readFields, skipGaps_skipGaps]

theorem length_le_length_prettyItems (level : Nat) (vs : List Json) :
    vs.length ≤ (prettyItems level vs).toList.length := by
  induction vs with
  | nil => exact Nat.zero_le _
  | cons v vs ih =>
    have hbehind : vs.length ≤ (itemsBehind level vs).length := by
      cases vs with
      | nil => exact Nat.zero_le _
      | cons w vs => exact ih.trans (Nat.le_succ _)
    simp only [toList_prettyItems, toList_lineBreak, List.length_append, List.length_cons]
    omega

theorem length_le_length_prettyFields (level : Nat) (fs : List (String × Json)) :
    fs.length ≤ (prettyFields level fs).toList.length := by
  induction fs with
  | nil => exact Nat.zero_le _
  | cons f fs ih =>
    obtain ⟨k, v⟩ := f
    have hbehind : fs.length ≤ (fieldsBehind level fs).length := by
      cases fs with
      | nil => exact Nat.zero_le _
      | cons f fs => exact ih.trans (Nat.le_succ _)
    simp only [toList_prettyFields, toList_lineBreak, List.length_append, List.length_cons]
    omega

theorem skipGaps_bracket {g : List Char} (hg : ∀ c ∈ g, isGap c = true) (rest : List Char) :
    skipGaps (g ++ ']' :: rest) = ']' :: rest := by
  rw [skipGaps_append hg]
  rfl

theorem skipGaps_brace {g : List Char} (hg : ∀ c ∈ g, isGap c = true) (rest : List Char) :
    skipGaps (g ++ '\x7d' :: rest) = '\x7d' :: rest := by
  rw [skipGaps_append hg]
  rfl

theorem exists_prettyItems_cons {v : Json} (hv : Plain v) (level : Nat) (vs : List Json)
    (more : List Char) : ∃ c cs, skipGaps ((prettyItems level (v :: vs)).toList ++ more) = c :: cs ∧
      c ≠ ']' ∧ vs.length ≤ cs.length := by
  obtain ⟨c, cs, htext, hgap, hc⟩ := exists_pretty_cons hv level
  refine ⟨c, cs ++ (itemsBehind level vs ++ more), ?_, hc, ?_⟩
  · rw [toList_prettyItems, htext, List.append_assoc,
      skipGaps_append fun c => isGap_of_mem_lineBreak]
    simp [skipGaps, hgap]
  · have hbehind : vs.length ≤ (itemsBehind level vs).length := by
      cases vs with
      | nil => exact Nat.zero_le _
      | cons w vs => exact (length_le_length_prettyItems level (w :: vs)).trans (Nat.le_succ _)
    simp only [List.length_append]
    omega

theorem readValue_array {fuel : Nat} {cs : List Char} {c : Char} {more : List Char}
    (h : skipGaps cs = c :: more) (hc : c ≠ ']') :
    readValue (fuel + 1) ('[' :: cs) =
      (readItems (readValue fuel) (more.length + 2) cs >>= fun p => .ok (.array p.1, p.2)) := by
  have hopen : skipGaps ('[' :: cs) = '[' :: cs := rfl
  rw [← readItems_skipGaps, h, readValue, hopen]
  simp only [h]
  split
  · next heq => exact absurd (List.cons.inj heq).1 hc
  · rfl

theorem readValue_object {fuel : Nat} {cs : List Char} {c : Char} {more : List Char}
    (h : skipGaps cs = c :: more) (hc : c ≠ '\x7d') :
    readValue (fuel + 1) ('\x7b' :: cs) = (readFields (readValue fuel) (more.length + 2) cs >>=
      fun p => .ok (.object (mergeFields p.1), p.2)) := by
  have hopen : skipGaps ('\x7b' :: cs) = '\x7b' :: cs := rfl
  rw [← readFields_skipGaps, h, readValue, hopen]
  simp only [h]
  split
  · next heq => exact absurd (List.cons.inj heq).1 hc
  · rfl

theorem readValue_quote (fuel : Nat) (s : String) (rest : List Char) :
    readValue (fuel + 1) ((quote s).toList ++ rest) = .ok (.string s, rest) := by
  obtain ⟨more, htext, hread⟩ := readText_quote s rest
  have hopen : skipGaps ('"' :: more) = '"' :: more := rfl
  rw [htext, readValue, hopen]
  simp only [hread]
  exact congrArg (fun s => Except.ok (Json.string s, rest)) String.ofList_toList

/-! ## Objects -/

theorem setField_append {k : String} (v : Json) {done : List (String × Json)}
    (h : k ∉ done.map Prod.fst) : setField k v done = done ++ [(k, v)] := by
  induction done with
  | nil => rfl
  | cons f done ih =>
    obtain ⟨hne, hnot⟩ : k ≠ f.1 ∧ k ∉ done.map Prod.fst := by simpa using h
    rw [setField, if_neg (Ne.symm hne), ih hnot, List.cons_append]

/-- Fields with keys of their own stay as they are. -/
theorem mergeFields_of_nodup {fields : List (String × Json)} (h : (fields.map Prod.fst).Nodup) :
    mergeFields fields = fields := by
  have hfold (done : List (String × Json)) (hdone : ((done ++ fields).map Prod.fst).Nodup) :
      fields.foldl (fun done field => setField field.1 field.2 done) done = done ++ fields := by
    clear h
    induction fields generalizing done with
    | nil => simp
    | cons f fields ih =>
      obtain ⟨k, v⟩ := f
      have hsplit : done ++ (k, v) :: fields = done ++ [(k, v)] ++ fields := by simp
      have hnot : k ∉ done.map Prod.fst := by
        rw [List.map_append, List.nodup_append] at hdone
        exact fun hmem => hdone.2.2 _ hmem _ List.mem_cons_self rfl
      rw [List.foldl_cons]
      dsimp only
      rw [setField_append v hnot, ih _ (hsplit ▸ hdone), hsplit]
  exact hfold [] h

theorem exists_prettyFields_cons (level : Nat) (k : String) (v : Json) (fs : List (String × Json))
    (more : List Char) : ∃ cs, skipGaps ((prettyFields level ((k, v) :: fs)).toList ++ more) = '"' :: cs ∧
      fs.length ≤ cs.length := by
  have hbehind : fs.length ≤ (fieldsBehind level fs).length := by
    cases fs with
    | nil => exact Nat.zero_le _
    | cons f fs => exact (length_le_length_prettyFields level (f :: fs)).trans (Nat.le_succ _)
  rw [toList_prettyFields, List.append_assoc, skipGaps_append fun c => isGap_of_mem_lineBreak,
    toList_quote, List.cons_append, List.cons_append]
  refine ⟨_, rfl, ?_⟩
  simp only [List.length_append, List.length_cons]
  omega

theorem length_prettyItems_le (level : Nat) {vs : List Json} (h : vs ≠ []) :
    (prettyItems level vs).toList.length ≤ (itemsBehind level vs).length := by
  cases vs with
  | nil => exact absurd rfl h
  | cons v vs => exact Nat.le_succ _

theorem length_prettyFields_le (level : Nat) {fs : List (String × Json)} (h : fs ≠ []) :
    (prettyFields level fs).toList.length ≤ (fieldsBehind level fs).length := by
  cases fs with
  | nil => exact absurd rfl h
  | cons f fs => exact Nat.le_succ _

/-- A list of values is read back item by item. -/
theorem readItems_cons {fuel n level : Nat} {v : Json} {vs : List Json} {g rest : List Char}
    {o : Option Nat} (hg : ∀ c ∈ g, isGap c = true)
    (hvalue : readValue fuel
      ((pretty level v).toList ++ (itemsBehind level vs ++ (g ++ ']' :: rest))) =
        reading o (v, itemsBehind level vs ++ (g ++ ']' :: rest)))
    (hitems : vs ≠ [] → readItems (readValue fuel) n
      ((prettyItems level vs).toList ++ (g ++ ']' :: rest)) =
        reading (overlongItems? vs) (vs, rest)) :
    readItems (readValue fuel) (n + 1)
        ((prettyItems level (v :: vs)).toList ++ (g ++ ']' :: rest)) =
      reading (o.or (overlongItems? vs)) (v :: vs, rest) := by
  rw [toList_prettyItems, List.append_assoc, List.append_assoc, readItems,
    readValue_gap _ (fun c => isGap_of_mem_lineBreak), hvalue]
  refine reading_bind ?_
  cases vs with
  | nil =>
    simp only [itemsBehind, List.nil_append, skipGaps_bracket hg]
    rfl
  | cons w vs =>
    have hcomma : skipGaps (itemsBehind level (w :: vs) ++ (g ++ ']' :: rest)) =
        ',' :: ((prettyItems level (w :: vs)).toList ++ (g ++ ']' :: rest)) := rfl
    simp only [hcomma, hitems (List.cons_ne_nil w vs)]
    cases overlongItems? (w :: vs) <;> rfl

/-- The key of a field is read, and what follows decides. -/
theorem readFields_key (fuel n level : Nat) (k : String) (cs : List Char) :
    readFields (readValue fuel) (n + 1)
        ((lineBreak level).toList ++ ((quote k).toList ++ ':' :: ' ' :: cs)) =
      (readValue fuel cs >>= fun (v, rest) =>
        match skipGaps rest with
        | ',' :: rest => readFields (readValue fuel) n rest >>= fun (fs, rest) =>
          .ok ((k, v) :: fs, rest)
        | '\x7d' :: rest => .ok ([(k, v)], rest)
        | _ => .error .malformed) := by
  obtain ⟨more, hquote, hkey⟩ := readText_quote k (':' :: ' ' :: cs)
  have hskip : skipGaps ((lineBreak level).toList ++ ((quote k).toList ++ ':' :: ' ' :: cs)) =
      '"' :: more := by
    rw [hquote, skipGaps_append fun c => isGap_of_mem_lineBreak]
    rfl
  have hblank : ∀ c ∈ [' '], isGap c = true := by simp [isGap]
  have hvalue : readValue fuel (' ' :: cs) = readValue fuel cs := readValue_gap fuel hblank cs
  have hcolon : skipGaps (':' :: ' ' :: cs) = ':' :: ' ' :: cs := rfl
  rw [readFields]
  simp only [hskip, hkey, ReadFault.orMalformed, bind, Except.bind, hcolon, hvalue,
    String.ofList_toList]
  rfl

/-- Fields are read back one after another. -/
theorem readFields_cons {fuel n level : Nat} {k : String} {v : Json} {fs : List (String × Json)}
    {g rest : List Char} {o : Option Nat} (hg : ∀ c ∈ g, isGap c = true)
    (hvalue : readValue fuel
      ((pretty level v).toList ++ (fieldsBehind level fs ++ (g ++ '\x7d' :: rest))) =
        reading o (v, fieldsBehind level fs ++ (g ++ '\x7d' :: rest)))
    (hfields : fs ≠ [] → readFields (readValue fuel) n
      ((prettyFields level fs).toList ++ (g ++ '\x7d' :: rest)) =
        reading (overlongFields? fs) (fs, rest)) :
    readFields (readValue fuel) (n + 1)
        ((prettyFields level ((k, v) :: fs)).toList ++ (g ++ '\x7d' :: rest)) =
      reading (o.or (overlongFields? fs)) ((k, v) :: fs, rest) := by
  have htext : (prettyFields level ((k, v) :: fs)).toList ++ (g ++ '\x7d' :: rest) =
      (lineBreak level).toList ++ ((quote k).toList ++ ':' :: ' ' ::
        ((pretty level v).toList ++ (fieldsBehind level fs ++ (g ++ '\x7d' :: rest)))) := by
    rw [toList_prettyFields]
    simp only [List.append_assoc, List.cons_append]
  rw [htext, readFields_key, hvalue]
  refine reading_bind ?_
  cases fs with
  | nil =>
    simp only [fieldsBehind, List.nil_append, skipGaps_brace hg]
    rfl
  | cons f fs =>
    have hcomma : skipGaps (fieldsBehind level (f :: fs) ++ (g ++ '\x7d' :: rest)) =
        ',' :: ((prettyFields level (f :: fs)).toList ++ (g ++ '\x7d' :: rest)) := rfl
    simp only [hcomma, hfields (List.cons_ne_nil f fs)]
    cases overlongFields? (f :: fs) <;> rfl

/-- An array is read back as its items are. -/
theorem readValue_array_of_items {fuel level : Nat} {v : Json} {vs : List Json} {rest : List Char}
    (hv : Plain v) (hitems : ∀ n, (v :: vs).length ≤ n → readItems (readValue fuel) n
      ((prettyItems (level + 1) (v :: vs)).toList ++ ((lineBreak level).toList ++ ']' :: rest)) =
        reading (overlongItems? (v :: vs)) (v :: vs, rest)) :
    readValue (fuel + 1) ((pretty level (.array (v :: vs))).toList ++ rest) =
      reading (overlongItems? (v :: vs)) (.array (v :: vs), rest) := by
  rw [toList_pretty_array, List.cons_append, List.append_assoc, List.append_assoc,
    List.singleton_append]
  obtain ⟨c, more, hskip, hc, hlength⟩ := exists_prettyItems_cons hv (level + 1) vs
    ((lineBreak level).toList ++ ']' :: rest)
  have hmore : (v :: vs).length ≤ more.length + 2 := by
    rw [List.length_cons]
    omega
  rw [readValue_array hskip hc, hitems _ hmore]
  cases overlongItems? (v :: vs) <;> rfl

/-- An object with keys of its own is read back as its fields are. -/
theorem readValue_object_of_fields {fuel level : Nat} {f : String × Json}
    {fs : List (String × Json)} {rest : List Char} (hkeys : ((f :: fs).map Prod.fst).Nodup)
    (hfields : ∀ n, (f :: fs).length ≤ n → readFields (readValue fuel) n
      ((prettyFields (level + 1) (f :: fs)).toList ++ ((lineBreak level).toList ++ '\x7d' :: rest)) =
        reading (overlongFields? (f :: fs)) (f :: fs, rest)) :
    readValue (fuel + 1) ((pretty level (.object (f :: fs))).toList ++ rest) =
      reading (overlongFields? (f :: fs)) (.object (f :: fs), rest) := by
  obtain ⟨k, v⟩ := f
  rw [toList_pretty_object, List.cons_append, List.append_assoc, List.append_assoc,
    List.singleton_append]
  obtain ⟨more, hskip, hlength⟩ := exists_prettyFields_cons (level + 1) k v fs
    ((lineBreak level).toList ++ '\x7d' :: rest)
  have hmore : ((k, v) :: fs).length ≤ more.length + 2 := by
    rw [List.length_cons]
    omega
  rw [readValue_object hskip (by decide), hfields _ hmore]
  cases overlongFields? ((k, v) :: fs) with
  | none => exact congrArg (fun fs => Except.ok (Json.object fs, rest)) (mergeFields_of_nodup hkeys)
  | some digits => rfl

/-- A value without parts is read back. -/
theorem readValue_word (fuel level : Nat) (rest : List Char) :
    readValue (fuel + 1) ((pretty level .null).toList ++ rest) = .ok (.null, rest) ∧
      (∀ b, readValue (fuel + 1) ((pretty level (.bool b)).toList ++ rest) = .ok (.bool b, rest)) ∧
      readValue (fuel + 1) ((pretty level (.array [])).toList ++ rest) = .ok (.array [], rest) ∧
      readValue (fuel + 1) ((pretty level (.object [])).toList ++ rest) = .ok (.object [], rest) := by
  refine ⟨?_, fun b => ?_, ?_, ?_⟩
  · simp [pretty, readValue, skipGaps, isGap, constants, dropWord?]
    rfl
  · cases b <;> simp [pretty, readValue, skipGaps, isGap, constants, dropWord?] <;> rfl
  · simp [pretty, readValue, skipGaps, isGap]
    rfl
  · simp [pretty, readValue, skipGaps, isGap]
    rfl

mutual

/-- **A written value is read back**, unless an integer of it is too long. -/
theorem readValue_pretty (v : Json) (hv : Plain v) (level : Nat) {fuel : Nat} {rest : List Char}
    (hfuel : (pretty level v).toList.length ≤ fuel) (hrest : Stops rest) :
    readValue fuel ((pretty level v).toList ++ rest) = reading (overlong? v) (v, rest) := by
  obtain ⟨c, cs, htext, -, -⟩ := exists_pretty_cons hv level
  obtain ⟨fuel, rfl⟩ : ∃ n, fuel = n + 1 := by
    rw [htext, List.length_cons] at hfuel
    exact ⟨fuel - 1, by omega⟩
  match v with
  | .null => exact (readValue_word fuel level rest).1
  | .bool b => exact (readValue_word fuel level rest).2.1 b
  | .string s => exact readValue_quote fuel s rest
  | .number (.decimal t) => exact absurd hv (by simp [Plain])
  | .number (.integer n) =>
    rw [pretty, numberText, readValue_toString]
    exact readNumber_toString n hrest
  | .array [] => exact (readValue_word fuel level rest).2.2.1
  | .object [] => exact (readValue_word fuel level rest).2.2.2
  | .array (v :: vs) =>
    have hvs : PlainItems (v :: vs) := hv
    rw [toList_pretty_array, List.length_cons, List.length_append] at hfuel
    exact readValue_array_of_items hvs.1 fun n hn =>
      readItems_pretty (v :: vs) hvs (level + 1) (by omega) hn fun c => isGap_of_mem_lineBreak
  | .object (f :: fs) =>
    obtain ⟨hkeys, hfs⟩ : ((f :: fs).map Prod.fst).Nodup ∧ PlainFields (f :: fs) := hv
    rw [toList_pretty_object, List.length_cons, List.length_append] at hfuel
    exact readValue_object_of_fields hkeys fun n hn =>
      readFields_pretty (f :: fs) hfs (level + 1) (by omega) hn fun c => isGap_of_mem_lineBreak

theorem readItems_pretty (vs : List Json) (hvs : PlainItems vs) (level : Nat) {fuel n : Nat}
    {g rest : List Char} (hfuel : (prettyItems level vs).toList.length ≤ fuel) (hn : vs.length ≤ n)
    (hg : ∀ c ∈ g, isGap c = true) (hne : vs ≠ [] := by simp) :
    readItems (readValue fuel) n ((prettyItems level vs).toList ++ (g ++ ']' :: rest)) =
      reading (overlongItems? vs) (vs, rest) := by
  match vs with
  | [] => exact absurd rfl hne
  | v :: vs =>
    obtain ⟨n, rfl⟩ : ∃ m, n = m + 1 := ⟨n - 1, by rw [List.length_cons] at hn; omega⟩
    rw [toList_prettyItems, List.length_append, List.length_append] at hfuel
    refine readItems_cons hg (readValue_pretty v hvs.1 level (by omega) (stops_itemsBehind level vs hg rest))
      fun hne => readItems_pretty vs hvs.2 level ?_ (Nat.le_of_succ_le_succ hn) hg hne
    exact (length_prettyItems_le level hne).trans (by omega)

theorem readFields_pretty (fs : List (String × Json)) (hfs : PlainFields fs) (level : Nat)
    {fuel n : Nat} {g rest : List Char} (hfuel : (prettyFields level fs).toList.length ≤ fuel)
    (hn : fs.length ≤ n) (hg : ∀ c ∈ g, isGap c = true) (hne : fs ≠ [] := by simp) :
    readFields (readValue fuel) n ((prettyFields level fs).toList ++ (g ++ '\x7d' :: rest)) =
      reading (overlongFields? fs) (fs, rest) := by
  match fs with
  | [] => exact absurd rfl hne
  | (k, v) :: fs =>
    obtain ⟨n, rfl⟩ : ∃ m, n = m + 1 := ⟨n - 1, by rw [List.length_cons] at hn; omega⟩
    rw [toList_prettyFields] at hfuel
    simp only [List.length_append, List.length_cons] at hfuel
    refine readFields_cons hg
      (readValue_pretty v hfs.1 level (by omega) (stops_fieldsBehind level fs hg rest))
      fun hne => readFields_pretty fs hfs.2 level ?_ (Nat.le_of_succ_le_succ hn) hg hne
    exact (length_prettyFields_le level hne).trans (by omega)

end

/-- **A whole text is read back**, unless an integer of the value is too long. -/
theorem parse_pretty {v : Json} (hv : Plain v) :
    parse (pretty 0 v) = reading (overlong? v) v := by
  have hread : readValue ((pretty 0 v).toList.length + 1) (pretty 0 v).toList =
      reading (overlong? v) (v, []) := by
    have hstops : Stops [] := by rintro c ⟨⟩
    simpa using readValue_pretty v hv 0 (Nat.le_succ _) hstops
  rw [parse, hread]
  cases overlong? v <;> rfl

/-! ## Texts that break off -/

theorem toList_prettyFieldsBefore_nil (level : Nat) (key : String) :
    (prettyFieldsBefore level key []).toList =
      (lineBreak level).toList ++ ((quote key).toList ++ ':' :: ' ' :: []) := by
  simp [prettyFieldsBefore]

theorem toList_prettyFieldsBefore_cons (level : Nat) (key k : String) (v : Json)
    (fs : List (String × Json)) : (prettyFieldsBefore level key ((k, v) :: fs)).toList =
      (lineBreak level).toList ++ ((quote k).toList ++ ':' :: ' ' ::
        ((pretty level v).toList ++ ',' :: (prettyFieldsBefore level key fs).toList)) := by
  simp [prettyFieldsBefore]

/-- Fields that break off before a value are no fields. -/
theorem readFields_before {fuel n level : Nat} {key : String} {fs : List (String × Json)}
    (hplain : PlainFields fs) (hfits : overlongFields? fs = none)
    (hfuel : (prettyFieldsBefore level key fs).toList.length ≤ fuel) :
    readFields (readValue fuel) n (prettyFieldsBefore level key fs).toList = .error .malformed := by
  induction fs generalizing n with
  | nil =>
    cases n with
    | zero => rfl
    | succ n =>
      have hvalue : readValue fuel [] = .error .malformed := by cases fuel <;> rfl
      rw [toList_prettyFieldsBefore_nil, readFields_key, hvalue]
      rfl
  | cons f fs ih =>
    obtain ⟨k, v⟩ := f
    cases n with
    | zero => rfl
    | succ n =>
      rw [toList_prettyFieldsBefore_cons] at hfuel ⊢
      simp only [List.length_append, List.length_cons] at hfuel
      obtain ⟨hv, hfs⟩ : overlong? v = none ∧ overlongFields? fs = none := by
        simpa [overlongFields?] using hfits
      rw [readFields_key, readValue_pretty v hplain.1 level (by omega) (stops_comma _), hv]
      have hcomma (cs : List Char) : skipGaps (',' :: cs) = ',' :: cs := rfl
      have hrest := ih (n := n) hplain.2 hfs (by omega)
      simp only [reading, bind, Except.bind, hcomma, hrest]

/-- **A text that breaks off before a value is not read.** -/
theorem parse_before {key : String} {fs : List (String × Json)} (hplain : PlainFields fs)
    (hfits : overlongFields? fs = none) :
    parse ("\x7b" ++ prettyFieldsBefore 1 key fs) = .error .malformed := by
  obtain ⟨c, more, hskip, hc⟩ : ∃ c more,
      skipGaps (prettyFieldsBefore 1 key fs).toList = c :: more ∧ c ≠ '\x7d' := by
    cases fs with
    | nil =>
      rw [toList_prettyFieldsBefore_nil, skipGaps_append fun c => isGap_of_mem_lineBreak, toList_quote]
      exact ⟨'"', _, rfl, by decide⟩
    | cons f fs =>
      rw [toList_prettyFieldsBefore_cons, skipGaps_append fun c => isGap_of_mem_lineBreak,
        toList_quote]
      exact ⟨'"', _, rfl, by decide⟩
  have htext : ("\x7b" ++ prettyFieldsBefore 1 key fs).toList =
      '\x7b' :: (prettyFieldsBefore 1 key fs).toList := by simp
  rw [parse, htext]
  simp only
  rw [readValue_object hskip hc, readFields_before hplain hfits (by simp)]
  rfl

end Pseudonym.Json
