import Mathlib.Data.List.Basic
import Mathlib.Data.List.Find
import Mathlib.Data.List.TakeWhile
import Pseudonym.Python.Lexeme

/-!
# The pieces of a line

A piece takes characters off the front of a line and leaves the rest (`piece?_split`). Numbers,
operators and words look no further than the next blank, comment or line end, and a string looks
no further than its closing quote. So a piece in front of a trailing comment is the same piece when
the line ends there instead, unless it takes in the mark of the comment (`piece?_cut`).
-/

namespace Pseudonym.Python.Scan

open Text

/-! ## Marks that end a word -/

/-- The characters at which a number, an operator and a word end, whatever follows. -/
def isStop (c : Char) : Bool := isGap c || c = '#' || c = '\n'

/-- Characters that start with a stop. -/
def Stops (w : List Char) : Prop := ∃ c rest, w = c :: rest ∧ isStop c

theorem Stops.head {w : List Char} (h : Stops w) {p : Char → Bool}
    (hp : [' ', '\t', '\x0c', '#', '\n'].all fun c => !p c) : ∃ c rest, w = c :: rest ∧ p c = false := by
  obtain ⟨c, rest, rfl, hc⟩ := h
  simp only [List.all_cons, Bool.and_eq_true, Bool.not_eq_true', List.all_nil] at hp
  refine ⟨c, rest, rfl, ?_⟩
  simp only [isStop, isGap, Bool.or_eq_true, decide_eq_true_eq] at hc
  obtain (((rfl | rfl) | rfl) | rfl) | rfl := hc
  exacts [hp.1, hp.2.1, hp.2.2.1, hp.2.2.2.1, hp.2.2.2.2.1]

theorem stops_newline : Stops ['\n'] := ⟨'\n', [], rfl, rfl⟩

theorem stops_gap {g z : List Char} (hg : ∀ c ∈ g, isGap c) : Stops (g ++ '#' :: z) := by
  cases g with
  | nil => exact ⟨'#', z, rfl, rfl⟩
  | cons c g => exact ⟨c, g ++ '#' :: z, rfl, by simp [isStop, hg c]⟩

/-- What was read and what follows, with more behind it. -/
def follow (w : List Char) (found : List Char × List Char) : List Char × List Char :=
  (found.1, found.2 ++ w)

/-! ## Numbers -/

theorem moreDigits_split (isDigit : Char → Bool) (cs : List Char) :
    (moreDigits isDigit cs).1 ++ (moreDigits isDigit cs).2 = cs := by
  fun_induction moreDigits isDigit cs with
  | case1 c rest hc ds more hm ih => simpa [hm] using ih
  | case2 c rest hc => rfl
  | case3 c rest hrest hc ds more hm ih => simpa [hm] using ih
  | case4 c rest hrest hc => rfl
  | case5 => rfl

theorem moreDigits_append (isDigit : Char → Bool) (hbar : isDigit '_' = false)
    (hp : [' ', '\t', '\x0c', '#', '\n'].all fun c => !isDigit c)
    {w : List Char} (hw : Stops w) (v : List Char) :
    moreDigits isDigit (v ++ w) = follow w (moreDigits isDigit v) := by
  obtain ⟨x, y, rfl, hx⟩ := hw.head (p := fun c => isDigit c || c = '_') (by simpa using hp)
  obtain ⟨hx, hxbar⟩ : isDigit x = false ∧ x ≠ '_' := by simpa using hx
  fun_induction moreDigits isDigit v with
  | case1 c rest hc ds more hm ih =>
    simp [moreDigits, hc, ih, hm, follow]
  | case2 c rest hc => simp [moreDigits, hc, follow]
  | case3 c rest hrest hc ds more hm ih =>
    have hne : c ≠ '_' := by rintro rfl; simp [hbar] at hc
    rw [List.cons_append, moreDigits, if_pos hc, ih]
    · simp [hm, follow]
    · rintro d more rfl
      exact absurd rfl hne
  | case4 c rest hrest hc =>
    by_cases hu : c = '_'
    · subst hu
      cases rest with
      | nil => simp [moreDigits, hx, follow]
      | cons d rest => exact absurd rfl (hrest d rest rfl)
    · rw [List.cons_append, moreDigits, if_neg hc]
      · rfl
      · rintro d more rfl
        exact absurd rfl hu
  | case5 => simp [moreDigits, hx, hxbar, follow]

theorem digits_split (cs : List Char) : (digits cs).1 ++ (digits cs).2 = cs := by
  unfold digits
  split
  · split
    · simp [moreDigits_split]
    · rfl
  · rfl

theorem digits_append {w : List Char} (hw : Stops w) (v : List Char) :
    digits (v ++ w) = follow w (digits v) := by
  cases v with
  | nil =>
    obtain ⟨x, y, rfl, hx⟩ := hw.head (p := Char.isDigit) (by decide)
    simp [digits, hx, follow]
  | cons c rest =>
    simp only [digits, List.cons_append]
    split
    · simp [moreDigits_append Char.isDigit (by decide) (by decide) hw, follow]
    · rfl


theorem exponent_split (cs : List Char) : (exponent cs).1 ++ (exponent cs).2 = cs := by
  rcases cs with _ | ⟨e, _ | ⟨d, rest⟩⟩
  · rfl
  · simp [exponent, digits]
  · have hd := digits_split (d :: rest)
    have hr := digits_split rest
    simp only [exponent]
    grind

theorem exponent_append {w : List Char} (hw : Stops w) (v : List Char) :
    exponent (v ++ w) = follow w (exponent v) := by
  obtain ⟨x, y, rfl, hx⟩ := hw.head (p := fun c => c ∈ ['e', 'E', '+', '-'] || c.isDigit) (by decide)
  rcases v with _ | ⟨e, _ | ⟨d, rest⟩⟩
  · simp at hx
    simp [exponent, hx, follow]
  · simp at hx
    simp [exponent, digits, hx, follow]
  · have hd := digits_append hw (d :: rest)
    have hr := digits_append hw rest
    simp only [exponent, follow] at *
    grind

theorem float?_split {cs taken rest : List Char} (h : float? cs = some (taken, rest)) :
    taken ++ rest = cs ∧ taken ≠ [] := by
  have hd := digits_split cs
  simp only [float?] at h
  split at h
  next after heq =>
    have hf := digits_split after
    split at h
    · cases h
    next ds more hne hds =>
      have he := exponent_split more
      grind
  next => cases h
  next whole after hne heq =>
    have hf := digits_split after
    have he := exponent_split (digits after).2
    simp only [Option.some.injEq, Prod.mk.injEq] at h
    obtain ⟨rfl, rfl⟩ := h
    rw [heq] at hd
    refine ⟨?_, by simp⟩
    rw [← hd, List.append_assoc, he, List.append_assoc, List.cons_append, hf]
  next whole after hempty hne hdot heq =>
    have he := exponent_split after
    split at h
    · cases h
    next e more hexp heq' =>
      simp only [Option.some.injEq, Prod.mk.injEq] at h
      obtain ⟨rfl, rfl⟩ := h
      refine ⟨?_, fun hnil => hne (List.append_eq_nil_iff.1 hnil).1⟩
      rw [heq'] at he
      rw [← hd, heq, List.append_assoc, he]

theorem float?_append {w : List Char} (hw : Stops w) (v : List Char) :
    float? (v ++ w) = (float? v).map (follow w) := by
  have hd := digits_append hw
  have he := exponent_append hw
  obtain ⟨x, y, rfl, hx⟩ := hw.head (p := (· = '.')) (by decide)
  simp only [decide_eq_false_iff_not] at hx
  rcases h : digits v with ⟨_ | ⟨a, ds⟩, _ | ⟨b, rest⟩⟩
  · simp [float?, hd, h, hx, follow]
  · by_cases hb : b = '.'
    · subst hb
      rcases h' : digits rest with ⟨_ | ⟨d, fraction⟩, more⟩
      · simp [float?, hd, h, h', follow]
      · simp [float?, hd, he, h, h', follow]
    · simp [float?, hd, h, hb, follow]
  · have hexp : exponent (x :: y) = ([], x :: y) := by simpa [follow, exponent] using he []
    have hnil : exponent [] = ([], []) := rfl
    simp [float?, hd, h, hx, hexp, hnil, follow]
  · by_cases hb : b = '.'
    · subst hb
      simp [float?, hd, he, h, follow]
    · have hexp : exponent (b :: (rest ++ x :: y)) = follow (x :: y) (exponent (b :: rest)) := he (b :: rest)
      rcases h' : exponent (b :: rest) with ⟨_ | ⟨d, fraction⟩, more⟩
      · simp [float?, hd, h, hb, hexp, h', follow]
      · simp [float?, hd, h, hb, hexp, h', follow]

theorem imaginary?_split {found : List Char × List Char} {taken rest : List Char}
    (h : imaginary? found = some (taken, rest)) : taken ++ rest = found.1 ++ found.2 ∧ taken ≠ [] := by
  unfold imaginary? at h
  split at h
  all_goals
    cases h
    try simp

theorem imaginary?_follow {w : List Char} (hw : Stops w) (found : List Char × List Char) :
    imaginary? (follow w found) = (imaginary? found).map (follow w) := by
  obtain ⟨x, y, rfl, hx⟩ := hw.head (p := fun c => c = 'j' || c = 'J') (by decide)
  simp at hx
  obtain ⟨ds, _ | ⟨c, rest⟩⟩ := found
  · simp [imaginary?, follow, hx]
  · by_cases hj : c = 'j'
    · simp [imaginary?, follow, hj]
    · by_cases hJ : c = 'J'
      · simp [imaginary?, follow, hJ]
      · simp [imaginary?, follow, hj, hJ]

theorem whole?_split {cs taken rest : List Char} (h : whole? cs = some (taken, rest)) :
    taken ++ rest = cs ∧ taken ≠ [] := by
  unfold whole? at h
  split at h
  next m after =>
    have hzeros := moreDigits_split (· = '0') (m :: after)
    have hx := moreDigits_split (fun c => (hexDigit? c.toLower).isSome) after
    have hb := moreDigits_split (fun c => c = '0' || c = '1') after
    have ho := moreDigits_split (fun c => '0' ≤ c && c ≤ '7') after
    grind
  next =>
    cases h
    simp
  next =>
    have hd := digits_split cs
    grind

theorem whole?_of_head {cs : List Char} (h : cs.head? ≠ some '0') :
    whole? cs = if (digits cs).1 = [] then none else some (digits cs) := by
  unfold whole?
  split
  · simp at h
  · simp at h
  · split
    next hd => simp [hd]
    next hne => rw [if_neg fun hnil => hne (digits cs).2 (by rw [← hnil])]

theorem whole?_append {w : List Char} (hw : Stops w) (v : List Char) :
    whole? (v ++ w) = (whole? v).map (follow w) := by
  have hd := digits_append hw v
  by_cases hz : v.head? = some '0'
  · obtain ⟨rest, rfl⟩ : ∃ rest, v = '0' :: rest := by
      cases v with
      | nil => simp at hz
      | cons c rest => exact ⟨rest, by simpa using hz⟩
    cases rest with
    | nil =>
      obtain ⟨x, y, rfl, hx⟩ := hw.head
        (p := fun c => c ∈ ['x', 'X', 'b', 'B', 'o', 'O', '0', '_']) (by decide)
      simp at hx
      simp [whole?, moreDigits, hx, follow]
    | cons m rest =>
      have hzeros := moreDigits_append (· = '0') (by decide) (by decide) hw (m :: rest)
      have hhex := moreDigits_append (fun c => (hexDigit? c.toLower).isSome) (by decide) (by decide)
        hw rest
      have hbin := moreDigits_append (fun c => c = '0' || c = '1') (by decide) (by decide) hw rest
      have hoct := moreDigits_append (fun c => '0' ≤ c && c ≤ '7') (by decide) (by decide) hw rest
      simp only [whole?, List.cons_append] at *
      grind [follow]
  · have hz' : (v ++ w).head? ≠ some '0' := by
      obtain ⟨x, y, rfl, hx⟩ := hw.head (p := (· = '0')) (by decide)
      cases v with
      | nil => simpa using hx
      | cons c rest => simpa using hz
    rw [whole?_of_head hz, whole?_of_head hz', hd]
    by_cases hnil : (digits v).1 = []
    · simp [follow, hnil]
    · simp [follow, hnil]

theorem number?_eq (cs : List Char) :
    number? cs = (if (digits cs).1 = [] then none else imaginary? (digits cs)).or
      (((float? cs).bind imaginary?).or ((float? cs).or (whole? cs))) := by
  unfold number?
  split
  next hd => simp [hd]
  next hne => rw [if_neg fun hnil => hne (digits cs).2 (by rw [← hnil])]

theorem number?_split {cs taken rest : List Char} (h : number? cs = some (taken, rest)) :
    taken ++ rest = cs ∧ taken ≠ [] := by
  rw [number?_eq] at h
  rcases Option.or_eq_some_iff.1 h with h | ⟨-, h⟩
  · split at h
    · cases h
    · simpa [digits_split] using imaginary?_split h
  rcases Option.or_eq_some_iff.1 h with h | ⟨-, h⟩
  · obtain ⟨⟨ds, after⟩, hf, hi⟩ := Option.bind_eq_some_iff.1 h
    simpa [(float?_split hf).1] using imaginary?_split hi
  rcases Option.or_eq_some_iff.1 h with h | ⟨-, h⟩
  · exact float?_split h
  · exact whole?_split h

theorem number?_append {w : List Char} (hw : Stops w) (v : List Char) :
    number? (v ++ w) = (number? v).map (follow w) := by
  have hi : imaginary? ∘ follow w = Option.map (follow w) ∘ imaginary? :=
    funext (imaginary?_follow hw)
  rw [number?_eq, number?_eq, digits_append hw, float?_append hw, whole?_append hw,
    imaginary?_follow hw, Option.map_or, Option.map_or, Option.map_or, Option.bind_map, hi,
    Option.map_bind]
  congr 1
  by_cases hnil : (digits v).1 = []
  · simp [follow, hnil]
  · simp [follow, hnil]

/-! ## Operators and words -/

theorem isPrefixOf_append {p v w : List Char} {c : Char} (hw : w.head? = some c) (hp : c ∉ p) :
    p.isPrefixOf (v ++ w) = p.isPrefixOf v := by
  induction p generalizing v with
  | nil => simp
  | cons a p ih =>
    cases v with
    | nil =>
      cases w with
      | nil => simp at hw
      | cons d w =>
        obtain rfl : d = c := by simpa using hw
        have hne : a ≠ d := fun he => hp (by simp [he])
        simp [List.isPrefixOf, hne]
    | cons b v => simp [List.isPrefixOf, ih fun hm => hp (List.mem_cons_of_mem a hm)]

theorem operatorAt?_append {w : List Char} (hw : Stops w) (v : List Char) :
    operatorAt? (v ++ w) = operatorAt? v := by
  obtain ⟨x, y, rfl, hx⟩ := hw.head (p := fun c => operators.any fun op => op.toList.elem c)
    (by decide)
  refine List.find?_congr fun op hop => isPrefixOf_append rfl fun hmem => ?_
  rw [List.any_eq_false] at hx
  exact hx op hop (List.elem_iff.2 hmem)

theorem operatorAt?_split {cs : List Char} {op : String} (h : operatorAt? cs = some op) :
    op.toList ++ cs.drop op.length = cs ∧ op.toList ≠ [] := by
  have hpre : op.toList <+: cs :=
    List.isPrefixOf_iff_prefix.1 (List.find?_some (p := fun op : String => op.toList.isPrefixOf cs) h)
  have hne : ∀ o ∈ operators, o.toList ≠ [] := by decide
  obtain ⟨rest, rfl⟩ := hpre
  refine ⟨?_, hne op (List.mem_of_find?_eq_some h)⟩
  rw [← String.length_toList, List.drop_left]

theorem takeWhile_append {w : List Char} (hw : Stops w) (v : List Char) :
    (v ++ w).takeWhile isWordChar = v.takeWhile isWordChar := by
  obtain ⟨x, y, rfl, hx⟩ := hw.head (p := isWordChar) (by decide)
  induction v with
  | nil => simp [hx]
  | cons c v ih => simp [List.takeWhile_cons, ih]

/-! ## Strings -/

/-- A short string ends at its quote, or at a backslash before a line feed. What follows does not
matter. -/
theorem shortString_ends {q : Char} {taken cs text rest : List Char}
    (h : shortString q taken cs = some (text, rest)) :
    ∃ read, text = taken.reverse ++ read ∧ cs = read ++ rest ∧
      (read.getLast? = some q ∨ ∃ front, read = front ++ ['\\', '\n']) ∧
      ∀ rest', shortString q taken (read ++ rest') = some (text, rest') := by
  fun_induction shortString q taken cs with
  | case1 => cases h
  | case2 taken rest' =>
    cases h
    refine ⟨[q], by simp, rfl, .inl rfl, fun more => ?_⟩
    rw [List.cons_append, shortString.eq_def]
    simp
  | case3 => cases h
  | case4 taken rest' hq hn =>
    cases h
    exact ⟨['\\', '\n'], by simp, rfl, .inr ⟨[], rfl⟩, by simp [shortString, hq]⟩
  | case5 taken d rest' hd hq hn ih =>
    obtain ⟨read, rfl, rfl, hend, hlocal⟩ := ih h
    refine ⟨'\\' :: d :: read, by simp, rfl, ?_, fun more => ?_⟩
    · rcases hend with hend | ⟨front, rfl⟩
      · exact .inl (by simp [List.getLast?_cons, hend])
      · exact .inr ⟨'\\' :: d :: front, rfl⟩
    · simpa [shortString, hq, hd] using hlocal more
  | case6 => cases h
  | case7 taken c rest' hq hn hb ih =>
    obtain ⟨read, rfl, rfl, hend, hlocal⟩ := ih h
    refine ⟨c :: read, by simp, rfl, ?_, fun more => ?_⟩
    · rcases hend with hend | ⟨front, rfl⟩
      · exact .inl (by simp [List.getLast?_cons, hend])
      · exact .inr ⟨c :: front, rfl⟩
    · rw [List.cons_append, shortString.eq_def]
      simpa [hq, hn, hb] using hlocal more

/-- The quotes that close a string. -/
def closing (q : Char) (long : Bool) : List Char := if long then [q, q, q] else [q]

theorem exists_two (front : List Char) (q : Char) :
    ∃ a b more, front ++ [q, q, q] = a :: b :: more := by
  rcases front with _ | ⟨c, _ | ⟨d, front⟩⟩
  · exact ⟨q, q, [q], rfl⟩
  · exact ⟨c, q, [q, q], rfl⟩
  · exact ⟨c, d, front ++ [q, q, q], rfl⟩

/-- A string that started on an earlier line ends with its quotes. What follows does not matter. -/
theorem stringEnd_ends {q : Char} {long : Bool} {taken cs text rest : List Char}
    (h : stringEnd q long taken cs = some (text, rest)) :
    ∃ front, text = taken.reverse ++ (front ++ closing q long) ∧
      cs = front ++ closing q long ++ rest ∧
      ∀ rest', stringEnd q long taken (front ++ closing q long ++ rest') = some (text, rest') := by
  fun_induction stringEnd q long taken cs with
  | case1 => cases h
  | case2 => cases h
  | case3 => cases h
  | case4 taken d rest' hd ih =>
    obtain ⟨front, rfl, rfl, hlocal⟩ := ih h
    refine ⟨'\\' :: d :: front, by simp, by simp, fun more => ?_⟩
    simpa [stringEnd, hd] using hlocal more
  | case5 taken rest' hlong hq =>
    cases h
    have hclose : closing q long = [q] := by simpa [closing] using hlong
    refine ⟨[], by simp [hclose], by simp [hclose], fun more => ?_⟩
    rw [hclose, List.nil_append, List.cons_append, stringEnd.eq_def]
    simp [hq, hlong]
  | case6 taken hlong a b more hab hq =>
    obtain ⟨ha, hb⟩ := hab
    cases h
    have hclose : closing q long = [q, q, q] := by simpa [closing] using hlong
    refine ⟨[], by simp [hclose, ha, hb], by simp [hclose, ha, hb], fun more => ?_⟩
    simp [hclose, stringEnd, hq, hlong, ha, hb]
  | case7 taken hlong a b more hab hq ih =>
    obtain ⟨front, rfl, hcs, hlocal⟩ := ih h
    have hclose : closing q long = [q, q, q] := by simpa [closing] using hlong
    refine ⟨q :: front, by simp, by simp [hcs], fun rest' => ?_⟩
    obtain ⟨a', b', middle, hfront⟩ := exists_two front q
    have hread := hlocal rest'
    rw [hclose, hfront] at hcs hread
    obtain ⟨rfl, rfl, -⟩ : a = a' ∧ b = b' ∧ _ := by simpa using hcs
    rw [List.cons_append, List.cons_append, hclose, hfront]
    simpa [stringEnd, hq, hlong, hab] using hread
  | case8 taken rest' hlong hshort hq ih =>
    obtain ⟨front, rfl, rfl, hlocal⟩ := ih h
    have hclose : closing q long = [q, q, q] := by simpa [closing] using hlong
    obtain ⟨a, b, middle, hfront⟩ := exists_two front q
    exact (hshort a b (middle ++ rest) (by rw [hclose, hfront]; rfl)).elim
  | case9 taken c rest' hb hq ih =>
    obtain ⟨front, rfl, rfl, hlocal⟩ := ih h
    refine ⟨c :: front, by simp, by simp, fun more => ?_⟩
    rw [List.cons_append, List.cons_append, stringEnd.eq_def]
    simpa [hb, hq] using hlocal more

/-- A mark that opens strings. -/
def IsQuote (q : Char) : Prop := q = '"' ∨ q = '\''

/-- A quote is none of some other characters. -/
theorem IsQuote.ne {q c : Char} (hq : IsQuote q) (hc : c ≠ '"' ∧ c ≠ '\'') : q ≠ c := by
  rintro rfl
  exact hq.elim hc.1 hc.2

theorem marksBeforeQuote?_split {m m' : StringMarks} {taken cs letters rest : List Char}
    (h : marksBeforeQuote? m taken cs = some (m', letters, rest)) :
    letters ++ rest = taken.reverse ++ cs ∧ ∃ q more, rest = q :: more ∧ IsQuote q := by
  induction cs generalizing m taken with
  | nil => cases h
  | cons c cs ih =>
    simp only [marksBeforeQuote?] at h
    split at h
    next hq =>
      cases h
      exact ⟨rfl, c, cs, rfl, hq⟩
    next hq =>
      split at h
      · simpa using ih h
      · cases h

theorem marksBeforeQuote?_append {w : List Char} (hw : Stops w) (m : StringMarks)
    (taken v : List Char) :
    marksBeforeQuote? m taken (v ++ w) =
      (marksBeforeQuote? m taken v).map fun found => (found.1, found.2.1, found.2.2 ++ w) := by
  induction v generalizing m taken with
  | nil =>
    obtain ⟨x, y, rfl, hx⟩ := hw.head
      (p := fun c => c ∈ ['"', '\'', 'b', 'B', 'u', 'U', 'r', 'R', 'f', 'F']) (by decide)
    simp at hx
    simp [marksBeforeQuote?, StringMarks.add?, hx]
  | cons c v ih =>
    simp only [marksBeforeQuote?, List.cons_append]
    split
    · rfl
    · split
      · exact ih ..
      · rfl

theorem string?_of_none {cs : List Char} (h : marksBeforeQuote? {} [] cs = none) :
    string? cs = none := by
  simp [string?, h]

theorem string?_of_some {cs letters rest : List Char} {m : StringMarks} {q : Char}
    (h : marksBeforeQuote? {} [] cs = some (m, letters, q :: rest)) :
    string? cs = if rest.take 2 = [q, q] then some (.longOpening q, letters ++ [q, q, q], rest.drop 2)
      else string?.short letters q rest := by
  rcases rest with _ | ⟨a, _ | ⟨b, more⟩⟩
  · simp [string?, h]
  · simp [string?, h]
  · simp [string?, h]

theorem string?_split {cs taken rest : List Char} {p : Piece} (h : string? cs = some (p, taken, rest)) :
    taken ++ rest = cs ∧ taken ≠ [] := by
  cases hm : marksBeforeQuote? {} [] cs with
  | none => simp [string?_of_none hm] at h
  | some found =>
    obtain ⟨m, letters, after⟩ := found
    obtain ⟨hcs, q, more, rfl, hq⟩ := marksBeforeQuote?_split hm
    rw [List.reverse_nil, List.nil_append] at hcs
    rw [string?_of_some hm] at h
    split at h
    next htwo =>
      cases h
      refine ⟨?_, by simp⟩
      rw [← hcs, ← List.take_append_drop 2 more, htwo]
      simp
    next htwo =>
      obtain ⟨⟨text, rest'⟩, hs, heq⟩ := Option.map_eq_some_iff.1 h
      obtain ⟨read, rfl, rfl, -, -⟩ := shortString_ends hs
      cases heq
      simp [← hcs]

/-- Two quotes stand in front of a stop only if they stand there without it. -/
theorem take_two_append {w : List Char} (hw : Stops w) {q : Char} (hq : IsQuote q) (v : List Char) :
    (v ++ w).take 2 = [q, q] ↔ v.take 2 = [q, q] := by
  obtain ⟨x, y, rfl, hx⟩ := hw.head (p := fun c => c = '"' || c = '\'') (by decide)
  have hne : x ≠ q := fun he => by simp [IsQuote, ← he] at hx hq; exact hq.elim hx.1 hx.2
  rcases v with _ | ⟨a, _ | ⟨b, more⟩⟩
  · simp [hne]
  · simp [hne]
  · simp

theorem exists_of_length_le {α : Type} {v w t r : List α} (h : v ++ w = t ++ r)
    (hlen : t.length ≤ v.length) : ∃ b, v = t ++ b ∧ r = b ++ w := by
  obtain ⟨a, rfl, rfl⟩ | found := List.append_eq_append_iff.1 h
  · obtain rfl : a = [] := by
      rw [List.length_append] at hlen
      exact List.eq_nil_of_length_eq_zero (by omega)
    exact ⟨[], by simp, by simp⟩
  · exact found

/-- What reaches behind `v` and ends with a character that the blanks behind `v` lack reaches behind
them. -/
theorem length_lt_of_getLast? {v g z taken rest : List Char} {c : Char}
    (h : taken ++ rest = v ++ g ++ z) (hlen : v.length < taken.length)
    (hlast : taken.getLast? = some c) (hc : c ∉ g) : (v ++ g).length < taken.length := by
  by_contra hle
  obtain ⟨b, hb, -⟩ := exists_of_length_le h.symm (Nat.le_of_not_lt hle)
  obtain ⟨a, rfl, rfl⟩ | ⟨a, rfl, rfl⟩ := List.append_eq_append_iff.1 hb
  · cases a with
    | nil => simp at hlen
    | cons x a =>
      rw [List.getLast?_append_of_ne_nil _ (List.cons_ne_nil x a)] at hlast
      exact hc (List.mem_append_left b (List.mem_of_getLast? hlast))
  · rw [List.length_append] at hlen
    omega

/-- A piece of `v` that is read alike where the line ends behind `v`. -/
def Within (read : List Char → Option (Piece × List Char × List Char)) (v w : List Char) (p : Piece)
    (taken rest : List Char) : Prop :=
  ∃ rest', v = taken ++ rest' ∧ rest = rest' ++ w ∧
    read (v ++ ['\n']) = some (p, taken, rest' ++ ['\n'])

/-- A string that opens in `v` either closes in `v`, whatever follows, or goes on to a quote or a line
end behind `v`. -/
theorem string?_cut {v w taken rest : List Char} {p : Piece} (hw : Stops w)
    (h : string? (v ++ w) = some (p, taken, rest)) :
    Within string? v w p taken rest ∨
      v.length < taken.length ∧ ∃ c, taken.getLast? = some c ∧ (IsQuote c ∨ c = '\n') := by
  have hmarks (w) (hw : Stops w) := marksBeforeQuote?_append hw {} [] v
  cases hm : marksBeforeQuote? {} [] v with
  | none =>
    rw [string?_of_none (by rw [hmarks w hw, hm]; rfl)] at h
    cases h
  | some found =>
    obtain ⟨m, letters, after⟩ := found
    obtain ⟨hv, q, more, rfl, hq⟩ := marksBeforeQuote?_split hm
    rw [List.reverse_nil, List.nil_append] at hv
    have heq (w) (hw : Stops w) : string? (v ++ w) =
        if (more ++ w).take 2 = [q, q] then
          some (.longOpening q, letters ++ [q, q, q], (more ++ w).drop 2)
        else string?.short letters q (more ++ w) :=
      string?_of_some (by rw [hmarks w hw, hm]; rfl)
    rw [heq w hw] at h
    split at h
    next htwo =>
      have htwo' := (take_two_append hw hq more).1 htwo
      obtain ⟨after, rfl⟩ : ∃ after, more = q :: q :: after :=
        ⟨more.drop 2, by rw [← List.take_append_drop 2 more, htwo']; simp⟩
      cases h
      refine .inl ⟨after, by simp [← hv], by simp, ?_⟩
      rw [heq _ stops_newline, if_pos (by simp)]
      simp
    next htwo =>
      obtain ⟨⟨text, rest'⟩, hs, heq'⟩ := Option.map_eq_some_iff.1 h
      cases heq'
      obtain ⟨read, htext, hread, hend, hlocal⟩ := shortString_ends hs
      rcases Nat.lt_or_ge more.length read.length with hlen | hlen
      · refine .inr ⟨by simp [← hv, htext]; omega, ?_⟩
        rcases hend with hend | ⟨front, rfl⟩
        · exact ⟨q, by simp [htext, List.getLast?_cons, hend], .inl hq⟩
        · exact ⟨'\n', by simp [htext, List.getLast?_cons], .inr rfl⟩
      · obtain ⟨b, rfl, rfl⟩ := exists_of_length_le hread hlen
        refine .inl ⟨b, by simp [← hv, htext], rfl, ?_⟩
        rw [heq _ stops_newline,
          if_neg (by rwa [take_two_append stops_newline hq, ← take_two_append hw hq])]
        simp [string?.short, List.append_assoc, hlocal]

/-- A string that closes nowhere before a comment does not go on behind the line that is left
without it. -/
theorem string?_cut_none {v w : List Char} (hw : Stops w) (hb : v.getLast? ≠ some '\\')
    (h : string? (v ++ w) = none) : string? (v ++ ['\n']) = none := by
  have hmarks (w) (hw : Stops w) := marksBeforeQuote?_append hw {} [] v
  cases hm : marksBeforeQuote? {} [] v with
  | none => exact string?_of_none (by rw [hmarks _ stops_newline, hm]; rfl)
  | some found =>
    obtain ⟨m, letters, after⟩ := found
    obtain ⟨hv, q, more, rfl, hq⟩ := marksBeforeQuote?_split hm
    rw [List.reverse_nil, List.nil_append] at hv
    have heq (w) (hw : Stops w) : string? (v ++ w) =
        if (more ++ w).take 2 = [q, q] then
          some (.longOpening q, letters ++ [q, q, q], (more ++ w).drop 2)
        else string?.short letters q (more ++ w) :=
      string?_of_some (by rw [hmarks w hw, hm]; rfl)
    rw [heq w hw] at h
    split at h
    next => cases h
    next htwo =>
      rw [heq _ stops_newline,
        if_neg (by rwa [take_two_append stops_newline hq, ← take_two_append hw hq])]
      refine Option.map_eq_none_iff.2 (Option.eq_none_iff_forall_ne_some.2 fun found hs => ?_)
      obtain ⟨read, -, hread, hend, hlocal⟩ := shortString_ends hs
      rcases Nat.lt_or_ge more.length read.length with hlen | hlen
      · have hall : more ++ ['\n'] = read := by
          have hsum := congrArg List.length hread
          simp only [List.length_append, List.length_singleton] at hsum
          rw [hread, List.eq_nil_of_length_eq_zero (by omega : found.2.length = 0), List.append_nil]
        rcases hend with hend | ⟨front, hfront⟩
        · rw [← hall, List.getLast?_concat] at hend
          exact hq.ne (by decide) (Option.some.inj hend).symm
        · have hmore : more ++ ['\n'] = front ++ ['\\'] ++ ['\n'] := by simp [hall, hfront]
          obtain rfl : more = front ++ ['\\'] := (List.append_inj' hmore rfl).1
          simp [← hv, List.getLast?_cons] at hb
      · obtain ⟨b, rfl, -⟩ := exists_of_length_le hread hlen
        have hshort := Option.map_eq_none_iff.1 h
        rw [List.append_assoc, hlocal] at hshort
        cases hshort

/-! ## Pieces -/

/-- A number, an operator, a string or a word at the front of a list, in this order. -/
def plain? (cs : List Char) : Option (Piece × List Char × List Char) :=
  ((number? cs).map fun found => (.number, found)).or
    (((operatorAt? cs).map fun op => (.operator, op.toList, cs.drop op.length)).or
      ((string? cs).or
        (if cs.takeWhile isWordChar = [] then none
          else some (.word, cs.takeWhile isWordChar, cs.dropWhile isWordChar))))

theorem drop_takeWhile {α : Type} (p : α → Bool) (cs : List α) :
    cs.drop (cs.takeWhile p).length = cs.dropWhile p := by
  induction cs with
  | nil => rfl
  | cons c cs ih =>
    by_cases hc : p c
    · simp [hc, ih]
    · simp [hc]

theorem piece?_eq_plain? {cs : List Char} (hj : ∀ rest, cs ≠ '\\' :: '\n' :: rest)
    (hc : cs.head? ≠ some '#') (hn : cs.head? ≠ some '\n') : piece? cs = plain? cs := by
  unfold piece? plain?
  split
  · exact absurd rfl (hj _)
  · simp at hc
  · simp at hn
  · split
    next hnum => simp [hnum]
    next hnum =>
      split
      next hop => simp [hnum, hop]
      next hop =>
        split
        next hs => simp [hnum, hop, hs]
        next hs =>
          split
          next ht => simp [hnum, hop, hs, ht]
          next ht =>
            have ht' : cs.takeWhile isWordChar ≠ [] := ht
            simp [hnum, hop, hs, ht', drop_takeWhile]

theorem plain?_split {cs taken rest : List Char} {p : Piece} (h : plain? cs = some (p, taken, rest)) :
    taken ++ rest = cs ∧ taken ≠ [] := by
  unfold plain? at h
  rcases Option.or_eq_some_iff.1 h with h | ⟨-, h⟩
  · obtain ⟨found, hnum, heq⟩ := Option.map_eq_some_iff.1 h
    cases heq
    exact number?_split hnum
  rcases Option.or_eq_some_iff.1 h with h | ⟨-, h⟩
  · obtain ⟨op, hop, heq⟩ := Option.map_eq_some_iff.1 h
    cases heq
    exact operatorAt?_split hop
  rcases Option.or_eq_some_iff.1 h with h | ⟨-, h⟩
  · exact string?_split h
  · split at h
    · cases h
    next hne =>
      cases h
      exact ⟨List.takeWhile_append_dropWhile, hne⟩

/-- A piece takes at least one character, and leaves the rest. -/
theorem piece?_split {cs taken rest : List Char} {p : Piece} (h : piece? cs = some (p, taken, rest)) :
    taken ++ rest = cs ∧ taken ≠ [] := by
  by_cases hj : ∃ rest, cs = '\\' :: '\n' :: rest
  · obtain ⟨rest', rfl⟩ := hj
    cases h
    simp
  by_cases hc : cs.head? = some '#'
  · obtain ⟨rest', rfl⟩ := List.head?_eq_some_iff.1 hc
    cases h
    simp [drop_takeWhile]
  by_cases hn : cs.head? = some '\n'
  · obtain ⟨rest', rfl⟩ := List.head?_eq_some_iff.1 hn
    cases h
    simp
  rw [piece?_eq_plain? (not_exists.1 hj) hc hn] at h
  exact plain?_split h

/-! ## The kinds of pieces -/

theorem string?_kind {cs taken rest : List Char} {p : Piece} (h : string? cs = some (p, taken, rest)) :
    p = .string ∨ ∃ q, IsQuote q ∧ (p = .joinedString q ∨ p = .longOpening q) := by
  cases hm : marksBeforeQuote? {} [] cs with
  | none => simp [string?_of_none hm] at h
  | some found =>
    obtain ⟨m, letters, after⟩ := found
    obtain ⟨-, q, more, rfl, hq⟩ := marksBeforeQuote?_split hm
    rw [string?_of_some hm] at h
    split at h
    · cases h
      exact .inr ⟨q, hq, .inr rfl⟩
    · obtain ⟨found, -, heq⟩ := Option.map_eq_some_iff.1 h
      cases heq
      split
      · exact .inr ⟨q, hq, .inl rfl⟩
      · exact .inl rfl

theorem plain?_kind {cs taken rest : List Char} {p : Piece} (h : plain? cs = some (p, taken, rest)) :
    p ∈ [.number, .operator, .string, .word] ∨
      ∃ q, IsQuote q ∧ (p = .joinedString q ∨ p = .longOpening q) := by
  unfold plain? at h
  rcases Option.or_eq_some_iff.1 h with h | ⟨-, h⟩
  · obtain ⟨found, -, heq⟩ := Option.map_eq_some_iff.1 h
    cases heq
    simp
  rcases Option.or_eq_some_iff.1 h with h | ⟨-, h⟩
  · obtain ⟨op, -, heq⟩ := Option.map_eq_some_iff.1 h
    cases heq
    simp
  rcases Option.or_eq_some_iff.1 h with h | ⟨-, h⟩
  · rcases string?_kind h with rfl | hq
    · simp
    · exact .inr hq
  · split at h
    · cases h
    · cases h
      simp

/-- What a piece that is no number, operator, word or string looks like. -/
theorem piece?_kind {cs taken rest : List Char} {p : Piece} (h : piece? cs = some (p, taken, rest)) :
    (p = .join ∧ taken = ['\\', '\n']) ∨
      (p = .comment ∧ ∃ z, cs = '#' :: z ∧ taken = '#' :: z.takeWhile (· ≠ '\n') ∧
        rest = z.dropWhile (· ≠ '\n')) ∨
      (p = .newline ∧ taken = ['\n']) ∨
      p ∈ [.number, .operator, .string, .word] ∨
      ∃ q, IsQuote q ∧ (p = .joinedString q ∨ p = .longOpening q) := by
  by_cases hj : ∃ rest, cs = '\\' :: '\n' :: rest
  · obtain ⟨rest', rfl⟩ := hj
    cases h
    exact .inl ⟨rfl, rfl⟩
  by_cases hc : cs.head? = some '#'
  · obtain ⟨z, rfl⟩ := List.head?_eq_some_iff.1 hc
    cases h
    exact .inr (.inl ⟨rfl, z, rfl, by simp, by simp [drop_takeWhile]⟩)
  by_cases hn : cs.head? = some '\n'
  · obtain ⟨rest', rfl⟩ := List.head?_eq_some_iff.1 hn
    cases h
    exact .inr (.inr (.inl ⟨rfl, rfl⟩))
  rw [piece?_eq_plain? (not_exists.1 hj) hc hn] at h
  exact .inr (.inr (.inr (plain?_kind h)))

/-! ## Pieces before a comment -/

/-- In front of a stop only a string looks further than `v`. -/
theorem plain?_append {w : List Char} (hw : Stops w) (v : List Char) :
    plain? (v ++ w) =
      ((number? v).map fun found => (.number, follow w found)).or
        (((operatorAt? v).map fun op => (.operator, op.toList, v.drop op.length ++ w)).or
          ((string? (v ++ w)).or
            (if v.takeWhile isWordChar = [] then none
              else some (.word, v.takeWhile isWordChar, v.dropWhile isWordChar ++ w)))) := by
  have hop : (operatorAt? v).map (fun op => (Piece.operator, op.toList, (v ++ w).drop op.length)) =
      (operatorAt? v).map fun op => (Piece.operator, op.toList, v.drop op.length ++ w) := by
    cases ho : operatorAt? v with
    | none => rfl
    | some op =>
      have hlen := congrArg List.length (operatorAt?_split ho).1
      rw [List.length_append, String.length_toList, List.length_drop] at hlen
      simp [List.drop_append_of_le_length (by omega : op.length ≤ v.length)]
  have hword : (v ++ w).dropWhile isWordChar = v.dropWhile isWordChar ++ w := by
    rw [← drop_takeWhile, ← drop_takeWhile, takeWhile_append hw]
    exact List.drop_append_of_le_length (List.takeWhile_sublist _).length_le
  rw [plain?, number?_append hw, operatorAt?_append hw, takeWhile_append hw, hop, hword,
    Option.map_map]
  rfl

theorem plain?_cut {v g z taken rest : List Char} {p : Piece} (hb : v.getLast? ≠ some '\\')
    (hg : ∀ c ∈ g, isGap c)
    (h : plain? (v ++ (g ++ '#' :: z)) = some (p, taken, rest)) :
    Within plain? v (g ++ '#' :: z) p taken rest ∨ (v ++ g).length < taken.length := by
  have hw : Stops (g ++ '#' :: z) := stops_gap hg
  have hsplit := (plain?_split h).1
  have hcut := plain?_append stops_newline v
  rw [plain?_append hw] at h
  rcases Option.or_eq_some_iff.1 h with h | ⟨hnum, h⟩
  · obtain ⟨⟨ds, more⟩, hnum, heq⟩ := Option.map_eq_some_iff.1 h
    cases heq
    refine .inl ⟨more, (number?_split hnum).1.symm, rfl, ?_⟩
    rw [hcut, hnum]
    rfl
  rw [Option.map_eq_none_iff] at hnum
  rcases Option.or_eq_some_iff.1 h with h | ⟨hop, h⟩
  · obtain ⟨op, hop, heq⟩ := Option.map_eq_some_iff.1 h
    cases heq
    refine .inl ⟨_, (operatorAt?_split hop).1.symm, rfl, ?_⟩
    rw [hcut, hnum, hop]
    rfl
  rw [Option.map_eq_none_iff] at hop
  rcases Option.or_eq_some_iff.1 h with h | ⟨hs, h⟩
  · rcases string?_cut hw h with ⟨rest', hv, hrest, hlocal⟩ | ⟨hlen, c, hlast, hc⟩
    · refine .inl ⟨rest', hv, hrest, ?_⟩
      rw [hcut, hnum, hop, hlocal]
      rfl
    · refine .inr (length_lt_of_getLast? (by simpa using hsplit) hlen hlast fun hmem => ?_)
      obtain (rfl | rfl) | rfl := hc <;> exact absurd (hg _ hmem) (by decide)
  · split at h
    · cases h
    next hne =>
      cases h
      refine .inl ⟨_, List.takeWhile_append_dropWhile.symm, rfl, ?_⟩
      rw [hcut, hnum, hop, string?_cut_none hw hb hs, if_neg hne]
      rfl

theorem plain?_cut_none {v w : List Char} (hw : Stops w) (hb : v.getLast? ≠ some '\\')
    (h : plain? (v ++ w) = none) : plain? (v ++ ['\n']) = none := by
  rw [plain?_append hw] at h
  rw [plain?_append stops_newline]
  simp only [Option.or_eq_none_iff, Option.map_eq_none_iff] at h ⊢
  obtain ⟨hnum, hop, hs, hword⟩ := h
  refine ⟨hnum, hop, string?_cut_none hw hb hs, ?_⟩
  split at hword
  next hnil => rw [if_pos hnil]
  next => cases hword

/-- Without its comment a line has no new join and no new line end before its end. -/
theorem piece?_eq_plain?_of_cut {v w : List Char} (hv : v ≠ []) (hn : '\n' ∉ v)
    (hc : v.head? ≠ some '#') (hb : v.getLast? ≠ some '\\') : piece? (v ++ w) = plain? (v ++ w) := by
  obtain ⟨c, v, rfl⟩ := List.exists_cons_of_ne_nil hv
  refine piece?_eq_plain? (fun rest he => ?_) (by simpa using hc) ?_
  · obtain ⟨rfl, htail⟩ := List.cons.inj he
    cases v with
    | nil => simp at hb
    | cons d v =>
      obtain rfl := (List.cons.inj htail).1
      simp at hn
  · intro he
    obtain rfl : c = '\n' := by simpa using he
    simp at hn

/-- A comment takes in the marks of all comments behind it. -/
theorem length_comment {v g z taken rest : List Char} {p : Piece} (hn : '\n' ∉ v)
    (hc : v.head? = some '#') (hg : ∀ c ∈ g, isGap c)
    (h : piece? (v ++ (g ++ '#' :: z)) = some (p, taken, rest)) : (v ++ g).length < taken.length := by
  obtain ⟨v, rfl⟩ := List.head?_eq_some_iff.1 hc
  cases h
  have hall : ∀ c ∈ '#' :: v ++ g ++ ['#'], (c ≠ '\n' : Bool) := by
    intro c hmem
    simp only [List.mem_append, List.mem_singleton] at hmem
    rcases hmem with (hmem | hmem) | rfl
    · exact decide_eq_true fun he => hn (he ▸ hmem)
    · exact decide_eq_true fun he => absurd (hg c hmem) (by rw [he]; decide)
    · rfl
  have htake : ('#' :: v ++ g ++ ['#'] ++ z).takeWhile (· ≠ '\n') = _ :=
    List.takeWhile_append_of_pos hall
  simp only [List.append_assoc, List.cons_append, List.nil_append] at htake ⊢
  rw [htake]
  simp only [List.length_cons, List.length_append]
  omega

/-- A piece in `v` that ends before a comment is there without the comment, and one that does not
takes in the mark of the comment. -/
theorem piece?_cut {v g z taken rest : List Char} {p : Piece} (hv : v ≠ []) (hn : '\n' ∉ v)
    (hb : v.getLast? ≠ some '\\') (hg : ∀ c ∈ g, isGap c)
    (h : piece? (v ++ (g ++ '#' :: z)) = some (p, taken, rest)) :
    (p ≠ .comment ∧ Within piece? v (g ++ '#' :: z) p taken rest) ∨
      (v ++ g).length < taken.length := by
  by_cases hc : v.head? = some '#'
  · exact .inr (length_comment hn hc hg h)
  · rw [piece?_eq_plain?_of_cut hv hn hc hb] at h
    rw [Within, piece?_eq_plain?_of_cut hv hn hc hb]
    refine (plain?_cut hb hg h).imp_left fun hwithin => ⟨?_, hwithin⟩
    rintro rfl
    simpa using plain?_kind h

theorem piece?_cut_none {v w : List Char} (hw : Stops w) (hv : v ≠ []) (hn : '\n' ∉ v)
    (hb : v.getLast? ≠ some '\\') (h : piece? (v ++ w) = none) : piece? (v ++ ['\n']) = none := by
  have hc : v.head? ≠ some '#' := fun hc => by
    obtain ⟨v, rfl⟩ := List.head?_eq_some_iff.1 hc
    cases h
  rw [piece?_eq_plain?_of_cut hv hn hc hb] at h ⊢
  exact plain?_cut_none hw hb h

/-- No piece starts with a blank. -/
theorem piece?_gap {c : Char} (hc : isGap c) (cs : List Char) : piece? (c :: cs) = none := by
  have hw : Stops (c :: cs) := ⟨c, cs, rfl, by simp [isStop, hc]⟩
  have hs : string? (c :: cs) = none :=
    string?_of_none (by rw [← List.nil_append (c :: cs), marksBeforeQuote?_append hw]; rfl)
  have hplain : plain? (c :: cs) = none := by
    have hnum : number? [] = none := by decide
    have hop : operatorAt? [] = none := by decide
    rw [← List.nil_append (c :: cs), plain?_append hw, List.nil_append, hs, hnum, hop]
    rfl
  rw [piece?_eq_plain? ?_ ?_ ?_, hplain]
  · rintro rest he
    obtain ⟨rfl, -⟩ := List.cons.inj he
    cases hc
  · simp only [List.head?_cons, ne_eq, Option.some.injEq]
    rintro rfl
    cases hc
  · simp only [List.head?_cons, ne_eq, Option.some.injEq]
    rintro rfl
    cases hc

end Pseudonym.Python.Scan
