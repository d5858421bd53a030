import Pseudonym.Name.Style
import Pseudonym.Proofs.Name.Respelling
import Pseudonym.Proofs.Text.Trim

/-!
# Spelled words are found again

Cutting a name undoes its spelling (`words_spelled`). A token is a run of one category, which ends
where another one begins (`splitChars_run`); so underscores keep words apart whatever they are. A
capital goes with the small letters behind it and leaves the capital in front of it
(`splitChars_capital`, `splitChars_capital_cons`), so words with a capital each are kept apart as
long as no two words of one letter meet, whose capitals would be one run.
-/

namespace Pseudonym.Name

open Text

/-! ## Cutting -/

section Cutting

variable {kind : Category} {rest : List Char}

/-- What stands behind a token of a category and ends it. A small letter does not end a token of
capitals at its place but one character before it. -/
def Breaks (kind : Category) (rest : List Char) : Prop :=
  ∀ c ∈ rest.head?, category c ≠ kind ∧ ¬ (category c = .lowerLetter ∧ kind = .upperLetter)

theorem Breaks.nil : Breaks kind [] := by simp [Breaks]

theorem Breaks.cons {c : Char} (hc : category c ≠ kind)
    (hsmall : ¬ (category c = .lowerLetter ∧ kind = .upperLetter)) : Breaks kind (c :: rest) := by
  intro d hd
  obtain rfl : c = d := by simpa using hd
  exact ⟨hc, hsmall⟩

theorem splitFrom_run : ∀ {run token : List Char}, (∀ c ∈ run, category c = kind) →
    splitFrom token kind (run ++ rest) = splitFrom (run.reverse ++ token) kind rest
  | [], _, _ => rfl
  | c :: run, token, hrun => by
      obtain ⟨hc, hrun⟩ := List.forall_mem_cons.1 hrun
      have hstep : splitFrom token kind (c :: (run ++ rest)) =
          splitFrom (c :: token) kind (run ++ rest) := by
        simp [splitFrom, hc]
      rw [List.cons_append, hstep, splitFrom_run hrun]
      simp

theorem splitFrom_of_breaks (h : Breaks kind rest) (token : List Char) :
    splitFrom token kind rest = token.reverse :: splitChars rest := by
  cases rest with
  | nil => rfl
  | cons c rest =>
      obtain ⟨hkind, hsmall⟩ := h c rfl
      unfold splitFrom
      rw [if_neg hkind, if_neg hsmall, splitChars]

/-- A run of one category is a token where something behind it ends it. -/
theorem splitChars_run {run : List Char} (hne : run ≠ []) (hrun : ∀ c ∈ run, category c = kind)
    (hrest : Breaks kind rest) : splitChars (run ++ rest) = run :: splitChars rest := by
  obtain ⟨c, run, rfl⟩ := List.exists_cons_of_ne_nil hne
  obtain ⟨hc, hrun⟩ := List.forall_mem_cons.1 hrun
  rw [List.cons_append, splitChars, hc, splitFrom_run hrun, splitFrom_of_breaks hrest]
  simp

section Capital

variable {c s : Char} (hc : category c = .upperLetter) (hs : category s = .lowerLetter)
include hc hs

/-- A capital goes with the small letters behind it. -/
theorem splitChars_capital {run : List Char} (hrun : ∀ d ∈ run, category d = .lowerLetter)
    (hrest : Breaks .lowerLetter rest) :
    splitChars (c :: s :: run ++ rest) = (c :: s :: run) :: splitChars rest := by
  have hjoined : splitFrom [c] .upperLetter (s :: (run ++ rest)) =
      splitFrom [s, c] .lowerLetter (run ++ rest) := by
    simp [splitFrom, hs]
  rw [List.cons_append, List.cons_append, splitChars, hc, hjoined, splitFrom_run hrun,
    splitFrom_of_breaks hrest]
  simp

/-- It leaves a capital in front of it alone. -/
theorem splitChars_capital_cons {b : Char} (hb : category b = .upperLetter) :
    splitChars (b :: c :: s :: rest) = [b] :: splitChars (c :: s :: rest) := by
  simp [splitChars, splitFrom, hb, hc, hs]

end Capital

end Cutting

/-- The first token is the first word if it is one of letters. -/
theorem words_of_splitChars {name token rest : String}
    (h : splitChars name.toList = token.toList :: splitChars rest.toList) :
    words name = if isLetterText token then lower token :: words rest else words rest := by
  rw [words, words, split, split, h, List.map_cons, String.ofList_toList, List.filter_cons]
  split
  · rw [List.map_cons]
  · rfl

theorem isLetterText_of_isLetter {token : String} (hne : token.toList ≠ [])
    (h : ∀ c ∈ token.toList, isLetter c) : isLetterText token := by
  rw [isLetterText, Bool.and_eq_true, List.all_eq_true]
  exact ⟨by simpa using hne, h⟩

theorem words_empty : words "" = [] := rfl

section Joined

variable {kind : Category} (hletter : kind.isLetter) {w rest : String}
include hletter

/-- A run of letters is a word where something behind it ends it. -/
theorem words_append (hne : w.toList ≠ []) (hrun : ∀ c ∈ w.toList, category c = kind)
    (hrest : Breaks kind rest.toList) : words (w ++ rest) = lower w :: words rest := by
  have htext : isLetterText w :=
    isLetterText_of_isLetter hne fun c hc => by rw [isLetter, hrun c hc, hletter]
  have htoken : splitChars (w ++ rest).toList = w.toList :: splitChars rest.toList := by
    rw [String.toList_append, splitChars_run hne hrun hrest]
  rw [words_of_splitChars htoken, if_pos htext]

omit hletter in
/-- A word in front starts the joined text. -/
theorem breaks_intercalate {other : Category} (hother : kind ≠ other)
    (hsmall : other ≠ .upperLetter) {v : String} (hne : v.toList ≠ [])
    (hrun : ∀ c ∈ v.toList, category c = kind) (ws : List String) :
    Breaks other ("_".intercalate (v :: ws)).toList := by
  obtain ⟨c, cs, hv⟩ := List.exists_cons_of_ne_nil hne
  have hc : category c = kind := hrun c (hv ▸ List.mem_cons_self)
  have hbreaks (rest : List Char) : Breaks other (c :: rest) :=
    .cons (by rwa [hc]) fun h => hsmall h.2
  cases ws with
  | nil =>
      rw [String.intercalate_singleton, hv]
      exact hbreaks cs
  | cons u ws =>
      rw [String.intercalate_cons_cons, String.append_assoc, String.toList_append, hv]
      exact hbreaks _

/-- Underscores keep words apart. -/
theorem words_intercalate : ∀ {ws : List String},
    (∀ w ∈ ws, w.toList ≠ [] ∧ ∀ c ∈ w.toList, category c = kind) →
      words ("_".intercalate ws) = ws.map lower
  | [], _ => rfl
  | [w], h => by
      obtain ⟨hne, hrun⟩ := h w List.mem_cons_self
      have hend : Breaks kind "".toList := .nil
      simpa [words_empty] using words_append hletter hne hrun hend
  | w :: v :: ws, h => by
      obtain ⟨⟨hne, hrun⟩, hrest⟩ := List.forall_mem_cons.1 h
      obtain ⟨hv, hvrun⟩ := hrest v List.mem_cons_self
      have hunderscore : category '_' = .connectorPunctuation := by decide +kernel
      have hkind : kind ≠ .connectorPunctuation := by
        rintro rfl
        cases hletter
      -- The underscore ends the word in front of it, and is a token that is no word.
      have hbreaks : Breaks kind ("_" ++ "_".intercalate (v :: ws)).toList := by
        rw [String.toList_append]
        exact Breaks.cons (c := '_') (by rw [hunderscore]; exact hkind.symm) (by simp [hunderscore])
      have htoken : splitChars ("_" ++ "_".intercalate (v :: ws)).toList =
          "_".toList :: splitChars ("_".intercalate (v :: ws)).toList := by
        rw [String.toList_append]
        exact splitChars_run (by decide) (by simpa using hunderscore)
          (breaks_intercalate hkind (by decide) hv hvrun ws)
      have hskip : ¬ isLetterText "_" := by decide +kernel
      rw [String.intercalate_cons_cons, String.append_assoc, words_append hletter hne hrun hbreaks,
        words_of_splitChars htoken, if_neg hskip, words_intercalate hrest]
      rfl

end Joined

/-! ## Small letters -/

/-- A letter from `a` to `z`. -/
def Small (c : Char) : Prop := 'a' ≤ c ∧ c ≤ 'z'

/-- What holds of small letters, told by a finite check. -/
structure Small.Spec (c : Char) : Prop where
  ascii : c.toNat < 128
  upper_ascii : c.toUpper.toNat < 128
  solid : ¬ isBlank c
  category_eq : category c = .lowerLetter
  upper_category : category c.toUpper = .upperLetter
  lower_eq : c.toLower = c
  upper_lower : c.toUpper.toLower = c

instance (c : Char) : Decidable (Small c) := inferInstanceAs (Decidable (_ ∧ _))

instance (c : Char) : Decidable (Small.Spec c) :=
  decidable_of_iff
    (c.toNat < 128 ∧ c.toUpper.toNat < 128 ∧ ¬ isBlank c ∧ category c = .lowerLetter ∧
      category c.toUpper = .upperLetter ∧ c.toLower = c ∧ c.toUpper.toLower = c)
    ⟨fun ⟨h₁, h₂, h₃, h₄, h₅, h₆, h₇⟩ => ⟨h₁, h₂, h₃, h₄, h₅, h₆, h₇⟩,
      fun h => ⟨h.1, h.2, h.3, h.4, h.5, h.6, h.7⟩⟩

theorem Small.spec {c : Char} (h : Small c) : Small.Spec c := by
  have hall : ∀ n ∈ List.range 128, Small (Char.ofNat n) → Small.Spec (Char.ofNat n) := by
    decide +kernel
  have hsmall : c.toNat < 128 := Nat.lt_of_le_of_lt (show c.toNat ≤ 122 from h.2) (by decide)
  have hc := hall c.toNat (List.mem_range.2 hsmall)
  rw [Char.ofNat_toNat] at hc
  exact hc h

/-- A word of small letters. -/
structure SmallWord (w : String) : Prop where
  ne_empty : w ≠ ""
  small : ∀ c ∈ w.toList, Small c

instance (w : String) : Decidable (SmallWord w) :=
  decidable_of_iff (w ≠ "" ∧ w.toList.all (decide <| Small ·))
    ⟨fun h => ⟨h.1, by simpa using h.2⟩, fun h => ⟨h.1, by simpa using h.2⟩⟩

section SmallLetters

variable {cs : List Char} (h : ∀ c ∈ cs, Small c)
include h

theorem map_toLower_of_small : cs.map Char.toLower = cs := by
  conv_rhs => rw [← List.map_id cs]
  exact List.map_congr_left fun c hc => (h c hc).spec.lower_eq

theorem map_toLower_map_toUpper : (cs.map Char.toUpper).map Char.toLower = cs := by
  rw [List.map_map]
  conv_rhs => rw [← List.map_id cs]
  exact List.map_congr_left fun c hc => (h c hc).spec.upper_lower

end SmallLetters

namespace SmallWord

variable {w : String} (h : SmallWord w)
include h

theorem toList_ne_nil : w.toList ≠ [] := fun hnil => h.ne_empty (String.toList_eq_nil_iff.1 hnil)

theorem exists_cons : ∃ c cs, w.toList = c :: cs ∧ Small c ∧ ∀ d ∈ cs, Small d := by
  obtain ⟨c, cs, hw⟩ := List.exists_cons_of_ne_nil h.toList_ne_nil
  obtain ⟨hc, hcs⟩ := List.forall_mem_cons.1 (hw ▸ h.small)
  exact ⟨c, cs, hw, hc, hcs⟩

theorem lower_eq : lower w = w := by
  refine String.toList_injective ?_
  rw [toList_lower fun c hc => (h.small c hc).spec.ascii, map_toLower_of_small h.small]

theorem toList_upper : (upper w).toList = w.toList.map Char.toUpper := by
  rw [upper, String.toList_ofList, List.map_eq_flatMap]
  refine List.flatMap_congr fun c hc => ?_
  rw [upperChar, if_pos (h.small c hc).spec.ascii]

theorem lower_upper : lower (upper w) = w := by
  refine String.toList_injective ?_
  rw [toList_lower, h.toList_upper, map_toLower_map_toUpper h.small]
  rw [h.toList_upper]
  intro d hd
  obtain ⟨c, hc, rfl⟩ := List.mem_map.1 hd
  exact (h.small c hc).spec.upper_ascii

omit h in
theorem toList_capitalize {c : Char} {cs : List Char} (hw : w.toList = c :: cs) (hc : Small c)
    (hcs : ∀ d ∈ cs, Small d) : (capitalize w).toList = c.toUpper :: cs := by
  have happend := lowerAfter_append (fun d hd => (hcs d hd).spec.ascii) [c] []
  rw [List.append_nil, map_toLower_of_small hcs] at happend
  simp only [capitalize, hw, String.toList_ofList, titleChar, hc.spec.ascii, if_true, happend,
    lowerAfter, List.append_nil]
  rfl

theorem lower_capitalize : lower (capitalize w) = w := by
  obtain ⟨c, cs, hw, hc, hcs⟩ := h.exists_cons
  refine String.toList_injective ?_
  rw [toList_lower, toList_capitalize hw hc hcs, List.map_cons, hc.spec.upper_lower,
    map_toLower_of_small hcs, hw]
  rw [toList_capitalize hw hc hcs]
  exact List.forall_mem_cons.2 ⟨hc.spec.upper_ascii, fun d hd => (hcs d hd).spec.ascii⟩

/-- There is nothing to trim. -/
theorem trim_eq : trim w = w := by
  have hsolid : ∀ c ∈ w.toList, ¬ isBlank c := fun c hc => (h.small c hc).spec.solid
  exact trimWhile_eq_self (fun c hc => hsolid c (List.mem_of_mem_head? hc))
    fun c hc => hsolid c (List.mem_of_mem_getLast? hc)

theorem isBlankText_eq_false : isBlankText w = false := by
  obtain ⟨c, cs, hw, hc, -⟩ := h.exists_cons
  simp [isBlankText, hw, hc.spec.solid]

end SmallWord

/-! ## Spellings -/

section Spelled

variable {ts : List String} (h : ∀ t ∈ ts, SmallWord t)
include h

/-- Small words are the parts of their spelling. -/
theorem parts_eq : parts ts = ts := by
  have hkept : ts.filter (fun t => !isBlankText t) = ts :=
    List.filter_eq_self.2 fun t ht => by rw [(h t ht).isBlankText_eq_false]; rfl
  rw [parts, hkept]
  conv_rhs => rw [← List.map_id ts]
  exact List.map_congr_left fun t ht => (h t ht).trim_eq

theorem map_lower_eq : ts.map lower = ts := by
  conv_rhs => rw [← List.map_id ts]
  exact List.map_congr_left fun t ht => (h t ht).lower_eq

theorem words_snakeName : words (snakeName ts) = ts := by
  rw [snakeName, parts_eq h, map_lower_eq h,
    words_intercalate (show Category.lowerLetter.isLetter from rfl), map_lower_eq h]
  exact fun t ht => ⟨(h t ht).toList_ne_nil, fun c hc => ((h t ht).small c hc).spec.category_eq⟩

theorem words_constantName : words (constantName ts) = ts := by
  rw [constantName, parts_eq h, words_intercalate (show Category.upperLetter.isLetter from rfl),
    List.map_map]
  · conv_rhs => rw [← List.map_id ts]
    exact List.map_congr_left fun t ht => (h t ht).lower_upper
  · intro w hw
    obtain ⟨t, ht, rfl⟩ := List.mem_map.1 hw
    rw [(h t ht).toList_upper]
    refine ⟨by simpa using (h t ht).toList_ne_nil, fun c hc => ?_⟩
    obtain ⟨d, hd, rfl⟩ := List.mem_map.1 hc
    exact ((h t ht).small d hd).spec.upper_category

theorem typeName_eq : typeName ts = String.join (ts.map capitalize) := by
  rw [typeName, parts_eq h]
  refine congrArg String.join (List.map_congr_left fun t ht => ?_)
  rw [(h t ht).lower_eq]

/-- A capital ends the small letters in front of it. -/
theorem breaks_capitals : Breaks .lowerLetter (String.join (ts.map capitalize)).toList := by
  cases ts with
  | nil => exact .nil
  | cons t ts =>
      obtain ⟨c, cs, ht, hc, hcs⟩ := (h t List.mem_cons_self).exists_cons
      rw [List.map_cons, String.join_cons, String.toList_append,
        SmallWord.toList_capitalize ht hc hcs]
      exact .cons (by rw [hc.spec.upper_category]; decide) (by simp)

end Spelled

/-- Words of one letter do not follow one another. -/
def NoSingles (ts : List String) : Prop :=
  ts.IsChain fun t u => ¬ (t.length = 1 ∧ u.length = 1)

instance (ts : List String) : Decidable (NoSingles ts) := inferInstanceAs (Decidable (List.IsChain ..))

theorem NoSingles.tail {ts : List String} (h : NoSingles ts) : NoSingles ts.tail := by
  cases ts with
  | nil => exact h
  | cons t ts => exact h.of_cons

/-- Words with a capital each are kept apart. The capital of a single letter is kept from the next
one because that has a small letter behind it. -/
theorem words_join_capitalize : ∀ {ts : List String}, (∀ t ∈ ts, SmallWord t) → NoSingles ts →
    words (String.join (ts.map capitalize)) = ts
  | [], _, _ => rfl
  | t :: ts, h, hsingles => by
      obtain ⟨ht, hts⟩ := List.forall_mem_cons.1 h
      obtain ⟨c, cs, htext, hc, hcs⟩ := ht.exists_cons
      have hcapital := SmallWord.toList_capitalize htext hc hcs
      have hupper := hc.spec.upper_category
      have htoken : splitChars (String.join ((t :: ts).map capitalize)).toList =
          (capitalize t).toList :: splitChars (String.join (ts.map capitalize)).toList := by
        rw [List.map_cons, String.join_cons, String.toList_append, hcapital]
        cases cs with
        | cons s run =>
            obtain ⟨hs, hrun⟩ := List.forall_mem_cons.1 hcs
            exact splitChars_capital hupper hs.spec.category_eq
              (fun d hd => (hrun d hd).spec.category_eq) (breaks_capitals hts)
        | nil =>
            cases ts with
            | nil => rfl
            | cons u us =>
                obtain ⟨hu, -⟩ := List.forall_mem_cons.1 hts
                obtain ⟨d, ds, hutext, hd, hds⟩ := hu.exists_cons
                have hlong : ds ≠ [] := by
                  rintro rfl
                  exact (List.isChain_cons_cons.1 hsingles).1
                    ⟨by simp [← String.length_toList, htext], by simp [← String.length_toList, hutext]⟩
                obtain ⟨s, run, rfl⟩ := List.exists_cons_of_ne_nil hlong
                rw [List.map_cons, String.join_cons, String.toList_append,
                  SmallWord.toList_capitalize hutext hd hds]
                exact splitChars_capital_cons hd.spec.upper_category
                  (hds s List.mem_cons_self).spec.category_eq hupper
      have hletters : isLetterText (capitalize t) := by
        refine isLetterText_of_isLetter (by simp [hcapital]) ?_
        rw [hcapital]
        refine List.forall_mem_cons.2 ⟨by rw [isLetter, hupper]; rfl, fun d hd => ?_⟩
        rw [isLetter, (hcs d hd).spec.category_eq]
        rfl
      rw [words_of_splitChars htoken, if_pos hletters, ht.lower_capitalize,
        words_join_capitalize hts hsingles.of_cons]

/-- In camel case, the first word has no capital. -/
theorem camelName_cons {t : String} {ts : List String} (h : ∀ u ∈ t :: ts, SmallWord u) :
    camelName (t :: ts) = t ++ String.join (ts.map capitalize) := by
  obtain ⟨ht, -⟩ := List.forall_mem_cons.1 h
  obtain ⟨c, cs, htext, hc, hcs⟩ := ht.exists_cons
  have hname : (typeName (t :: ts)).toList =
      c.toUpper :: (cs ++ (String.join (ts.map capitalize)).toList) := by
    rw [typeName_eq h, List.map_cons, String.join_cons, String.toList_append,
      SmallWord.toList_capitalize htext hc hcs, List.cons_append]
  have hfirst : (lower c.toUpper.toString).toList = [c] := by
    rw [toList_lower] <;> simp [hc.spec.upper_lower, hc.spec.upper_ascii]
  refine String.toList_injective ?_
  simp only [camelName, hname, String.toList_append, hfirst, String.toList_ofList, htext,
    List.cons_append, List.nil_append]

/-- So it may be a single letter in front of another one. -/
theorem words_camelName {ts : List String} (h : ∀ t ∈ ts, SmallWord t) (hsingles : NoSingles ts.tail) :
    words (camelName ts) = ts := by
  cases ts with
  | nil => rfl
  | cons t ts =>
      obtain ⟨ht, hts⟩ := List.forall_mem_cons.1 h
      rw [camelName_cons h,
        words_append (show Category.lowerLetter.isLetter from rfl) ht.toList_ne_nil
          (fun c hc => (ht.small c hc).spec.category_eq) (breaks_capitals hts),
        ht.lower_eq]
      exact congrArg (t :: ·) (words_join_capitalize hts hsingles)

/-- **Cutting a name undoes its spelling**, by underscores for all words of small letters, and by
capitals where words of one letter do not follow one another. -/
theorem words_spelled {ts : List String} (h : ∀ t ∈ ts, SmallWord t) :
    words (snakeName ts) = ts ∧ words (constantName ts) = ts ∧
      (NoSingles ts → words (typeName ts) = ts ∧ words (camelName ts) = ts) := by
  refine ⟨words_snakeName h, words_constantName h, fun hsingles => ⟨?_, ?_⟩⟩
  · rw [typeName_eq h, words_join_capitalize h hsingles]
  · exact words_camelName h hsingles.tail

/-- Single letters stand between longer words and at the end. -/
theorem words_spelled_plan :
    (∀ t ∈ ["a", "plan", "b", "of", "c"], SmallWord t) ∧ NoSingles ["a", "plan", "b", "of", "c"] ∧
      words (snakeName ["a", "plan", "b", "of", "c"]) = ["a", "plan", "b", "of", "c"] ∧
      words (constantName ["a", "plan", "b", "of", "c"]) = ["a", "plan", "b", "of", "c"] ∧
      words (typeName ["a", "plan", "b", "of", "c"]) = ["a", "plan", "b", "of", "c"] ∧
      words (camelName ["a", "plan", "b", "of", "c"]) = ["a", "plan", "b", "of", "c"] := by
  have hsmall : ∀ t ∈ ["a", "plan", "b", "of", "c"], SmallWord t := by decide
  have hsingles : NoSingles ["a", "plan", "b", "of", "c"] := by decide
  obtain ⟨hsnake, hconstant, hcapitals⟩ := words_spelled hsmall
  exact ⟨hsmall, hsingles, hsnake, hconstant, hcapitals hsingles⟩

/-- The capitals of two single letters are one word. -/
example : words (typeName ["a", "b"]) = ["ab"] := by decide +kernel

end Pseudonym.Name
