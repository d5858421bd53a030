import Pseudonym.Proofs.Name.Accessor

/-!
# Respelled accessors are read back

An accessor that is spelled for another property reads as an accessor of that property, with the
same verb (`Accessor.read_withProperty`), provided that the property has characters of ASCII only
and starts with a letter. The words of a property have its letters and nothing else
(`flatten_propertyWords`), because every token is either of underscores or free of them; and writing
the words in small letters or with a capital in front changes their case only.
-/

namespace Pseudonym.Name

open Text

/-! ## Plain characters -/

/-- A character of ASCII that may stand in an identifier. -/
def Plain (c : Char) : Prop := c.toNat < 128 ∧ isIdentifierContinue c

/-- What holds of a plain character, told by a finite check. -/
structure Plain.Spec (c : Char) : Prop where
  category : category c = .connectorPunctuation ↔ isUnderscore c
  alphanumeric : isAlphanumeric c ↔ ¬ isUnderscore c
  lower_small : c.toLower.toNat < 128
  upper_small : c.toUpper.toNat < 128
  lower_lower : c.toLower.toLower = c.toLower
  upper_lower : c.toUpper.toLower = c.toLower
  lower_underscore : isUnderscore c.toLower = isUnderscore c
  upper_underscore : isUnderscore c.toUpper = isUnderscore c
  upper_isUpper : c.isAlpha → isUpper c.toUpper

instance (c : Char) : Decidable (Plain c) := inferInstanceAs (Decidable (_ ∧ _))

instance (c : Char) : Decidable (Plain.Spec c) :=
  decidable_of_iff
    ((category c = .connectorPunctuation ↔ isUnderscore c) ∧ (isAlphanumeric c ↔ ¬ isUnderscore c) ∧
      c.toLower.toNat < 128 ∧ c.toUpper.toNat < 128 ∧ c.toLower.toLower = c.toLower ∧
      c.toUpper.toLower = c.toLower ∧ isUnderscore c.toLower = isUnderscore c ∧
      isUnderscore c.toUpper = isUnderscore c ∧ (c.isAlpha → isUpper c.toUpper))
    ⟨fun h => ⟨h.1, h.2.1, h.2.2.1, h.2.2.2.1, h.2.2.2.2.1, h.2.2.2.2.2.1, h.2.2.2.2.2.2.1,
      h.2.2.2.2.2.2.2.1, h.2.2.2.2.2.2.2.2⟩, fun h => ⟨h.1, h.2, h.3, h.4, h.5, h.6, h.7, h.8, h.9⟩⟩

theorem Plain.spec {c : Char} (h : Plain c) : Plain.Spec c := by
  have hall : ∀ n ∈ List.range 128, Plain (Char.ofNat n) → Plain.Spec (Char.ofNat n) := by
    decide +kernel
  have hc := hall c.toNat (List.mem_range.2 h.1)
  rw [Char.ofNat_toNat] at hc
  exact hc h

/-! ## Words -/

/-- Either all characters of a token are underscores or none is. -/
def Uniform (cs : List Char) : Prop := ∀ c ∈ cs, ∀ d ∈ cs, isUnderscore c = isUnderscore d

theorem uniform_of_kind {token : List Char} {kind : Category}
    (h : ∀ c ∈ token, isUnderscore c ↔ kind = .connectorPunctuation) : Uniform token.reverse := by
  intro c hc d hd
  rw [List.mem_reverse] at hc hd
  rw [Bool.eq_iff_iff, h c hc, h d hd]

/-- The tokens of plain characters are uniform: the category tells underscores from other
characters, and a token that goes on with another category has letters only. -/
theorem uniform_splitFrom : ∀ {cs token : List Char} {kind : Category},
    (∀ c ∈ cs, Plain c) → (∀ c ∈ token, isUnderscore c ↔ kind = .connectorPunctuation) →
      ∀ t ∈ splitFrom token kind cs, Uniform t
  | [], token, kind, _, htoken, t, ht => by
      obtain rfl := List.mem_singleton.1 ht
      exact uniform_of_kind htoken
  | c :: cs, token, kind, hplain, htoken, t, ht => by
      obtain ⟨hc, hcs⟩ := List.forall_mem_cons.1 hplain
      have hself := hc.spec.category.symm
      unfold splitFrom at ht
      split at ht
      · next hkind =>
          refine uniform_splitFrom hcs (List.forall_mem_cons.2 ⟨?_, htoken⟩) t ht
          rw [← hkind]
          exact hself
      · split at ht
        · next hletters =>
            -- Neither a capital nor a small letter is an underscore.
            have hjoined : ∀ d ∈ token, isUnderscore d ↔ category c = .connectorPunctuation := by
              intro d hd
              rw [htoken d hd, hletters.1, hletters.2]
              decide
            split at ht
            · next last first more =>
                obtain ⟨hlast, hfirst⟩ := List.forall_mem_cons.1 htoken
                rcases List.mem_cons.1 ht with rfl | ht
                · exact uniform_of_kind hfirst
                · refine uniform_splitFrom hcs (List.forall_mem_cons.2 ⟨hself, ?_⟩) t ht
                  exact List.forall_mem_singleton.2 (hjoined last List.mem_cons_self)
            · exact uniform_splitFrom hcs (List.forall_mem_cons.2 ⟨hself, hjoined⟩) t ht
        · rcases List.mem_cons.1 ht with rfl | ht
          · exact uniform_of_kind htoken
          · exact uniform_splitFrom hcs (List.forall_mem_singleton.2 hself) t ht

/-- The characters of several texts. -/
def chars (ws : List String) : List Char := ws.flatMap (·.toList)

/-- A uniform token of plain characters joins the words with its letters. -/
theorem chars_pushWord {done : List String} {token : String} (hplain : ∀ c ∈ token.toList, Plain c)
    (huniform : Uniform token.toList) :
    chars (pushWord done token).reverse = chars done.reverse ++ letters token.toList := by
  unfold pushWord
  by_cases hword : isAlphanumericText token
  · have hletters : letters token.toList = token.toList := by
      refine List.filter_eq_self.2 fun c hc => ?_
      have halpha := List.all_eq_true.1 (Bool.and_eq_true _ _ ▸ hword).2 c hc
      simpa using (hplain c hc).spec.alphanumeric.1 halpha
    rw [hletters]
    simp only [hword, Bool.not_true, Bool.false_eq_true, if_false]
    split
    · simp [chars]
    · simp [chars]
  · -- A letter would leave no room for underscores, and the token would be a word.
    have hletters : letters token.toList = [] := by
      refine List.filter_eq_nil_iff.2 fun d hd hletter => hword ?_
      have hall : ∀ c ∈ token.toList, isAlphanumeric c := fun c hc => by
        rw [(hplain c hc).spec.alphanumeric, huniform c hc d hd]
        simpa using hletter
      rw [isAlphanumericText, Bool.and_eq_true, List.all_eq_true]
      exact ⟨by simpa using List.ne_nil_of_mem hd, hall⟩
    simp [hword, hletters]

theorem chars_foldl_pushWord : ∀ {tokens done : List String},
    (∀ t ∈ tokens, (∀ c ∈ t.toList, Plain c) ∧ Uniform t.toList) →
      chars (tokens.foldl pushWord done).reverse = chars done.reverse ++ letters (chars tokens)
  | [], done, _ => by simp [chars, letters]
  | t :: tokens, done, htokens => by
      obtain ⟨⟨hplain, huniform⟩, hrest⟩ := List.forall_mem_cons.1 htokens
      rw [List.foldl_cons, chars_foldl_pushWord hrest, chars_pushWord hplain huniform,
        List.append_assoc, ← letters_append]
      rfl

theorem ne_nil_of_mem_pushWord {done : List String} {token : String}
    (hdone : ∀ w ∈ done, w.toList ≠ []) : ∀ w ∈ pushWord done token, w.toList ≠ [] := by
  intro w hw
  unfold pushWord at hw
  split at hw
  · exact hdone w hw
  · next hword =>
      have htoken : token.toList ≠ [] := fun hnil => hword (by simp [isAlphanumericText, hnil])
      split at hw
      · rcases List.mem_cons.1 hw with rfl | hw
        · simp [htoken]
        · exact hdone w (List.mem_cons_of_mem _ hw)
      · rcases List.mem_cons.1 hw with rfl | hw
        · exact htoken
        · exact hdone w hw

theorem letters_trimWhile (name : String) :
    letters (trimWhile isUnderscore name).toList = letters name.toList := by
  have hreverse : ∀ cs : List Char, letters cs.reverse = (letters cs).reverse := fun cs =>
    List.filter_reverse
  rw [trimWhile, trimRightWhile, trimLeftWhile, String.toList_ofList, String.toList_ofList,
    hreverse, letters_dropWhile, hreverse, List.reverse_reverse, letters_dropWhile]

variable {property : String}

theorem uniform_of_mem_split {name token : String} (hplain : ∀ c ∈ name.toList, Plain c)
    (ht : token ∈ split name) : Uniform token.toList := by
  obtain ⟨cs, hcs, rfl⟩ := List.mem_map.1 ht
  rw [String.toList_ofList]
  unfold splitChars at hcs
  split at hcs
  · cases hcs
  · next c rest hname =>
      rw [hname] at hplain
      obtain ⟨hc, hrest⟩ := List.forall_mem_cons.1 hplain
      exact uniform_splitFrom hrest (List.forall_mem_singleton.2 hc.spec.category.symm) cs hcs

/-- **The words of a property are its letters.** -/
theorem chars_propertyWords (hplain : ∀ c ∈ property.toList, Plain c) :
    chars (propertyWords property) = letters property.toList := by
  rw [← letters_trimWhile, propertyWords]
  have hplain' : ∀ c ∈ (trimWhile isUnderscore property).toList, Plain c := fun c hc =>
    hplain c (mem_of_mem_trimWhile hc)
  generalize trimWhile isUnderscore property = trimmed at hplain' ⊢
  have hflat : chars (split trimmed) = trimmed.toList := by
    simp [chars, split, List.flatMap_map, flatten_splitChars]
  rw [chars_foldl_pushWord fun t ht =>
    ⟨fun c hc => hplain' c (mem_of_mem_split ht hc), uniform_of_mem_split hplain' ht⟩, hflat]
  rfl

theorem propertyWords_ne_nil (property : String) : ∀ w ∈ propertyWords property, w.toList ≠ [] := by
  have hfold : ∀ (tokens done : List String), (∀ w ∈ done, w.toList ≠ []) →
      ∀ w ∈ tokens.foldl pushWord done, w.toList ≠ [] := by
    intro tokens
    induction tokens with
    | nil => exact fun _ hdone => hdone
    | cons t tokens ih => exact fun done hdone => ih _ (ne_nil_of_mem_pushWord hdone)
  intro w hw
  rw [propertyWords, List.mem_reverse] at hw
  exact hfold _ [] (by simp) w hw

/-! ## Case -/

/-- The letters of a name without regard to case. -/
def caseless (cs : List Char) : List Char := (letters cs).map Char.toLower

theorem caseless_append (cs ds : List Char) :
    caseless (cs ++ ds) = caseless cs ++ caseless ds := by
  rw [caseless, letters_append, List.map_append]
  rfl

theorem toList_lower {s : String} (h : ∀ c ∈ s.toList, c.toNat < 128) :
    (lower s).toList = s.toList.map Char.toLower := by
  have happend := lowerAfter_append h [] []
  rw [List.append_nil] at happend
  rw [lower, String.toList_ofList, happend]
  simp [lowerAfter]

/-- Properties are compared by their letters without regard to case. -/
theorem toList_normalizeProperty {name : String} (h : ∀ c ∈ letters name.toList, c.toNat < 128) :
    (normalizeProperty name).toList = caseless name.toList := by
  rw [normalizeProperty_eq, toList_lower] <;> rw [String.toList_ofList]
  · rfl
  · exact h

/-- A change of plain words that is one of case. -/
structure Recases (f : String → String) : Prop where
  ascii : ∀ {w : String}, (∀ c ∈ w.toList, Plain c) → ∀ c ∈ (f w).toList, c.toNat < 128
  caseless_eq : ∀ {w : String}, (∀ c ∈ w.toList, Plain c) →
    caseless (f w).toList = caseless w.toList

theorem letters_map_toLower : ∀ {cs : List Char}, (∀ c ∈ cs, Plain c) →
    letters (cs.map Char.toLower) = (letters cs).map Char.toLower
  | [], _ => rfl
  | c :: cs, h => by
      obtain ⟨hc, hcs⟩ := List.forall_mem_cons.1 h
      have ih := letters_map_toLower hcs
      rw [List.map_cons, letters, List.filter_cons, hc.spec.lower_underscore, letters,
        List.filter_cons]
      rw [letters, letters] at ih
      split
      · rw [ih, List.map_cons]
      · exact ih

theorem recases_lower : Recases lower where
  ascii h c hc := by
    rw [toList_lower fun c hc => (h c hc).1] at hc
    obtain ⟨d, hd, rfl⟩ := List.mem_map.1 hc
    exact (h d hd).spec.lower_small
  caseless_eq h := by
    rw [toList_lower fun c hc => (h c hc).1, caseless, letters_map_toLower h, caseless,
      List.map_map]
    refine List.map_congr_left fun c hc => ?_
    exact (h c (List.mem_of_mem_filter hc)).spec.lower_lower

/-- In ASCII, a capital is one character. -/
theorem toList_raiseFirst {w : String} {c : Char} {cs : List Char} (hw : w.toList = c :: cs)
    (hc : Plain c) : (raiseFirst w).toList = c.toUpper :: cs := by
  simp only [raiseFirst, hw, String.toList_ofList, upperChar, hc.1, if_true]
  rfl

theorem recases_raiseFirst : Recases raiseFirst where
  ascii {w} h c hc := by
    cases hw : w.toList with
    | nil => simp [raiseFirst, hw] at hc
    | cons d ds =>
        rw [hw] at h
        obtain ⟨hd, hds⟩ := List.forall_mem_cons.1 h
        rw [toList_raiseFirst hw hd] at hc
        rcases List.mem_cons.1 hc with rfl | hc
        · exact hd.spec.upper_small
        · exact (hds c hc).1
  caseless_eq {w} h := by
    cases hw : w.toList with
    | nil => simp [raiseFirst, hw]
    | cons d ds =>
        rw [hw] at h
        obtain ⟨hd, -⟩ := List.forall_mem_cons.1 h
        rw [toList_raiseFirst hw hd, ← List.singleton_append, caseless_append,
          ← List.singleton_append (x := d), caseless_append]
        refine congrArg (· ++ caseless ds) ?_
        simp only [caseless, letters, List.filter_singleton, hd.spec.upper_underscore]
        cases isUnderscore d <;> simp [hd.spec.upper_lower]

/-- A change of case of each word is one of all words. -/
theorem Recases.caseless_chars {f : String → String} (hf : Recases f) : ∀ {ws : List String},
    (∀ c ∈ chars ws, Plain c) → caseless (chars (ws.map f)) = caseless (chars ws)
  | [], _ => rfl
  | w :: ws, h => by
      have hw : ∀ c ∈ w.toList, Plain c := fun c hc => h c (List.mem_append_left _ hc)
      have hws : ∀ c ∈ chars ws, Plain c := fun c hc => h c (List.mem_append_right _ hc)
      have hcons : ∀ (v : String) (vs : List String), chars (v :: vs) = v.toList ++ chars vs :=
        fun _ _ => rfl
      rw [List.map_cons, hcons, hcons, caseless_append, caseless_append, hf.caseless_eq hw,
        hf.caseless_chars hws]

theorem Recases.ascii_chars {f : String → String} (hf : Recases f) {ws : List String}
    (h : ∀ c ∈ chars ws, Plain c) : ∀ c ∈ chars (ws.map f), c.toNat < 128 := by
  intro c hc
  obtain ⟨_, hv, hc⟩ := List.mem_flatMap.1 hc
  obtain ⟨w, hw, rfl⟩ := List.mem_map.1 hv
  exact hf.ascii (fun d hd => h d (List.mem_flatMap.2 ⟨w, hw, hd⟩)) c hc

/-! ## Spelled properties -/

/-- The text behind a verb makes an accessor: an underscore and some letter, or a capital. -/
def Opens (rest : List Char) : Prop :=
  ∃ c more, rest = c :: more ∧
    ((isUnderscore c ∧ letters more ≠ []) ∨ (¬ isUnderscore c ∧ isUpper c))

/-- What stands behind the verb of an accessor that is spelled for a property. -/
structure Spells (property : String) (rest : List Char) : Prop where
  opens : Opens rest
  ascii : ∀ c ∈ rest, c.toNat < 128
  caseless_eq : caseless rest = caseless property.toList

theorem toList_join (ws : List String) : (String.join ws).toList = chars ws := by
  induction ws with
  | nil => rfl
  | cons w ws ih =>
      rw [String.join_cons, String.toList_append, ih]
      rfl

theorem caseless_intercalate : ∀ ws : List String,
    caseless ("_".intercalate ws).toList = caseless (chars ws)
  | [] => by simp [chars]
  | [w] => by simp [chars]
  | w :: v :: ws => by
      have ih := caseless_intercalate (v :: ws)
      rw [String.intercalate_cons_cons, String.toList_append, String.toList_append,
        caseless_append, caseless_append, ih, show chars (w :: v :: ws) = w.toList ++ chars (v :: ws)
        from rfl, caseless_append]
      simp [caseless, letters, isUnderscore]

theorem ascii_intercalate : ∀ {ws : List String}, (∀ c ∈ chars ws, c.toNat < 128) →
    ∀ c ∈ ("_".intercalate ws).toList, c.toNat < 128
  | [], _ => by simp
  | [w], h => by simpa [chars] using h
  | w :: v :: ws, h => by
      have ih : ∀ c ∈ ("_".intercalate (v :: ws)).toList, c.toNat < 128 :=
        ascii_intercalate fun c hc => h c (List.mem_append_right _ hc)
      intro c hc
      simp only [String.intercalate_cons_cons, String.toList_append, List.mem_append] at hc
      rcases hc with (hc | hc) | hc
      · exact h c (List.mem_append_left _ hc)
      · obtain rfl : c = '_' := by simpa using hc
        decide
      · exact ih c hc

theorem not_underscore_of_alpha {c : Char} (h : c.isAlpha) : ¬ isUnderscore c := by
  intro hc
  obtain rfl : c = '_' := by simpa [isUnderscore] using hc
  cases h

section Spelled

variable (hplain : ∀ c ∈ property.toList, Plain c)
include hplain

theorem plain_of_mem_propertyWords : ∀ c ∈ chars (propertyWords property), Plain c := by
  rw [chars_propertyWords hplain]
  exact fun c hc => hplain c (List.mem_of_mem_filter hc)

theorem caseless_propertyWords :
    caseless (chars (propertyWords property)) = caseless property.toList := by
  rw [chars_propertyWords hplain, caseless, caseless, letters, letters, List.filter_filter]
  simp only [Bool.and_self]

variable {c : Char} {cs : List Char} (hfirst : property.toList = c :: cs) (halpha : c.isAlpha)
include hfirst halpha

omit hplain in
theorem letters_of_alpha : letters property.toList = c :: letters cs := by
  rw [hfirst, letters, List.filter_cons_of_pos (by simpa using not_underscore_of_alpha halpha)]
  rfl

/-- The first word starts as the property does. -/
theorem propertyWords_eq_cons : ∃ w ws ds, propertyWords property = w :: ws ∧ w.toList = c :: ds := by
  have hchars := chars_propertyWords hplain
  rw [letters_of_alpha hfirst halpha] at hchars
  have hne := propertyWords_ne_nil property
  cases hws : propertyWords property with
  | nil =>
      rw [hws] at hchars
      cases hchars
  | cons w ws =>
      rw [hws] at hchars hne
      obtain ⟨d, ds, hw⟩ := List.exists_cons_of_ne_nil (hne w List.mem_cons_self)
      have hcons : chars (w :: ws) = w.toList ++ chars ws := rfl
      rw [hcons, hw, List.cons_append, List.cons.injEq] at hchars
      exact ⟨w, ws, ds, rfl, hchars.1 ▸ hw⟩

/-- Small words joined by underscores. -/
theorem spells_snake :
    Spells property ('_' :: ("_".intercalate ((propertyWords property).map lower)).toList) := by
  have hcaseless : caseless ("_".intercalate ((propertyWords property).map lower)).toList =
      caseless property.toList := by
    rw [caseless_intercalate, recases_lower.caseless_chars (plain_of_mem_propertyWords hplain),
      caseless_propertyWords hplain]
  refine ⟨⟨'_', _, rfl, Or.inl ⟨by decide, fun hnil => ?_⟩⟩, ?_, ?_⟩
  · rw [caseless, hnil, caseless, letters_of_alpha hfirst halpha] at hcaseless
    cases hcaseless
  · refine List.forall_mem_cons.2 ⟨by decide, ?_⟩
    exact ascii_intercalate (recases_lower.ascii_chars (plain_of_mem_propertyWords hplain))
  · rw [← hcaseless]
    simp [caseless, letters, isUnderscore]

/-- Words with a capital each. -/
theorem spells_camel : Spells property (chars ((propertyWords property).map raiseFirst)) := by
  refine ⟨?_, recases_raiseFirst.ascii_chars (plain_of_mem_propertyWords hplain), ?_⟩
  · obtain ⟨w, ws, ds, hws, hw⟩ := propertyWords_eq_cons hplain hfirst halpha
    have hc : Plain c := hplain c (hfirst ▸ List.mem_cons_self)
    have hupper := hc.spec.upper_isUpper halpha
    refine ⟨c.toUpper, ds ++ chars (ws.map raiseFirst), ?_, Or.inr ⟨?_, hupper⟩⟩
    · rw [hws, List.map_cons]
      show (raiseFirst w).toList ++ _ = _
      rw [toList_raiseFirst hw hc]
      rfl
    · rw [hc.spec.upper_underscore]
      exact not_underscore_of_alpha halpha
  · rw [recases_raiseFirst.caseless_chars (plain_of_mem_propertyWords hplain),
      caseless_propertyWords hplain]

/-- **An accessor is spelled by its verb and the letters of the property.** -/
theorem exists_spells (verb : Verb) (snake : Bool) :
    ∃ rest, (accessorName verb property snake).toList = verb.word.toList ++ rest ∧
      Spells property rest := by
  unfold accessorName
  cases snake with
  | true =>
      refine ⟨_, ?_, spells_snake hplain hfirst halpha⟩
      obtain ⟨w, ws, -, hws, -⟩ := propertyWords_eq_cons hplain hfirst halpha
      simp only [if_pos, hws, List.map_cons, String.intercalate_cons_cons]
      simp
  | false =>
      refine ⟨_, ?_, spells_camel hplain hfirst halpha⟩
      simp only [Bool.false_eq_true, if_false, String.toList_append, toList_join]

end Spelled

/-! ## Reading -/

/-- What opens behind a verb is read with this verb. -/
theorem accessorWithVerb?_of_opens (lead : String) {rest : List Char} (h : Opens rest)
    (verb : Verb) : ∃ b, accessorWithVerb? lead (verb.word.toList ++ rest) verb = some b := by
  obtain ⟨c, more, rfl, hc⟩ := h
  have hstarts : verb.word.toList.isPrefixOf (verb.word.toList ++ c :: more) :=
    List.isPrefixOf_iff_prefix.2 (List.prefix_append _ _)
  unfold accessorWithVerb?
  rw [hstarts, List.drop_left]
  dsimp only
  rcases hc with ⟨hunder, hletters⟩ | ⟨hletter, hupper⟩
  · -- Behind the underscores there is still a letter.
    have hstem : more.dropWhile isUnderscore ≠ [] := fun hnil => hletters (by
      rw [← letters_dropWhile, hnil]
      rfl)
    rw [if_pos hunder, if_neg (by simpa using hstem)]
    exact ⟨_, rfl⟩
  · rw [if_neg hletter, if_pos hupper]
    exact ⟨_, rfl⟩

/-- No verb stands in front of another one. -/
theorem accessorWithVerb?_other (lead : String) (rest : List Char) {verb other : Verb}
    (h : other ≠ verb) : accessorWithVerb? lead (verb.word.toList ++ rest) other = none := by
  have hstarts : other.word.toList.isPrefixOf (verb.word.toList ++ rest) = false := by
    cases verb <;> cases other <;> first | rfl | exact absurd rfl h
  unfold accessorWithVerb?
  rw [hstarts]

theorem body_append {lead : List Char} (hlead : ∀ c ∈ lead, c = '_') (verb : Verb)
    (rest : List Char) {method : String}
    (hmethod : method.toList = lead ++ (verb.word.toList ++ rest)) :
    (body method).toList = verb.word.toList ++ rest := by
  obtain ⟨c, cs, hword⟩ := List.exists_cons_of_ne_nil (word_ne_nil verb)
  have hc : !isUnderscore c := (word_chars verb c (hword ▸ List.mem_cons_self)).letter
  rw [body, trimLeftWhile, String.toList_ofList, hmethod, List.dropWhile_append_of_pos, hword,
    List.cons_append, List.dropWhile_cons_of_neg (by simpa using hc)]
  intro d hd
  rw [hlead d hd]
  rfl

/-- A verb with what opens behind it reads as an accessor with this verb. -/
theorem accessor?_of_opens {lead : List Char} (hlead : ∀ c ∈ lead, c = '_') (verb : Verb)
    {rest : List Char} (h : Opens rest) {method : String}
    (hmethod : method.toList = lead ++ (verb.word.toList ++ rest)) :
    ∃ b, accessor? method = some b ∧ b.verb = verb := by
  obtain ⟨b, hb⟩ := accessorWithVerb?_of_opens (leading method) h verb
  refine ⟨b, ?_, (accessorWithVerb?_eq_some hb).1⟩
  rw [accessor?, body_append hlead verb rest hmethod]
  cases verb <;> simp [Verb.all, hb, accessorWithVerb?_other]

/-- **A respelled accessor is read back** with its verb, as an accessor of the property that it was
spelled for. -/
theorem Accessor.read_withProperty {method : String} {a : Accessor}
    (ha : accessor? method = some a) (hplain : ∀ c ∈ property.toList, Plain c) {c : Char}
    {cs : List Char} (hfirst : property.toList = c :: cs) (halpha : c.isAlpha) :
    ∃ b, accessor? (a.withProperty property) = some b ∧ b.verb = a.verb ∧
      b.normalized = normalizeProperty property := by
  obtain ⟨rest, hname, hspells⟩ := exists_spells hplain hfirst halpha a.verb a.snake
  have hmethod : (a.withProperty property).toList =
      a.leading.toList ++ (a.verb.word.toList ++ rest) := by
    rw [withProperty, String.toList_append, hname]
  obtain ⟨b, hb, hverb⟩ := accessor?_of_opens (fun _ => mem_leading ha) a.verb hspells.opens hmethod
  refine ⟨b, hb, hverb, ?_⟩
  -- The letters of the name are those of the verb and of the property that is read.
  have hstem : letters b.stem.toList = letters rest := by
    have hletters := (accessor?_eq_some hb).2
    have hlead : letters a.leading.toList = [] :=
      List.filter_eq_nil_iff.2 fun d hd => by simp [mem_leading ha hd, isUnderscore]
    rw [hmethod, letters_append, letters_append, hlead, letters_word, hverb,
      List.nil_append] at hletters
    exact (List.append_cancel_left hletters).symm
  refine String.toList_injective ?_
  rw [normalized, toList_normalizeProperty, toList_normalizeProperty, ← hspells.caseless_eq,
    caseless, hstem, caseless]
  · exact fun d hd => (hplain d (List.mem_of_mem_filter hd)).1
  · rw [hstem]
    exact fun d hd => hspells.ascii d (List.mem_of_mem_filter hd)

end Pseudonym.Name
