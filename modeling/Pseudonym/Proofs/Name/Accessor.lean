import Pseudonym.Name.Accessor
import Pseudonym.Proofs.Name.Underscores
import Pseudonym.Proofs.Text.Identifier

/-!
# Accessors and the properties they are for

Properties are compared without underscores and in lower case. A method that is an accessor of a
property is never spelled like a field that holds it (`accessor?_normalized_ne`): the verb adds
letters, and lower case loses none of them. An accessor spelled for another property is an
identifier whenever the characters of the property may stand in one
(`Accessor.isIdentifier_withProperty`), whatever the property starts with, and in lower case it
still starts with its verb (`Accessor.lower_withProperty`).
-/

namespace Pseudonym.Text

theorem length_lowerChar (before before' : List Char) (c : Char) (after : List Char) :
    (lowerChar before c after).length = (lowerChar before' c after).length := by
  unfold lowerChar
  split
  · rfl
  · split <;> rfl

/-- What stands before a text does not change the length of its lower case. -/
theorem length_lowerAfter : ∀ (cs before before' : List Char),
    (lowerAfter before cs).length = (lowerAfter before' cs).length
  | [], _, _ => rfl
  | c :: cs, before, before' => by
      rw [lowerAfter, lowerAfter, List.length_append, List.length_append,
        length_lowerChar before before', length_lowerAfter cs (c :: before) (c :: before')]

/-- Characters of ASCII are put into lower case one by one. -/
theorem lowerAfter_append : ∀ {ascii : List Char}, (∀ c ∈ ascii, c.toNat < 128) →
    ∀ before cs : List Char, lowerAfter before (ascii ++ cs) =
      ascii.map Char.toLower ++ lowerAfter (ascii.reverse ++ before) cs
  | [], _, before, cs => rfl
  | c :: ascii, hascii, before, cs => by
      obtain ⟨hc, hrest⟩ := List.forall_mem_cons.1 hascii
      rw [List.cons_append, lowerAfter, lowerChar, if_pos hc,
        lowerAfter_append hrest (c :: before) cs]
      simp

end Pseudonym.Text

namespace Pseudonym.Name

open Text

/-! ## Underscores -/

/-- The characters of a name other than underscores. -/
def letters (cs : List Char) : List Char := cs.filter fun c => !isUnderscore c

theorem letters_append (cs ds : List Char) : letters (cs ++ ds) = letters cs ++ letters ds :=
  List.filter_append ..

theorem letters_dropWhile : ∀ cs : List Char, letters (cs.dropWhile isUnderscore) = letters cs
  | [] => rfl
  | c :: cs => by
      by_cases hc : isUnderscore c
      · rw [List.dropWhile_cons_of_pos hc, letters_dropWhile cs]
        simp [letters, hc]
      · rw [List.dropWhile_cons_of_neg hc]

theorem normalizeProperty_eq (name : String) :
    normalizeProperty name = lower (String.ofList (letters name.toList)) := rfl

theorem letters_body (name : String) : letters (body name).toList = letters name.toList := by
  rw [body, trimLeftWhile, String.toList_ofList, letters_dropWhile]

/-- The property of a field has the letters of the field. -/
theorem normalizeProperty_property (field : String) :
    normalizeProperty (property field) = normalizeProperty field := by
  unfold property
  split
  · rfl
  · rw [normalizeProperty_eq, letters_body, normalizeProperty_eq]

/-! ## Verbs -/

theorem word_ne_nil (verb : Verb) : verb.word.toList ≠ [] := by
  cases verb <;> decide

/-- What the characters of a verb are. -/
structure VerbChar (c : Char) : Prop where
  ascii : c.toNat < 128
  lower : c.toLower = c
  letter : !isUnderscore c
  start : isIdentifierStart c

theorem word_chars (verb : Verb) : ∀ c ∈ verb.word.toList, VerbChar c := by
  have hall : verb.word.toList.all fun c =>
      c.toNat < 128 && c.toLower = c && !isUnderscore c && isIdentifierStart c := by
    cases verb <;> decide
  intro c hc
  have hchar := List.all_eq_true.1 hall c hc
  simp only [Bool.and_eq_true, decide_eq_true_eq] at hchar
  obtain ⟨⟨⟨hascii, hlower⟩, hletter⟩, hstart⟩ := hchar
  exact ⟨hascii, hlower, hletter, hstart⟩

theorem letters_word (verb : Verb) : letters verb.word.toList = verb.word.toList :=
  List.filter_eq_self.2 fun c hc => (word_chars verb c hc).letter

theorem continues_word (verb : Verb) : Continues verb.word :=
  fun c hc => isIdentifierContinue_of_start (word_chars verb c hc).start

/-- A name that reads as an accessor has the letters of its verb and of its property. -/
theorem accessorWithVerb?_eq_some {lead : String} {rest : List Char} {verb : Verb} {a : Accessor}
    (h : accessorWithVerb? lead rest verb = some a) :
    a.verb = verb ∧ a.leading = lead ∧
      letters rest = verb.word.toList ++ letters a.stem.toList := by
  unfold accessorWithVerb? at h
  split at h
  · cases h
  · cases h
  · next c more hprefix hdrop =>
      -- The verb stands in front, so `c :: more` is what follows it.
      obtain ⟨tail, rfl⟩ := List.isPrefixOf_iff_prefix.1 hprefix
      rw [List.drop_left] at hdrop
      subst hdrop
      rw [letters_append, letters_word]
      split at h
      · next hc =>
          dsimp only at h
          split at h
          · cases h
          · obtain rfl := Option.some.inj h
            refine ⟨rfl, rfl, ?_⟩
            rw [String.toList_ofList, letters_dropWhile]
            simp [letters, hc]
      · split at h
        · obtain rfl := Option.some.inj h
          exact ⟨rfl, rfl, by rw [String.toList_ofList]⟩
        · cases h

theorem accessor?_eq_some {method : String} {a : Accessor} (h : accessor? method = some a) :
    a.leading = leading method ∧
      letters method.toList = a.verb.word.toList ++ letters a.stem.toList := by
  obtain ⟨verb, -, hverb⟩ := List.exists_of_findSome?_eq_some h
  obtain ⟨rfl, hlead, hletters⟩ := accessorWithVerb?_eq_some hverb
  rw [letters_body] at hletters
  exact ⟨hlead, hletters⟩

/-- An accessor of a property is not spelled like a field that holds it. -/
theorem accessor?_normalized_ne {method : String} {a : Accessor} (h : accessor? method = some a) :
    a.normalized ≠ normalizeProperty (property method) := by
  intro heq
  rw [normalizeProperty_property, Accessor.normalized, normalizeProperty_eq, normalizeProperty_eq,
    (accessor?_eq_some h).2] at heq
  -- The letters of the verb come on top of those of the property, so the lengths differ.
  have hlength := congrArg (fun s => s.toList.length) heq
  simp only [lower, String.toList_ofList] at hlength
  have hword : 0 < a.verb.word.toList.length := List.length_pos_iff.2 (word_ne_nil a.verb)
  rw [lowerAfter_append fun c hc => (word_chars a.verb c hc).ascii, List.length_append,
    List.length_map] at hlength
  have hstem := length_lowerAfter (letters a.stem.toList) (a.verb.word.toList.reverse ++ []) []
  omega

/-! ## Words -/

/-- The tokens of a name put together are the name. -/
theorem flatten_splitFrom : ∀ (cs token : List Char) (kind : Category),
    (splitFrom token kind cs).flatten = token.reverse ++ cs
  | [], token, kind => by simp [splitFrom]
  | c :: cs, token, kind => by
      have hgoOn : (splitFrom (c :: token) (category c) cs).flatten = token.reverse ++ c :: cs := by
        rw [flatten_splitFrom cs (c :: token)]
        simp
      -- Wherever a token ends, its characters and those still to come are the same.
      unfold splitFrom
      split
      · next hkind =>
          rw [← hkind]
          exact hgoOn
      · split
        · rcases token with _ | ⟨last, _ | ⟨first, more⟩⟩
          · exact hgoOn
          · exact hgoOn
          · dsimp only
            rw [List.flatten_cons, flatten_splitFrom cs [c, last]]
            simp
        · rw [List.flatten_cons, flatten_splitFrom cs [c]]
          simp

theorem flatten_splitChars (cs : List Char) : (splitChars cs).flatten = cs := by
  cases cs with
  | nil => rfl
  | cons c cs => exact flatten_splitFrom cs [c] (category c)

theorem mem_of_mem_split {name token : String} (ht : token ∈ split name) {c : Char}
    (hc : c ∈ token.toList) : c ∈ name.toList := by
  obtain ⟨cs, hcs, rfl⟩ := List.mem_map.1 ht
  rw [String.toList_ofList] at hc
  rw [← flatten_splitChars name.toList]
  exact List.mem_flatten.2 ⟨cs, hcs, hc⟩

theorem continues_of_mem_split {name token : String} (h : Continues name)
    (ht : token ∈ split name) : Continues token :=
  fun c hc => h c (mem_of_mem_split ht hc)

theorem mem_of_mem_trimWhile {p : Char → Bool} {name : String} {c : Char}
    (hc : c ∈ (trimWhile p name).toList) : c ∈ name.toList := by
  unfold trimWhile trimRightWhile trimLeftWhile at hc
  rw [String.toList_ofList, String.toList_ofList, List.mem_reverse] at hc
  have hmem := (List.dropWhile_sublist p).subset hc
  rw [List.mem_reverse] at hmem
  exact (List.dropWhile_sublist p).subset hmem

theorem continues_trimWhile {p : Char → Bool} {name : String} (h : Continues name) :
    Continues (trimWhile p name) :=
  fun c hc => h c (mem_of_mem_trimWhile hc)

theorem continues_pushWord {done : List String} {token : String} (hdone : ∀ w ∈ done, Continues w)
    (ht : Continues token) : ∀ w ∈ pushWord done token, Continues w := by
  intro w hw
  unfold pushWord at hw
  split at hw
  · exact hdone w hw
  · split at hw
    · next last more _ =>
        rcases List.mem_cons.1 hw with rfl | hw
        · exact (hdone last List.mem_cons_self).append ht
        · exact hdone w (List.mem_cons_of_mem _ hw)
    · rcases List.mem_cons.1 hw with rfl | hw
      · exact ht
      · exact hdone w hw

theorem continues_propertyWords {name : String} (h : Continues name) :
    ∀ w ∈ propertyWords name, Continues w := by
  have hfold : ∀ (tokens done : List String), (∀ t ∈ tokens, Continues t) →
      (∀ w ∈ done, Continues w) → ∀ w ∈ tokens.foldl pushWord done, Continues w := by
    intro tokens
    induction tokens with
    | nil => exact fun _ _ hdone => hdone
    | cons t tokens ih =>
        intro done htokens hdone
        exact ih _ (fun u hu => htokens u (List.mem_cons_of_mem _ hu))
          (continues_pushWord hdone (htokens t List.mem_cons_self))
  intro w hw
  rw [propertyWords, List.mem_reverse] at hw
  exact hfold _ [] (fun t ht => continues_of_mem_split (continues_trimWhile h) ht) (by simp) w hw

/-! ## Names of accessors -/

theorem continues_raiseFirst {word : String} (h : Continues word) :
    Continues (raiseFirst word) := by
  unfold raiseFirst
  split
  · simp [Continues]
  · next c cs hword =>
      intro d hd
      rw [String.toList_ofList, List.mem_append] at hd
      rcases hd with hd | hd
      · exact upperChar_continue (h c (by rw [hword]; exact List.mem_cons_self)) hd
      · exact h d (by rw [hword]; exact List.mem_cons_of_mem _ hd)

theorem isIdentifierStart_underscore : isIdentifierStart '_' := by decide

theorem continues_underscore : Continues "_" := by
  intro c hc
  obtain rfl : c = '_' := by simpa using hc
  exact isIdentifierContinue_of_start isIdentifierStart_underscore

/-- The name of an accessor is its verb and what is made of the property. -/
theorem accessorName_eq (verb : Verb) {property : String} (h : Continues property) (snake : Bool) :
    ∃ rest, Continues rest ∧ accessorName verb property snake = verb.word ++ rest := by
  have hwords := continues_propertyWords h
  unfold accessorName
  cases snake with
  | true =>
      have hlower : ∀ w ∈ (propertyWords property).map lower, Continues w := by
        intro w hw
        obtain ⟨v, hv, rfl⟩ := List.mem_map.1 hw
        exact (hwords v hv).lower
      dsimp only
      cases hws : (propertyWords property).map lower with
      | nil => exact ⟨"", by simp [Continues], by simp⟩
      | cons w ws =>
          rw [hws] at hlower
          refine ⟨"_" ++ "_".intercalate (w :: ws),
            continues_underscore.append (Continues.intercalate continues_underscore hlower), ?_⟩
          rw [if_pos rfl, String.intercalate_cons_cons, String.append_assoc]
  | false =>
      refine ⟨_, Continues.join fun w hw => ?_, rfl⟩
      obtain ⟨v, hv, rfl⟩ := List.mem_map.1 hw
      exact continues_raiseFirst (hwords v hv)

theorem Accessor.mem_leading {method : String} {a : Accessor} (ha : accessor? method = some a)
    {c : Char} (hc : c ∈ a.leading.toList) : c = '_' := by
  rw [(accessor?_eq_some ha).1] at hc
  exact Name.mem_leading hc

/-- An accessor spelled for another property is an identifier. -/
theorem Accessor.isIdentifier_withProperty {method : String} {a : Accessor}
    (ha : accessor? method = some a) {property : String} (h : Continues property) :
    isIdentifier (a.withProperty property) := by
  obtain ⟨rest, hrest, hname⟩ := accessorName_eq a.verb h a.snake
  rw [withProperty, hname, isIdentifier_iff]
  constructor
  · refine Continues.append (fun c hc => ?_) ((continues_word a.verb).append hrest)
    rw [mem_leading ha hc]
    exact isIdentifierContinue_of_start isIdentifierStart_underscore
  · rw [String.toList_append, String.toList_append]
    cases hcs : a.leading.toList with
    | nil =>
        cases hverb : a.verb.word.toList with
        | nil => exact absurd hverb (word_ne_nil a.verb)
        | cons v vs => exact (word_chars a.verb v (hverb ▸ List.mem_cons_self)).start
    | cons c cs =>
        obtain rfl : c = '_' := mem_leading ha (hcs ▸ List.mem_cons_self)
        exact isIdentifierStart_underscore

/-- In lower case the underscores and the verb of an accessor are still there. -/
theorem Accessor.lower_withProperty {method : String} {a : Accessor}
    (ha : accessor? method = some a) {property : String} (h : Continues property) :
    ∃ rest, (lower (a.withProperty property)).toList =
      a.leading.toList ++ a.verb.word.toList ++ rest := by
  obtain ⟨rest, -, hname⟩ := accessorName_eq a.verb h a.snake
  have hchars : ∀ c ∈ a.leading.toList ++ a.verb.word.toList, c.toNat < 128 ∧ c.toLower = c := by
    intro c hc
    rcases List.mem_append.1 hc with hc | hc
    · rw [mem_leading ha hc]
      decide
    · exact ⟨(word_chars a.verb c hc).ascii, (word_chars a.verb c hc).lower⟩
  have hlower : (a.leading.toList ++ a.verb.word.toList).map Char.toLower =
      a.leading.toList ++ a.verb.word.toList := by
    rw [List.map_congr_left fun c hc => (hchars c hc).2]
    exact List.map_id' _
  rw [withProperty, hname, lower, String.toList_ofList, String.toList_append, String.toList_append,
    ← List.append_assoc, lowerAfter_append fun c hc => (hchars c hc).1, hlower]
  exact ⟨_, rfl⟩

end Pseudonym.Name
