import Pseudonym.Proofs.Name.Respelling

/-!
# Accessors derived from one another

An accessor that is spelled for a property is an accessor with the same underscores in front, the
same verb and the same style (`Accessor.reads_alike`). Nothing else of it goes into the spelling of
further accessors, so it does not matter whether these are derived from the first accessor or from
one that was derived before (`Accessor.withProperty_derived`). Underscores in front of a property
play no part: its words and its form for comparison are those of its body (`propertyWords_body`,
`normalizeProperty_body`).
-/

namespace Pseudonym.Name

open Text

/-! ## Underscores in front of a property -/

theorem propertyWords_body (name : String) : propertyWords (body name) = propertyWords name := by
  have htrim : trimWhile isUnderscore (body name) = trimWhile isUnderscore name := by
    show trimRightWhile isUnderscore (body (body name)) = trimRightWhile isUnderscore (body name)
    rw [body_body]
  rw [propertyWords, htrim, propertyWords]

theorem normalizeProperty_body (name : String) :
    normalizeProperty (body name) = normalizeProperty name := by
  rw [normalizeProperty_eq, letters_body, normalizeProperty_eq]

theorem Accessor.withProperty_body (a : Accessor) (name : String) :
    a.withProperty (body name) = a.withProperty name := by
  simp only [withProperty, accessorName, propertyWords_body]

/-- A property with a letter behind its underscores, all in ASCII. -/
structure Spellable (name : String) : Prop where
  identifier : isIdentifier name
  ascii : name.toList.all (·.toNat < 128)
  letter : (body name).toList.head?.any Char.isAlpha

instance (name : String) : Decidable (Spellable name) :=
  decidable_of_iff (isIdentifier name ∧ name.toList.all (·.toNat < 128) ∧
      (body name).toList.head?.any Char.isAlpha)
    ⟨fun h => ⟨h.1, h.2.1, h.2.2⟩, fun h => ⟨h.1, h.2, h.3⟩⟩

namespace Spellable

variable {name : String}

theorem plain_body (h : Spellable name) : ∀ c ∈ (body name).toList, Plain c := by
  intro c hc
  have hname := mem_of_mem_body hc
  have hascii := List.all_eq_true.1 h.ascii c hname
  exact ⟨by simpa using hascii, continues_of_isIdentifier h.identifier c hname⟩

theorem exists_cons (h : Spellable name) :
    ∃ c cs, (body name).toList = c :: cs ∧ c.isAlpha := by
  have hletter := h.letter
  cases hbody : (body name).toList with
  | nil =>
      rw [hbody] at hletter
      cases hletter
  | cons c cs =>
      rw [hbody] at hletter
      exact ⟨c, cs, rfl, hletter⟩

end Spellable

/-! ## What stands behind the verb -/

/-- The character behind the verb tells the style. -/
theorem accessorWithVerb?_snake {lead : String} {verb : Verb} {c : Char} {more : List Char}
    {b : Accessor} (h : accessorWithVerb? lead (verb.word.toList ++ c :: more) verb = some b) :
    b.snake = isUnderscore c := by
  have hstarts : verb.word.toList.isPrefixOf (verb.word.toList ++ c :: more) :=
    List.isPrefixOf_iff_prefix.2 (List.prefix_append _ _)
  unfold accessorWithVerb? at h
  rw [hstarts, List.drop_left] at h
  dsimp only at h
  split at h
  · next hunder =>
      split at h
      · cases h
      · obtain rfl := Option.some.inj h
        exact hunder.symm
  · next hletter =>
      split at h
      · obtain rfl := Option.some.inj h
        simpa using hletter
      · cases h

/-- An accessor that is read from a name whose verb is known has the style that the character behind
the verb tells. -/
theorem snake_of_accessor? {lead : List Char} (hlead : ∀ c ∈ lead, c = '_') {verb : Verb} {c : Char}
    {more : List Char} {method : String}
    (hmethod : method.toList = lead ++ (verb.word.toList ++ c :: more)) {b : Accessor}
    (hb : accessor? method = some b) : b.snake = isUnderscore c := by
  rw [accessor?, body_append hlead verb _ hmethod] at hb
  obtain ⟨other, -, hother⟩ := List.exists_of_findSome?_eq_some hb
  by_cases hverb : other = verb
  · subst hverb
    exact accessorWithVerb?_snake hother
  · rw [accessorWithVerb?_other _ _ hverb] at hother
    cases hother

/-- Behind its verb, an accessor goes on with an underscore in the one style and with a letter in
the other. -/
theorem accessorName_eq_cons {property : String} (hplain : ∀ c ∈ property.toList, Plain c)
    {c : Char} {cs : List Char} (hfirst : property.toList = c :: cs) (halpha : c.isAlpha)
    (verb : Verb) (snake : Bool) :
    ∃ d more, (accessorName verb property snake).toList = verb.word.toList ++ d :: more ∧
      isUnderscore d = snake := by
  obtain ⟨w, ws, ds, hws, hw⟩ := propertyWords_eq_cons hplain hfirst halpha
  have hc : Plain c := hplain c (hfirst ▸ List.mem_cons_self)
  cases snake with
  | true =>
      refine ⟨'_', ("_".intercalate ((w :: ws).map lower)).toList, ?_, by decide⟩
      simp [accessorName, hws, String.intercalate_cons_cons]
  | false =>
      refine ⟨c.toUpper, ds ++ (String.join (ws.map raiseFirst)).toList, ?_, ?_⟩
      · simp [accessorName, hws, String.join_cons, toList_raiseFirst hw hc]
      · rw [hc.spec.upper_underscore]
        simpa using not_underscore_of_alpha halpha

theorem head?_word_append (verb : Verb) (rest : List Char) :
    (verb.word.toList ++ rest).head? ≠ some '_' := by
  cases verb <;> simp [Verb.word]

/-! ## Derived accessors -/

section Derived

variable {method : String} {a : Accessor} (ha : accessor? method = some a)
include ha

/-- A derived accessor is read with the underscores, the verb and the style of the one that it was
derived from. -/
theorem Accessor.reads_alike {name : String} (hname : Spellable name) :
    ∃ b, accessor? (a.withProperty name) = some b ∧ b.leading = a.leading ∧ b.verb = a.verb ∧
      b.snake = a.snake ∧ b.normalized = normalizeProperty name := by
  obtain ⟨c, cs, hfirst, halpha⟩ := hname.exists_cons
  obtain ⟨b, hb, hverb, hnormalized⟩ := read_withProperty ha hname.plain_body hfirst halpha
  obtain ⟨d, more, hspelled, hstyle⟩ :=
    accessorName_eq_cons hname.plain_body hfirst halpha a.verb a.snake
  have hlead : ∀ e ∈ a.leading.toList, e = '_' := fun _ => mem_leading ha
  have hchars : (a.withProperty (body name)).toList =
      a.leading.toList ++ (a.verb.word.toList ++ d :: more) := by
    rw [withProperty, String.toList_append, hspelled]
  have hleading : b.leading = a.leading := by
    rw [(accessor?_eq_some hb).1, leading_append hlead (head?_word_append _ _) hchars,
      String.ofList_toList]
  have hsnake : b.snake = a.snake := by
    rw [snake_of_accessor? hlead hchars hb, hstyle]
  rw [withProperty_body] at hb
  rw [normalizeProperty_body] at hnormalized
  exact ⟨b, hb, hleading, hverb, hsnake, hnormalized⟩

/-- **Deriving once more is deriving directly.** The accessor that is spelled for a property reads
back as an accessor of this property, with the underscores, the verb and the style of the one that
it was derived from, and both give the same accessors for all further properties. -/
theorem Accessor.withProperty_derived {name : String} (hname : Spellable name) :
    ∃ b, accessor? (a.withProperty name) = some b ∧
      b.leading = a.leading ∧ b.verb = a.verb ∧ b.snake = a.snake ∧
      b.normalized = normalizeProperty name ∧
      ∀ other, b.withProperty other = a.withProperty other := by
  obtain ⟨b, hb, hleading, hverb, hsnake, hnormalized⟩ := reads_alike ha hname
  refine ⟨b, hb, hleading, hverb, hsnake, hnormalized, fun other => ?_⟩
  rw [withProperty, withProperty, hleading, hverb, hsnake]

end Derived

/-- The property has underscores in front and a run of them inside, an acronym and digits, one of
them on its own. -/
theorem Accessor.withProperty_derived_mixed :
    accessor? "__set_at" = some ⟨"__", .set, "at", true⟩ ∧ Spellable "_rawID2__3" ∧
      ∃ b, accessor? "__set_raw_id23" = some b ∧ b.leading = "__" ∧ b.verb = .set ∧
        b.snake ∧ b.normalized = "rawid23" ∧ b.withProperty "X7" = "__set_x7" := by
  have ha : accessor? "__set_at" = some ⟨"__", .set, "at", true⟩ := by decide +kernel
  have hname : Spellable "_rawID2__3" := by decide +kernel
  have hspelled : (⟨"__", .set, "at", true⟩ : Accessor).withProperty "_rawID2__3" =
      "__set_raw_id23" := by decide +kernel
  obtain ⟨b, hb, hleading, hverb, hsnake, hnormalized, hfurther⟩ :=
    Accessor.withProperty_derived ha hname
  rw [hspelled] at hb
  refine ⟨ha, hname, b, hb, hleading, hverb, hsnake, ?_, ?_⟩
  · rw [hnormalized]
    decide +kernel
  · rw [hfurther "X7"]
    decide +kernel

end Pseudonym.Name
