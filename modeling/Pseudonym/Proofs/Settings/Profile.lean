import Pseudonym.Proofs.Files.Disk
import Pseudonym.Proofs.Json.RoundTrip
import Pseudonym.Settings.Profile

/-!
# Profiles are loaded as they were saved

Settings that pass every check hold words, texts, integers and lists of texts, under keys of their own.
So their text is read back (`ofProfileText_profileText`), unless an integer has too many digits to be
written: then saving fails and leaves a file that is no profile. The main statement is the round trip
through a file (`loadProfile_of_saveProfile`).
-/

namespace Pseudonym

open Files

theorem fromUTF8?_toUTF8 (s : String) : String.fromUTF8? s.toUTF8 = some s := by
  have hvalid : s.toUTF8.IsValidUTF8 := s.isValidUTF8
  rw [String.fromUTF8?, dif_pos hvalid]
  rfl

namespace Settings

/-! ## Settings as fields -/

theorem ofKey?_key (setting : Setting) : Setting.ofKey? setting.key = some setting := by
  cases setting <;> rfl

theorem mem_all (setting : Setting) : setting ∈ Setting.all := by
  cases setting <;> decide

theorem nodup_keys (s : Settings) : (s.toFields.map Prod.fst).Nodup := by
  have hkeys : s.toFields.map Prod.fst = Setting.all.map Setting.key := by
    simp [toFields, Function.comp_def]
  rw [hkeys]
  decide

/-- Fields are taken over one after another, each for its own setting. -/
theorem foldl_setField (s t : Settings) (settings : List Setting) (setting : Setting) :
    ((settings.map fun u => (u.key, s.value u)).foldl setField t).value setting =
      if setting ∈ settings then s.value setting else t.value setting := by
  induction settings generalizing t with
  | nil => rfl
  | cons u settings ih =>
    rw [List.map_cons, List.foldl_cons, ih, setField, ofKey?_key]
    by_cases hlater : setting ∈ settings
    · simp [hlater]
    · by_cases hu : setting = u
      · simp [hu, set]
      · simp [hlater, hu, set]

/-- Settings are read back from their fields. -/
theorem ofJson?_toJson (s : Settings) : ofJson? s.toJson = some s := by
  have hvalue : (ofFields s.toFields).value = s.value := by
    funext setting
    exact (foldl_setField s default Setting.all setting).trans (if_pos (mem_all setting))
  exact congrArg (fun value => some (Settings.mk value)) hvalue

/-! ## Checked values -/

/-- A value that a setting can have when it has passed its check. -/
inductive Checked : Json → Prop
  | null : Checked .null
  | bool (b : Bool) : Checked (.bool b)
  | int (n : Int) : Checked (.int n)
  | string (t : String) : Checked (.string t)
  | texts (ts : List String) : Checked (.ofTexts ts)

theorem bind_eq_ok {ε α β : Type} {x : Except ε α} {f : α → Except ε β} {b : β} (h : x >>= f = .ok b) :
    ∃ a, x = .ok a ∧ f a = .ok b := by
  cases x with
  | error e => cases h
  | ok a => exact ⟨a, rfl, h⟩

theorem checked_of_bool {s : Settings} {setting : Setting} {b : Bool}
    (h : s.checkBool setting = .ok b) : Checked (s.value setting) := by
  rw [checkBool] at h
  cases hv : s.value setting with
  | bool b => exact .bool b
  | null | number _ | string _ | array _ | object _ => simp [hv, Json.bool?] at h

theorem checked_of_int {s : Settings} {setting : Setting} {n : Int}
    (h : s.checkInt setting = .ok n) : Checked (s.value setting) := by
  rw [checkInt] at h
  cases hv : s.value setting with
  | number m =>
    cases m with
    | integer m => exact .int m
    | decimal t => simp [hv, Json.int?] at h
  | null | bool _ | string _ | array _ | object _ => simp [hv, Json.int?] at h

theorem checked_of_count {s : Settings} {setting : Setting} {n : Nat}
    (h : s.checkCount setting = .ok n) : Checked (s.value setting) := by
  obtain ⟨m, hm, -⟩ := bind_eq_ok h
  exact checked_of_int hm

theorem checked_of_tokens {s : Settings} {n : Nat} (h : s.checkTokens = .ok n) :
    Checked (s.value .maxTokens) := by
  obtain ⟨m, hm, -⟩ := bind_eq_ok h
  exact checked_of_int hm

theorem eq_texts_of_mapM {items : List Json} {texts : List String}
    (h : items.mapM Json.string? = some texts) : items = texts.map .string := by
  induction items generalizing texts with
  | nil =>
    obtain rfl : texts = [] := by simpa using h.symm
    rfl
  | cons v rest ih =>
    rw [List.mapM_cons] at h
    obtain ⟨t, ht, h⟩ := Option.bind_eq_some_iff.1 h
    obtain ⟨ts, hts, h⟩ := Option.bind_eq_some_iff.1 h
    obtain rfl : t :: ts = texts := Option.some.inj h
    cases v with
    | string u => rw [ih hts, List.map_cons, Option.some.inj ht]
    | null | bool _ | number _ | array _ | object _ => cases ht

theorem checked_of_texts {s : Settings} {setting : Setting} {texts : List String}
    (h : s.checkTexts setting = .ok texts) : Checked (s.value setting) := by
  rw [checkTexts] at h
  cases hv : s.value setting with
  | array items =>
    cases hitems : items.mapM Json.string? with
    | none => simp [hv, Json.texts?, hitems] at h
    | some ts =>
      rw [eq_texts_of_mapM hitems]
      exact .texts ts
  | null | bool _ | number _ | string _ | object _ => simp [hv, Json.texts?] at h

theorem checked_of_seed {s : Settings} {seed : Option Int} (h : s.checkSeed = .ok seed) :
    Checked (s.value .seed) := by
  rw [checkSeed] at h
  cases hv : s.value .seed with
  | null => exact .null
  | number m =>
    cases m with
    | integer m => exact .int m
    | decimal t => simp [hv, Json.int?] at h
  | bool _ | string _ | array _ | object _ => simp [hv, Json.int?] at h

theorem checked_of_choice {α : Type} {s : Settings} {setting : Setting} {ofWord? : String → Option α}
    {a : α} (h : s.checkChoice setting ofWord? = .ok a) : Checked (s.value setting) := by
  rw [checkChoice] at h
  cases hv : s.value setting with
  | string t => exact .string t
  | null | bool _ | number _ | array _ | object _ => simp [hv] at h

theorem checked_of_level {s : Settings} {level : String} (h : s.checkLevel = .ok level) :
    Checked (s.value .logLevel) := by
  rw [checkLevel] at h
  cases hv : s.value .logLevel with
  | string t => exact .string t
  | null | bool _ | number _ | array _ | object _ => simp [hv] at h

theorem checked_of_version {s : Settings} {u : Unit} (h : s.checkVersion = .ok u) :
    Checked (s.value .version) := by
  rw [checkVersion] at h
  cases hv : s.value .version with
  | string t => exact .string t
  | null | bool _ | number _ | array _ | object _ => simp [hv] at h

theorem checked_of_name {s : Settings} {name : String} (h : s.checkName = .ok name) :
    Checked (s.value .name) := by
  rw [checkName] at h
  cases hv : s.value .name with
  | string t => exact .string t
  | null | bool _ | number _ | array _ | object _ => simp [hv] at h

/-- Every setting that passed its check has a value of one of a few shapes. -/
theorem checked_of_check {s : Settings} {options : Options} (h : s.check = .ok options)
    (setting : Setting) : Checked (s.value setting) := by
  obtain ⟨_, hversion, h⟩ := bind_eq_ok h
  obtain ⟨_, hname, h⟩ := bind_eq_ok h
  obtain ⟨_, hprivate, h⟩ := bind_eq_ok h
  obtain ⟨_, hprotected, h⟩ := bind_eq_ok h
  obtain ⟨_, hpackage, h⟩ := bind_eq_ok h
  obtain ⟨_, hdefault, h⟩ := bind_eq_ok h
  obtain ⟨_, hpublic, h⟩ := bind_eq_ok h
  obtain ⟨_, hlibraries, h⟩ := bind_eq_ok h
  obtain ⟨_, hstrip, h⟩ := bind_eq_ok h
  obtain ⟨_, hinline, h⟩ := bind_eq_ok h
  obtain ⟨_, hoverloading, h⟩ := bind_eq_ok h
  obtain ⟨_, hignore, h⟩ := bind_eq_ok h
  obtain ⟨_, hserial, h⟩ := bind_eq_ok h
  obtain ⟨_, hpaths, h⟩ := bind_eq_ok h
  obtain ⟨_, -, h⟩ := bind_eq_ok h
  obtain ⟨_, hattempts, h⟩ := bind_eq_ok h
  obtain ⟨_, htokens, h⟩ := bind_eq_ok h
  obtain ⟨_, hworkers, h⟩ := bind_eq_ok h
  obtain ⟨_, hseed, h⟩ := bind_eq_ok h
  obtain ⟨_, hscope, h⟩ := bind_eq_ok h
  obtain ⟨_, hpolicy, h⟩ := bind_eq_ok h
  obtain ⟨_, hconvention, h⟩ := bind_eq_ok h
  obtain ⟨_, hlevel, -⟩ := bind_eq_ok h
  cases setting with
  | name => exact checked_of_name hname
  | version => exact checked_of_version hversion
  | renamePrivate => exact checked_of_bool hprivate
  | renameProtected => exact checked_of_bool hprotected
  | renamePackageDefault => exact checked_of_bool hpackage
  | renameDefaultMethods => exact checked_of_bool hdefault
  | renamePublic => exact checked_of_bool hpublic
  | includeLibraries => exact checked_of_bool hlibraries
  | ignoreMarkers => exact checked_of_texts hignore
  | serializationMarkers => exact checked_of_texts hserial
  | maxAttempts => exact checked_of_count hattempts
  | scope => exact checked_of_choice hscope
  | accessorPolicy => exact checked_of_choice hpolicy
  | convention => exact checked_of_choice hconvention
  | maxTokens => exact checked_of_tokens htokens
  | seed => exact checked_of_seed hseed
  | workers => exact checked_of_count hworkers
  | libraryPaths => exact checked_of_texts hpaths
  | stripComments => exact checked_of_bool hstrip
  | inlineConstants => exact checked_of_bool hinline
  | overloading => exact checked_of_bool hoverloading
  | logLevel => exact checked_of_level hlevel

theorem Checked.plain {v : Json} (h : Checked v) : v.Plain := by
  cases h with
  | texts ts =>
    change Json.PlainItems (ts.map .string)
    induction ts with
    | nil => trivial
    | cons t ts ih => exact ⟨trivial, ih⟩
  | null | bool | int | string => trivial

theorem overlong?_ofTexts (ts : List String) : (Json.ofTexts ts).overlong? = none := by
  change Json.overlongItems? (ts.map .string) = none
  induction ts with
  | nil => rfl
  | cons t ts ih => exact ih

/-- Only an integer can be too long. -/
theorem Checked.int_or {v : Json} (h : Checked v) : (∃ n, v = .int n) ∨
    (v.overlong? = none ∧ isLong v = false ∧ ∀ n, v ≠ .int n) := by
  cases h with
  | int n => exact .inl ⟨n, rfl⟩
  | texts ts => exact .inr ⟨overlong?_ofTexts ts, rfl, fun n hn => by cases hn⟩
  | null | bool | string => exact .inr ⟨rfl, rfl, fun n hn => by cases hn⟩

theorem Checked.overlong?_eq_none {v : Json} (h : Checked v) :
    v.overlong? = none ↔ ∀ n, v = .int n → n.natAbs < 10 ^ Number.maxDigits := by
  rcases h.int_or with ⟨n, rfl⟩ | ⟨hnone, -, hnot⟩
  · rw [show (Json.int n).overlong? = Json.overlongInt? n from rfl, Json.overlongInt?_eq_none]
    exact ⟨fun h m hm => by cases hm; exact h, fun h => h n rfl⟩
  · exact ⟨fun _ n hn => absurd hn (hnot n), fun _ => hnone⟩

/-- What is too long to be read is too long to be written. -/
theorem Checked.isLong_eq_false {v : Json} (h : Checked v) :
    isLong v = false ↔ v.overlong? = none := by
  rcases h.int_or with ⟨n, rfl⟩ | ⟨hnone, hlong, -⟩
  · have hlength : (toString n.natAbs).length = (Nat.toDigits 10 n.natAbs).length :=
      congrArg List.length Nat.toList_repr
    change decide (Number.maxDigits < (toString n.natAbs).length) = false ↔
      Json.overlongInt? n = none
    rw [hlength, decide_eq_false_iff_not, Json.overlongInt?]
    split <;> simp_all
  · simp [hnone, hlong]

/-! ## Integers that fit -/

/-- All integers of settings have as many digits as can be written. -/
def Fits (s : Settings) : Prop :=
  ∀ setting n, s.value setting = .int n → n.natAbs < 10 ^ Number.maxDigits

theorem plainFields_of_checked {fields : List (String × Json)} (h : ∀ f ∈ fields, Checked f.2) :
    Json.PlainFields fields := by
  induction fields with
  | nil => trivial
  | cons f fields ih =>
    exact ⟨(h f List.mem_cons_self).plain, ih fun g hg => h g (List.mem_cons_of_mem f hg)⟩

theorem overlongFields?_eq_none {fields : List (String × Json)} :
    Json.overlongFields? fields = none ↔ ∀ f ∈ fields, f.2.overlong? = none := by
  induction fields with
  | nil => simp [Json.overlongFields?]
  | cons f fields ih => simp [Json.overlongFields?, ih]

section

variable {s : Settings} (hchecked : ∀ setting, Checked (s.value setting))

include hchecked

theorem checked_of_mem_toFields {f : String × Json} (hf : f ∈ s.toFields) : Checked f.2 := by
  obtain ⟨setting, -, rfl⟩ := List.mem_map.1 hf
  exact hchecked setting

theorem fits_iff : s.Fits ↔ ∀ f ∈ s.toFields, f.2.overlong? = none := by
  simp only [toFields, List.forall_mem_map, mem_all, forall_const,
    (hchecked _).overlong?_eq_none]
  rfl

theorem parse_profileText :
    Json.parse s.profileText = Json.reading (Json.overlongFields? s.toFields) s.toJson :=
  Json.parse_pretty
    ⟨s.nodup_keys, plainFields_of_checked fun _ => checked_of_mem_toFields hchecked⟩

/-- All of settings that fit is written. -/
theorem written_of_fits (hfits : s.Fits) : s.written = (s.profileText, true) := by
  have hall : s.toFields.dropWhile (fun f => !isLong f.2) = [] := by
    rw [List.dropWhile_eq_nil_iff]
    intro f hf
    have hlong := (checked_of_mem_toFields hchecked hf).isLong_eq_false
    simp [hlong.2 ((fits_iff hchecked).1 hfits f hf)]
  rw [written, List.span_eq_takeWhile_dropWhile, hall]

/-- Of other settings only some fields are written. -/
theorem written_of_not_fits (hfits : ¬ s.Fits) : ∃ key done,
    s.written = ("\x7b" ++ Json.prettyFieldsBefore 1 key done, false) ∧
      (∀ f ∈ done, Checked f.2) ∧ ∀ f ∈ done, f.2.overlong? = none := by
  rw [written, List.span_eq_takeWhile_dropWhile]
  have hdone : ∀ f ∈ s.toFields.takeWhile (fun f => !isLong f.2), Checked f.2 := fun f hf =>
    checked_of_mem_toFields hchecked ((List.takeWhile_sublist _).subset hf)
  cases hrest : s.toFields.dropWhile (fun f => !isLong f.2) with
  | nil =>
    refine absurd ((fits_iff hchecked).2 fun f hf => ?_) hfits
    have hlong := List.dropWhile_eq_nil_iff.1 hrest f hf
    exact (checked_of_mem_toFields hchecked hf).isLong_eq_false.1 (by simpa using hlong)
  | cons f rest =>
    refine ⟨f.1, _, rfl, hdone, fun f hf => (hdone f hf).isLong_eq_false.1 ?_⟩
    simpa using List.mem_takeWhile_imp hf

end

/-! ## Saving and loading -/

theorem ofProfileText_of_fits {s : Settings} {options : Options} (h : s.check = .ok options)
    (hfits : s.Fits) : ofProfileText s.profileText = .ok (s, options) := by
  have hchecked := checked_of_check h
  have hnone := overlongFields?_eq_none.2 ((fits_iff hchecked).1 hfits)
  have hload : load s.toJson = .ok (s, options) := by
    rw [load, ofJson?_toJson]
    simp only [h, bind, Except.bind, pure, Except.pure]
  rw [ofProfileText, parse_profileText hchecked, hnone]
  simp only [Json.reading, hload]

theorem ofProfileText_of_not_fits {s : Settings} {options : Options} (h : s.check = .ok options)
    (hfits : ¬ s.Fits) : ∃ digits, ofProfileText s.profileText = .error (.unreadNumber digits) := by
  have hchecked := checked_of_check h
  cases hlong : Json.overlongFields? s.toFields with
  | none => exact absurd ((fits_iff hchecked).2 (overlongFields?_eq_none.1 hlong)) hfits
  | some digits =>
    refine ⟨digits, ?_⟩
    rw [ofProfileText, parse_profileText hchecked, hlong]
    rfl

/-- Nothing that breaks off is a profile. -/
theorem ofProfileText_written {s : Settings} {options : Options} (h : s.check = .ok options)
    (hfits : ¬ s.Fits) : ofProfileText s.written.1 = .error .notData := by
  obtain ⟨key, done, hwritten, hchecked, hdone⟩ := written_of_not_fits (checked_of_check h) hfits
  rw [hwritten, ofProfileText,
    Json.parse_before (plainFields_of_checked hchecked) (overlongFields?_eq_none.2 hdone)]

/-- What was written is what is loaded. -/
theorem loadProfile_of_write {d d' : Disk} {p : Path} {text : String}
    (h : d.write p text.toUTF8 = .ok d') : loadProfile d' p = ofProfileText text := by
  obtain ⟨hcontains, hread⟩ := Disk.read_of_write h
  rw [loadProfile, hcontains, hread]
  simp only [fromUTF8?_toUTF8, Bool.not_true, Bool.false_eq_true, if_false]

theorem saveProfile_of_write {s : Settings} {options : Options} {d d₁ d₂ : Disk} {p : Path}
    (h : s.check = .ok options) (hfolder : d.ensureFolder p.parent = .ok d₁)
    (hwrite : d₁.write p s.written.1.toUTF8 = .ok d₂) :
    s.saveProfile d p = (if s.written.2 then .ok () else .error .longNumber, d₂) := by
  simp only [saveProfile, h, hfolder, hwrite]

/-- What saving and loading do with settings, as far as the disk allows. -/
structure RoundTrips (s : Settings) (options : Options) : Prop where
  /-- Settings are read back from their data. -/
  data : ofJson? s.toJson = some s
  /-- They are read back from their text. -/
  text : s.Fits → ofProfileText s.profileText = .ok (s, options)
  /-- They are loaded from where they were saved. -/
  file : s.Fits → ∀ {d d₁ d₂ : Disk} {p : Path}, d.ensureFolder p.parent = .ok d₁ →
    d₁.write p s.profileText.toUTF8 = .ok d₂ →
      s.saveProfile d p = (.ok (), d₂) ∧ loadProfile d₂ p = .ok (s, options) ∧
        isProfile d₂ p = .ok true
  /-- Only the disk keeps them from being saved. -/
  saved : s.Fits → ∀ d p, (s.saveProfile d p).1 = .ok () ∨
    ∃ e, (s.saveProfile d p).1 = .error (.unwritten e)
  /-- An integer that is too long is not read. -/
  unread : ¬ s.Fits → ∃ digits, ofProfileText s.profileText = .error (.unreadNumber digits)
  /-- Nor is it written, and what stands before it is no profile. -/
  unsaved : ¬ s.Fits → ∀ {d d₁ d₂ : Disk} {p : Path}, d.ensureFolder p.parent = .ok d₁ →
    d₁.write p s.written.1.toUTF8 = .ok d₂ →
      s.saveProfile d p = (.error .longNumber, d₂) ∧ loadProfile d₂ p = .error .notData

/-- **Settings that pass every check are loaded as they were saved**, if their integers have at most as
many digits as can be written; if not, they can neither be saved nor be read from their text. -/
theorem loadProfile_of_saveProfile {s : Settings} {options : Options} (h : s.check = .ok options) :
    RoundTrips s options where
  data := ofJson?_toJson s
  text := ofProfileText_of_fits h
  file hfits {d d₁ d₂ p} hfolder hwrite := by
    have hwritten := written_of_fits (checked_of_check h) hfits
    have hsaved := saveProfile_of_write h hfolder (by rw [hwritten]; exact hwrite)
    have hloaded : loadProfile d₂ p = .ok (s, options) :=
      (loadProfile_of_write hwrite).trans (ofProfileText_of_fits h hfits)
    rw [hwritten] at hsaved
    exact ⟨hsaved, hloaded, by rw [isProfile, hloaded]⟩
  saved hfits d p := by
    have hwritten := written_of_fits (checked_of_check h) hfits
    simp only [saveProfile, h, hwritten]
    split
    · exact .inr ⟨_, rfl⟩
    · split
      · exact .inr ⟨_, rfl⟩
      · exact .inl rfl
  unread := ofProfileText_of_not_fits h
  unsaved hfits {d d₁ d₂ p} hfolder hwrite := by
    obtain ⟨key, done, hwritten, -⟩ := written_of_not_fits (checked_of_check h) hfits
    have hsaved := saveProfile_of_write h hfolder hwrite
    rw [hwritten] at hsaved
    exact ⟨hsaved, (loadProfile_of_write hwrite).trans (ofProfileText_written h hfits)⟩

/-- A name with a quote, a backslash, a line feed and a character outside the first plane, a negative
seed, and a level in mixed case. -/
theorem loadProfile_of_saveProfile_escaped :
    let s := ((default.set .name (.string "a\"\\\n😀")).set .seed (.int (-7))).set .logLevel
      (.string "Debug")
    ∃ options, s.check = .ok options ∧ s.Fits ∧ RoundTrips s options := by
  intro s
  have hok : s.check.toOption.isSome = true := by decide +kernel
  have hsmall : ∀ setting n, s.value setting = .int n → n.natAbs < 10 := by
    intro setting n hn
    cases setting <;> cases hn <;> decide
  cases h : s.check with
  | error f => simp [h, Except.toOption] at hok
  | ok options =>
    refine ⟨options, rfl, fun setting n hn => ?_, loadProfile_of_saveProfile h⟩
    exact (hsmall setting n hn).trans_le (Nat.le_self_pow (by decide) 10)

/-- Settings with a seed of one digit too many pass every check. -/
theorem not_forall_ofProfileText : ¬ ∀ (s : Settings) (options : Options), s.check = .ok options →
    ofProfileText s.profileText = .ok (s, options) := by
  intro hall
  set s := default.set .seed (.int ((10 ^ Number.maxDigits : Nat) : Int)) with hs
  have hok : s.check.toOption.isSome = true := by decide +kernel
  have hlong : ¬ s.Fits := fun hfits => (hfits .seed _ rfl).ne rfl
  cases h : s.check with
  | error f => simp [h, Except.toOption] at hok
  | ok options =>
    obtain ⟨digits, hunread⟩ := ofProfileText_of_not_fits h hlong
    rw [hall s options h] at hunread
    cases hunread

end Settings

end Pseudonym
