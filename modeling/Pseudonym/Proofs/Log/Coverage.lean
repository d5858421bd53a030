import Pseudonym.Proofs.Log.Hierarchy

/-!
# What setting up a logger covers

Asking for a logger is not only a question: one that nothing above would handle is set up on its
own, for the console and with a level. Setting up a logger above it later leaves that as it is. So
the two kinds of calls do not commute, and the registry is followed in two phases: while loggers are
only asked for (`Scattered`), and from the moment on at which one above all of them was set up
(`Configured`). In the second phase asking changes nothing any more.
-/

namespace Pseudonym.Log

open Files Text

namespace Registry

variable {r : Registry}

/-! ## Setting up -/

/-- A logger with a level and a handler for the console. -/
def shown (r : Registry) (name level : String) : Registry :=
  (r.set name { r.get name with level := some level }).addHandler name ⟨.console, level⟩

theorem get_addHandler (name n : String) (h : Handler) :
    (r.addHandler name h).get n =
      if Same n name then { r.get name with handlers := (r.get name).handlers ++ [h] }
      else r.get n :=
  get_set name n _

section Setup

variable {name level l : String} (hlevel : checkLevel level = .ok l)
  (hsilent : (r.get name).handlers = [])

include hsilent in
theorem get_shown (n : String) :
    (r.shown name l).get n =
      if Same n name then { r.get name with level := some l, handlers := [⟨.console, l⟩] }
      else r.get n := by
  simp only [shown, get_addHandler, get_set, same_self, if_true, hsilent, List.nil_append]
  split <;> rfl

include hlevel hsilent

/-- Setting up a silent logger makes it shown; a file, if wanted, comes on top. -/
theorem setup_of_silent (d : Disk) (file : Option Path) :
    r.setup d name level file =
      match file with
      | none => (none, r.shown name l, d)
      | some p =>
        match openFile d p with
        | .error e => (some (.file e), r.shown name l, d)
        | .ok d => (none, (r.shown name l).addHandler name ⟨.file, "DEBUG"⟩, d) := by
  let levelled := r.set name { r.get name with level := some l }
  have hlevelled : r.setLevel name level = .ok levelled := by
    rw [setLevel, hlevel]
    rfl
  have hbare : (levelled.get name).has .console = false := by
    simp [levelled, get_set, same_self, Logger.has, hsilent]
  have hshown : (levelled.addConsole name level).toOption.getD levelled = r.shown name l := by
    rw [addConsole, hlevel]
    rfl
  have hnofile : ((r.shown name l).get name).has .file = false := by
    simp [get_shown hsilent, same_self, Logger.has]
  have hdebug : checkLevel "DEBUG" = .ok "DEBUG" := by decide +kernel
  simp only [setup, hlevelled, hbare, Bool.false_eq_true, if_false, hshown]
  cases file with
  | none => rfl
  | some p =>
      simp only [hnofile, Bool.false_eq_true, if_false, addFile, hdebug]
      cases openFile d p <;> rfl

/-- So the logger has one handler for the console. -/
theorem get_setup (d : Disk) (file : Option Path) :
    ∃ more, (∀ h ∈ more, h.kind ≠ .console) ∧
      ∀ n, (r.setup d name level file).2.1.get n =
        if Same n name then
          { r.get name with level := some l, handlers := ⟨.console, l⟩ :: more }
        else r.get n := by
  rw [setup_of_silent hlevel hsilent]
  cases file with
  | none => exact ⟨[], by simp, get_shown hsilent⟩
  | some p =>
      cases hopen : openFile d p with
      | error e =>
          simp only [hopen]
          exact ⟨[], by simp, get_shown hsilent⟩
      | ok d' =>
          simp only [hopen]
          refine ⟨[⟨.file, "DEBUG"⟩], by simp, ?_⟩
          intro n
          simp only [get_addHandler, get_shown hsilent, same_self, if_true]
          by_cases h : Same n name
          · rw [if_pos h, if_pos h]
            rfl
          · rw [if_neg h, if_neg h, if_neg h]

end Setup

/-! ## Asking -/

/-- The search upwards changes nothing, and what it finds has handlers. -/
theorem searchAbove_spec (names : List String) :
    (r.searchAbove names).2.get = r.get ∧
      ((r.searchAbove names).1 → ∃ a ∈ names, (r.get a).handlers ≠ []) := by
  induction names generalizing r with
  | nil => exact ⟨rfl, by simp [searchAbove]⟩
  | cons a names ih =>
      obtain ⟨hget, hfound⟩ := ih (r := r.touch a)
      rw [get_touch] at hget hfound
      by_cases hempty : (r.get a).handlers = []
      · have hgo : r.searchAbove (a :: names) = (r.touch a).searchAbove names := by
          simp [searchAbove, get_touch, hempty]
        rw [hgo]
        refine ⟨hget, ?_⟩
        intro h
        obtain ⟨b, hb, hhandlers⟩ := hfound h
        exact ⟨b, List.mem_cons_of_mem a hb, hhandlers⟩
      · have hstop : r.searchAbove (a :: names) = (true, r.touch a) := by
          simp [searchAbove, get_touch, hempty]
        rw [hstop]
        exact ⟨get_touch a, fun _ => ⟨a, List.mem_cons_self, hempty⟩⟩

theorem passing_touch (hr : r.Passing) (name : String) : (r.touch name).Passing := by
  intro n
  rw [get_touch]
  exact hr n

section Ask

variable {name : String} (hr : r.Passing) (hname : ¬ isRoot name)
include hr hname

/-- A logger whose records are handled stays as it is. -/
theorem ask_of_handled (h : ∃ a ∈ lineage name, (r.get a).handlers ≠ []) :
    (r.ask name).get = r.get := by
  have hhandled : (r.touch name).isHandled name := by
    rw [isHandled_iff (passing_touch hr name) hname, get_touch]
    exact h
  rw [ask, if_pos hhandled, get_touch]

/-- Any other logger is set up, and no other one changes. -/
theorem ask_of_unhandled (h : ∀ a ∈ lineage name, (r.get a).handlers = []) (n : String) :
    (r.ask name).get n =
      if n = name then { r.get name with level := some "INFO", handlers := [⟨.console, "INFO"⟩] }
      else r.get n := by
  have hunhandled : ¬ (r.touch name).isHandled name := by
    rw [isHandled_iff (passing_touch hr name) hname, get_touch]
    intro hsome
    obtain ⟨a, ha, hhandlers⟩ := hsome
    exact hhandlers (h a ha)
  obtain ⟨hget, hfound⟩ := searchAbove_spec (r := r.touch name) (namesAbove name)
  rw [get_touch] at hget hfound
  -- The search finds nothing that is not on the way up: the root goes by several names.
  have hnone : ((r.touch name).searchAbove (namesAbove name)).1 = false := by
    rw [Bool.eq_false_iff]
    intro hsome
    obtain ⟨a, ha, hhandlers⟩ := hfound hsome
    by_cases hroot : isRoot a
    · rw [get_eq_get_empty hroot] at hhandlers
      exact hhandlers (h "" (mem_lineage.2 (.inl rfl)))
    · exact hhandlers (h a (mem_lineage.2 (.inr ⟨hroot, .inr (mem_namesAbove.1 ha).2⟩)))
  have hempty : ((r.touch name).searchAbove (namesAbove name)).2.root.handlers = [] := by
    have hroot : ((r.touch name).searchAbove (namesAbove name)).2.get "" = r.get "" := by
      rw [hget]
    rw [get_of_isRoot rfl] at hroot
    rw [hroot]
    exact h "" (mem_lineage.2 (.inl rfl))
  have hask : r.ask name =
      (((r.touch name).searchAbove (namesAbove name)).2.setup {} name "INFO" none).2.1 := by
    simp [ask, hunhandled, hnone, hempty]
  have hsilent : (((r.touch name).searchAbove (namesAbove name)).2.get name).handlers = [] := by
    rw [hget]
    exact h name (mem_lineage.2 (.inr ⟨hname, .inl rfl⟩))
  have hinfo : checkLevel "INFO" = .ok "INFO" := by decide +kernel
  rw [hask, setup_of_silent hinfo hsilent, get_shown hsilent, hget]
  simp only [same_iff_eq hname]

end Ask

/-! ## Loggers that were asked for -/

/-- Nothing was set up: no logger has a handler, and none but the root has a level. -/
structure Fresh (r : Registry) : Prop where
  silent : ∀ n, (r.get n).handlers = []
  passing : r.Passing
  unlevelled : ∀ n, ¬ isRoot n → (r.get n).level = none

/-- A logger that was set up because it was asked for. -/
def asked : Logger := { level := some "INFO", handlers := [⟨.console, "INFO"⟩] }

/-- The loggers when no more was done than asking for some of them. -/
structure Scattered (names : List String) (look : String → Logger) : Prop where
  passing : ∀ n, (look n).propagate
  root_silent : (look "").handlers = []
  /-- Only loggers that were asked for are set up. -/
  own : ∀ n, ¬ isRoot n → look n = {} ∨ n ∈ names ∧ look n = asked
  /-- One was set up on the way up from each of them. -/
  above : ∀ n ∈ names, ∃ a ∈ lineage n, ¬ isRoot a ∧ look a = asked

theorem Fresh.scattered (h : r.Fresh) : Scattered [] r.get where
  passing := h.passing
  root_silent := h.silent ""
  own := by
    intro n hn
    have hfields : r.get n = ⟨(r.get n).level, (r.get n).propagate, (r.get n).handlers⟩ := rfl
    rw [hfields, h.unlevelled n hn, h.passing n, h.silent n]
    exact .inl rfl
  above := by simp

namespace Scattered

variable {names : List String} {look : String → Logger} {name : String}

/-- One on the way up from another name was set up. -/
theorem add (h : Scattered names look) (hup : ∃ a ∈ lineage name, ¬ isRoot a ∧ look a = asked) :
    Scattered (names ++ [name]) look where
  passing := h.passing
  root_silent := h.root_silent
  own := by
    intro n hn
    exact (h.own n hn).imp_right (And.imp_left (List.mem_append_left _))
  above := by
    intro n hn
    rcases List.mem_append.1 hn with hn | hn
    · exact h.above n hn
    · rw [List.mem_singleton.1 hn]
      exact hup

/-- One more logger was set up. -/
theorem update (h : Scattered names look) (hname : ¬ isRoot name) :
    Scattered (names ++ [name]) fun n => if n = name then asked else look n where
  passing := by
    intro n
    split
    · rfl
    · exact h.passing n
  root_silent := by
    have hne : "" ≠ name := fun heq => hname (heq ▸ rfl)
    rw [if_neg hne]
    exact h.root_silent
  own := by
    intro n hn
    by_cases heq : n = name
    · exact .inr ⟨by simp [heq], if_pos heq⟩
    · rw [if_neg heq]
      exact (h.own n hn).imp_right (And.imp_left (List.mem_append_left _))
  above := by
    intro n hn
    rcases List.mem_append.1 hn with hn | hn
    · obtain ⟨a, ha, hroot, hasked⟩ := h.above n hn
      exact ⟨a, ha, hroot, by rw [hasked, ite_self]⟩
    · rw [List.mem_singleton.1 hn]
      exact ⟨name, mem_lineage.2 (.inr ⟨hname, .inl rfl⟩), hname, if_pos rfl⟩

/-- A logger with handlers is one that was asked for. -/
theorem eq_asked (h : Scattered names r.get) {a : String} (ha : (r.get a).handlers ≠ []) :
    ¬ isRoot a ∧ a ∈ names ∧ r.get a = asked := by
  have hroot : ¬ isRoot a := by
    intro hroot
    rw [get_eq_get_empty hroot] at ha
    exact ha h.root_silent
  rcases h.own a hroot with hbare | hasked
  · rw [hbare] at ha
    exact absurd rfl ha
  · exact ⟨hroot, hasked⟩

/-- Asking for one more logger. -/
theorem ask (h : Scattered names r.get) (hname : ¬ isRoot name) :
    Scattered (names ++ [name]) (r.ask name).get := by
  by_cases hup : ∃ a ∈ lineage name, (r.get a).handlers ≠ []
  · rw [ask_of_handled h.passing hname hup]
    obtain ⟨a, ha, hhandlers⟩ := hup
    obtain ⟨hroot, -, hasked⟩ := h.eq_asked hhandlers
    exact h.add ⟨a, ha, hroot, hasked⟩
  · have hsilent : ∀ a ∈ lineage name, (r.get a).handlers = [] := by simpa using hup
    have hbare : r.get name = {} := by
      rcases h.own name hname with hbare | hasked
      · exact hbare
      · have hnone := hsilent name (mem_lineage.2 (.inr ⟨hname, .inl rfl⟩))
        rw [hasked.2] at hnone
        cases hnone
    have hget : (r.ask name).get = fun n => if n = name then asked else r.get n := by
      funext n
      rw [ask_of_unhandled h.passing hname hsilent, hbare]
      rfl
    rw [hget]
    exact h.update hname

/-- Asking for any number of loggers. -/
theorem run {more : List String} (hmore : ∀ n ∈ more, ¬ isRoot n) (h : Scattered names r.get) :
    Scattered (names ++ more) (more.foldl Registry.ask r).get := by
  induction more generalizing r names with
  | nil => simpa using h
  | cons n more ih =>
      obtain ⟨hn, hmore⟩ := List.forall_mem_cons.1 hmore
      have hrest := ih hmore (h.ask hn)
      rwa [List.append_assoc, List.singleton_append] at hrest

end Scattered

/-! ## A logger set up for all below it -/

/-- The loggers when `top` was set up after some of those below it were asked for. -/
structure Configured (names : List String) (top level : String) (look : String → Logger) :
    Prop where
  passing : ∀ n, (look n).propagate
  top_level : (look top).level = some level
  top_console : (look top).handlers.countP (·.kind = .console) = 1
  root_silent : ¬ isRoot top → (look "").handlers = []
  own : ∀ n, ¬ isRoot n → ¬ Same n top → look n = {} ∨ n ∈ names ∧ look n = asked
  above : ∀ n ∈ names, ∃ a ∈ lineage n, ¬ Same a top ∧ look a = asked

theorem Scattered.setup {names : List String} (h : Scattered names r.get) {top level l : String}
    (hnames : ∀ n ∈ names, Below top n) (hlevel : checkLevel level = .ok l) (d : Disk)
    (file : Option Path) : Configured names top l (r.setup d top level file).2.1.get := by
  have hsilent : (r.get top).handlers = [] := by
    by_contra hhandlers
    obtain ⟨-, hasked, -⟩ := h.eq_asked hhandlers
    exact (hnames top hasked).not_same (same_self top)
  obtain ⟨more, hmore, hget⟩ := get_setup hlevel hsilent d file
  have hother {n : String} (hn : ¬ Same n top) :
      (r.setup d top level file).2.1.get n = r.get n := by rw [hget, if_neg hn]
  refine ⟨?_, ?_, ?_, ?_, ?_, ?_⟩
  · intro n
    rw [hget]
    split
    · exact h.passing top
    · exact h.passing n
  · rw [hget, if_pos (same_self top)]
  · rw [hget, if_pos (same_self top)]
    have hnone : more.countP (·.kind = .console) = 0 := by
      rw [List.countP_eq_zero]
      intro a ha
      simpa using hmore a ha
    simp [hnone]
  · intro htop
    have hne : ¬ Same "" top := by
      rw [same_iff_eq htop]
      exact fun heq => htop (heq ▸ rfl)
    rw [hother hne]
    exact h.root_silent
  · intro n hn hsame
    rw [hother hsame]
    exact h.own n hn
  · intro n hn
    obtain ⟨a, ha, -, hasked⟩ := h.above n hn
    have hsame : ¬ Same a top := by
      intro hsame
      rw [← get_congr hsame, hasked] at hsilent
      cases hsilent
    exact ⟨a, ha, hsame, by rw [hother hsame, hasked]⟩

/-- Asking for loggers below `top` changes nothing any more. -/
theorem Configured.run {names more : List String} {top level : String}
    (hmore : ∀ n ∈ more, Below top n) (h : Configured names top level r.get) :
    (more.foldl ask r).get = r.get := by
  induction more generalizing r with
  | nil => rfl
  | cons n more ih =>
      obtain ⟨hn, hmore⟩ := List.forall_mem_cons.1 hmore
      obtain ⟨inner, k, outer, hlineage, hk, -, -⟩ := hn.lineage_eq
      have hhandlers : (r.get k).handlers ≠ [] := by
        intro hnone
        have hconsole := h.top_console
        rw [← get_congr hk, hnone] at hconsole
        cases hconsole
      have hget := ask_of_handled h.passing hn.not_isRoot
        ⟨k, by rw [hlineage]; simp, hhandlers⟩
      rw [List.foldl_cons, ih hmore (hget ▸ h), hget]

/-! ## What comes to the console -/

/-- How many handlers write the records of a logger to the console. -/
def consoles (r : Registry) (name : String) : Nat :=
  ((r.chain name).flatMap (·.handlers)).countP (·.kind = .console)

/-- A logger is covered: the level counts for it, and its records come to the console once. -/
def Covered (r : Registry) (name level : String) : Prop :=
  r.effectiveLevel? name = some level ∧ r.consoles name = 1

instance (r : Registry) (name level : String) : Decidable (r.Covered name level) :=
  inferInstanceAs (Decidable (_ ∧ _))

/-- What a logger gets from its way up, in three parts: from below `top`, from `top`, from above. -/
theorem flatMap_chain_below {β : Type} {f : Logger → List β} (hf : f {} = []) {top name : String}
    (hname : Below top name) {inner outer : List String} {k : String}
    (hlineage : lineage name = inner ++ k :: outer) (hk : Same k top) :
    (r.chain name).flatMap f = (inner.flatMap fun n => f (r.get n)) ++ f (r.get top) ++
      outer.flatMap fun n => f (r.get n) := by
  rw [flatMap_chain hf hname.not_isRoot, hlineage, List.flatMap_append, List.flatMap_cons,
    get_congr hk, List.append_assoc]

theorem effectiveLevel?_eq_head? (name : String) :
    r.effectiveLevel? name = ((r.chain name).flatMap (·.level.toList)).head? := by
  rw [effectiveLevel?, ← List.head?_filterMap, List.filterMap_eq_flatMap_toList]

namespace Configured

variable {names : List String} {top level : String} (h : Configured names top level r.get)
  {name : String} (hname : Below top name)
include h hname

/-- Where a logger, or one between it and `top`, was asked for before, its records come to the
console more than once. -/
theorem one_lt_consoles {b : String} (hb : b ∈ names) (hbetween : b = name ∨ Extends name b) :
    1 < r.consoles name := by
  obtain ⟨inner, k, outer, hlineage, hk, -, -⟩ := hname.lineage_eq
  obtain ⟨a, ha, hsame, hasked⟩ := h.above b hb
  have hmem : a ∈ inner ++ outer := by
    have ha := mem_lineage_trans ha hbetween
    rw [hlineage] at ha
    have hne : a ≠ k := fun heq => hsame (heq ▸ hk)
    simpa [hne] using ha
  -- The handler of that logger comes on top of the one of `top`.
  have hmore : 0 < ((inner ++ outer).flatMap fun n => (r.get n).handlers).countP
      (·.kind = .console) := by
    refine List.countP_pos_iff.2 ⟨⟨.console, "INFO"⟩, List.mem_flatMap.2 ⟨a, hmem, ?_⟩, rfl⟩
    rw [hasked]
    exact List.mem_singleton_self _
  have htop := h.top_console
  rw [List.flatMap_append, List.countP_append] at hmore
  rw [consoles, flatMap_chain_below rfl hname hlineage hk, List.countP_append, List.countP_append]
  omega

/-- Where none of them was asked for before, the others on the way up have nothing to say. -/
theorem covered (hnone : ∀ b ∈ names, ¬ (b = name ∨ Extends name b)) : r.Covered name level := by
  obtain ⟨inner, k, outer, hlineage, hk, hinner, hother⟩ := hname.lineage_eq
  have hbare : ∀ a ∈ inner ++ outer, ¬ isRoot a → r.get a = {} := by
    intro a ha hroot
    rcases h.own a hroot (hother a ha) with hbare | hasked
    · exact hbare
    · have hmem : a ∈ lineage name := by
        rw [hlineage]
        simp only [List.mem_append, List.mem_cons] at ha ⊢
        tauto
      rcases mem_lineage.1 hmem with heq | hbetween
      · exact absurd (heq ▸ rfl) hroot
      · exact absurd hbetween.2 (hnone a hasked.1)
  have hsilent : ∀ a ∈ inner ++ outer, (r.get a).handlers = [] := by
    intro a ha
    by_cases hroot : isRoot a
    · have htop : ¬ isRoot top := fun htop => hother a ha (.inr ⟨hroot, htop⟩)
      rw [get_eq_get_empty hroot]
      exact h.root_silent htop
    · rw [hbare a ha hroot]
  constructor
  · have hlevels : (inner.flatMap fun n => (r.get n).level.toList) = [] := by
      rw [List.flatMap_eq_nil_iff]
      intro a ha
      rw [hbare a (List.mem_append_left _ ha) (hinner a ha)]
      rfl
    rw [effectiveLevel?_eq_head?, flatMap_chain_below rfl hname hlineage hk, hlevels, h.top_level]
    rfl
  · have hothers : ((inner ++ outer).flatMap fun n => (r.get n).handlers) = [] :=
      List.flatMap_eq_nil_iff.2 hsilent
    rw [List.flatMap_append, List.append_eq_nil_iff] at hothers
    rw [consoles, flatMap_chain_below rfl hname hlineage hk, hothers.1, hothers.2, List.nil_append,
      List.append_nil, h.top_console]

/-- Setting up `top` covers a logger below it unless that logger, or one between the two, was asked
for before. -/
theorem covered_iff : r.Covered name level ↔ ∀ b ∈ names, ¬ (b = name ∨ Extends name b) := by
  constructor
  · intro hcovered b hb hbetween
    exact Nat.ne_of_gt (h.one_lt_consoles hname hb hbetween) hcovered.2
  · exact h.covered hname

end Configured

/-- The loggers after some were asked for, one was set up and others were asked for. -/
def afterCalls (r : Registry) (before : List String) (top level : String) (d : Disk)
    (file : Option Path) (after : List String) : Registry :=
  after.foldl ask ((before.foldl ask r).setup d top level file).2.1

/-- **What setting up a logger covers.** Where loggers below `top` are asked for before and after
`top` is set up, and nothing else was done, those are covered which were not asked for before, nor
one between them and `top`. So all are covered exactly when none was asked for before. -/
theorem covered_afterCalls_iff (hr : r.Fresh) {top level l : String}
    (hlevel : checkLevel level = .ok l) {before after : List String}
    (hbelow : ∀ name ∈ before ++ after, Below top name) (d : Disk) (file : Option Path) :
    (∀ name ∈ before ++ after, (r.afterCalls before top level d file after).Covered name l ↔
      ∀ b ∈ before, ¬ (b = name ∨ Extends name b)) ∧
    ((∀ name ∈ before ++ after, (r.afterCalls before top level d file after).Covered name l) ↔
      before = []) := by
  have hbefore : ∀ name ∈ before, Below top name := fun name hname =>
    hbelow name (List.mem_append_left _ hname)
  have hscattered := hr.scattered.run fun name hname => (hbefore name hname).not_isRoot
  rw [List.nil_append] at hscattered
  have hsetup := hscattered.setup hbefore hlevel d file
  have hafter := hsetup.run fun name hname => hbelow name (List.mem_append_right _ hname)
  have heach : ∀ name ∈ before ++ after,
      ((r.afterCalls before top level d file after).Covered name l ↔
        ∀ b ∈ before, ¬ (b = name ∨ Extends name b)) := by
    intro name hname
    have hend : (r.afterCalls before top level d file after).get =
        ((before.foldl ask r).setup d top level file).2.1.get := hafter
    exact Configured.covered_iff (hend ▸ hsetup) (hbelow name hname)
  refine ⟨heach, ?_, ?_⟩
  · intro hall
    cases before with
    | nil => rfl
    | cons b before =>
        have hcovered := hall b (List.mem_append_left _ List.mem_cons_self)
        rw [heach b (List.mem_append_left _ List.mem_cons_self)] at hcovered
        exact absurd (.inl rfl) (hcovered b List.mem_cons_self)
  · intro hnone name hname
    rw [heach name hname]
    simp [hnone]

theorem fresh_empty : ({} : Registry).Fresh where
  silent := by
    intro n
    unfold get find?
    split <;> rfl
  passing := by
    intro n
    unfold get find?
    split <;> rfl
  unlevelled := by
    intro n hn
    unfold get find?
    rw [if_neg hn]
    rfl

/-- The view is covered by what was done for the whole application, the store is not. -/
theorem covered_afterCalls_iff_app :
    (({} : Registry).afterCalls ["app.store"] "app" "DEBUG" {} none ["app.view"]).Covered "app.view"
        "DEBUG" ∧
      ¬ (({} : Registry).afterCalls ["app.store"] "app" "DEBUG" {} none ["app.view"]).Covered
        "app.store" "DEBUG" := by
  have hbelow : ∀ name ∈ ["app.store"] ++ ["app.view"], Below "app" name := by
    intro name hname
    rcases List.mem_pair.1 hname with rfl | rfl
    · exact .dotted (by decide) ⟨"store", rfl⟩
    · exact .dotted (by decide) ⟨"view", rfl⟩
  have hlevel : checkLevel "DEBUG" = .ok "DEBUG" := by decide +kernel
  have heach := (covered_afterCalls_iff fresh_empty hlevel hbelow {} none).1
  constructor
  · rw [heach "app.view" (by decide)]
    intro b hb hbetween
    rw [List.mem_singleton.1 hb] at hbetween
    rcases hbetween with heq | hext
    · exact absurd heq (by decide)
    · exact absurd hext.length_lt (by decide)
  · rw [heach "app.store" (by decide)]
    intro hnone
    exact hnone "app.store" (List.mem_singleton_self _) (.inl rfl)

/-- A logger that was asked for first keeps its level, and its records come to the console twice. -/
theorem not_covered_asked_first :
    ({} : Registry).Fresh ∧ Below "app" "app.store" ∧
      ∃ r, ({} : Registry).afterCalls ["app.store"] "app" "DEBUG" {} none ["app.store"] = r ∧
        r.effectiveLevel? "app.store" = some "INFO" ∧ r.consoles "app.store" = 2 ∧
        ¬ r.Covered "app.store" "DEBUG" := by
  have hparts : "app.store".splitOn (String.singleton '.') = ["app", "store"] := by
    rw [splitOn_singleton]
    decide +kernel
  have hdot : "." = String.singleton '.' := rfl
  have habove : namesAbove "app.store" = ["app"] := by
    rw [namesAbove, hdot, hparts]
    decide +kernel
  have hasked : ({} : Registry).ask "app.store" =
      { loggers := [("app.store", asked), ("app", {})] } := by
    rw [ask, isHandled, chain, habove]
    decide +kernel
  let top : Logger := { level := some "DEBUG", handlers := [⟨.console, "DEBUG"⟩] }
  have hset : ((({} : Registry).ask "app.store").setup {} "app" "DEBUG" none).2.1 =
      { loggers := [("app.store", asked), ("app", top)] } := by
    rw [hasked]
    decide +kernel
  refine ⟨fresh_empty, .dotted (by decide) ⟨"store", rfl⟩,
    { loggers := [("app.store", asked), ("app", top)] }, ?_, ?_, ?_, ?_⟩
  · simp only [afterCalls, List.foldl_cons, List.foldl_nil]
    rw [hset, ask, isHandled, chain, habove]
    decide +kernel
  · rw [effectiveLevel?, chain, habove]
    decide +kernel
  · rw [consoles, chain, habove]
    decide +kernel
  · rw [Covered, effectiveLevel?, chain, habove]
    decide +kernel

end Registry

end Pseudonym.Log
