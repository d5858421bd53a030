import Mathlib.Data.List.Nodup
import Pseudonym.Log.Registry
import Pseudonym.Proofs.Text.Split

/-!
# The way up from a logger

The loggers above a dotted name are those of its fronts (`Registry.mem_namesAbove`), the nearest
first, and the root. So what a logger gets from above is read off the names on its way up
(`Registry.flatMap_chain`), whether these loggers were ever made or not, and whoever is below
another logger passes it exactly once (`Registry.Below.lineage_eq`).
-/

namespace Pseudonym.Log

open Files Text

/-! ## Dotted names -/

/-- A dotted name that goes on where another one ends. -/
def Extends (name top : String) : Prop := ∃ rest, name = top ++ "." ++ rest

namespace Extends

variable {a b c : String}

theorem length_lt (h : Extends a b) : b.length < a.length := by
  obtain ⟨rest, rfl⟩ := h
  have hdot : ".".length = 1 := rfl
  rw [String.length_append, String.length_append]
  omega

theorem ne (h : Extends a b) : a ≠ b := by
  intro heq
  exact Nat.lt_irrefl _ (heq ▸ h.length_lt)

theorem ne_empty (h : Extends a b) : a ≠ "" := by
  intro heq
  have hlength := h.length_lt
  rw [heq] at hlength
  cases hlength

theorem trans (h : Extends a b) (h' : Extends b c) : Extends a c := by
  obtain ⟨rest, rfl⟩ := h
  obtain ⟨more, rfl⟩ := h'
  exact ⟨more ++ "." ++ rest, by simp only [String.append_assoc]⟩

/-- A name with a dot is not that of the root. -/
theorem not_isRoot (h : Extends a b) : ¬ Registry.isRoot a := by
  obtain ⟨rest, rfl⟩ := h
  have hmem : '.' ∈ (b ++ "." ++ rest).toList := by simp
  intro hroot
  have heq : b ++ "." ++ rest = "root" := by simpa [Registry.isRoot] using hroot
  rw [heq] at hmem
  exact absurd hmem (by decide)

end Extends

namespace Registry

/-- Where what is kept further on needs what is kept before, taking while is filtering. -/
theorem takeWhile_eq_filter {α : Type} {p : α → Bool} {l : List α}
    (h : l.Pairwise fun a b => p b → p a) : l.takeWhile p = l.filter p := by
  induction l with
  | nil => rfl
  | cons a l ih =>
      obtain ⟨ha, hl⟩ := List.pairwise_cons.1 h
      by_cases hp : p a
      · rw [List.takeWhile_cons_of_pos hp, List.filter_cons_of_pos hp, ih hl]
      · rw [List.takeWhile_cons_of_neg hp, List.filter_eq_nil_iff.2]
        intro b hb hpb
        rcases List.mem_cons.1 hb with rfl | hb
        · exact hp hpb
        · exact hp (ha b hb hpb)

theorem mem_drop_range {k n : Nat} : n ∈ (List.range k).drop 1 ↔ 0 < n ∧ n < k := by
  rw [List.range_eq_range', List.drop_range', List.mem_range'_1]
  omega

/-- The fronts of a name, from the longest one to its first part. -/
theorem pairwise_fronts (name : String) :
    (((List.range (name.splitOn ".").length).drop 1).reverse.map (firstParts '.' name)).Pairwise
      Extends := by
  rw [List.pairwise_map, List.pairwise_reverse]
  refine (List.pairwise_lt_range.sublist (List.drop_sublist 1 _)).imp_of_mem ?_
  intro m n hm hn hlt
  exact firstParts_eq_append (mem_drop_range.1 hm).1 hlt (Nat.le_of_lt (mem_drop_range.1 hn).2)

theorem namesAbove_eq (name : String) :
    namesAbove name =
      (((List.range (name.splitOn ".").length).drop 1).reverse.map (firstParts '.' name)).filter
        (· ≠ "") := by
  refine takeWhile_eq_filter ((pairwise_fronts name).imp ?_)
  intro a b hab _
  simpa using hab.ne_empty

theorem mem_namesAbove {a name : String} : a ∈ namesAbove name ↔ a ≠ "" ∧ Extends name a := by
  have hdot : "." = String.singleton '.' := rfl
  rw [namesAbove_eq, List.mem_filter, List.mem_map, Extends, hdot, ← exists_firstParts_eq]
  simp only [List.mem_reverse, mem_drop_range, decide_eq_true_eq, and_assoc]
  exact and_comm

theorem pairwise_namesAbove (name : String) : (name :: namesAbove name).Pairwise Extends := by
  refine List.pairwise_cons.2 ⟨?_, ?_⟩
  · intro a ha
    exact (mem_namesAbove.1 ha).2
  · rw [namesAbove_eq]
    exact (pairwise_fronts name).filter _

/-! ## Loggers by name -/

/-- Names of one logger. -/
def Same (a b : String) : Prop := a = b ∨ isRoot a ∧ isRoot b

instance (a b : String) : Decidable (Same a b) := inferInstanceAs (Decidable (_ ∨ _))

theorem same_self (a : String) : Same a a := .inl rfl

theorem same_iff_eq {a b : String} (h : ¬ isRoot b) : Same a b ↔ a = b := by simp [Same, h]

variable {r : Registry}

theorem get_of_isRoot {name : String} (h : isRoot name) : r.get name = r.root := by
  simp [get, find?, h]

theorem get_congr {a b : String} (h : Same a b) : r.get a = r.get b := by
  rcases h with heq | hroot
  · rw [heq]
  · rw [get_of_isRoot hroot.1, get_of_isRoot hroot.2]

/-- The root is found under the empty name, too. -/
theorem get_eq_get_empty {name : String} (h : isRoot name) : r.get name = r.get "" :=
  get_congr (.inr ⟨h, rfl⟩)

theorem find?_assign (name n : String) (l : Logger) (ls : List (String × Logger)) :
    ((assign name l ls).find? (·.1 = n)).map (·.2) =
      if n = name then some l else (ls.find? (·.1 = n)).map (·.2) := by
  induction ls with
  | nil =>
      by_cases h : n = name
      · simp [assign, h]
      · simp [assign, h, Ne.symm h]
  | cons e ls ih =>
      obtain ⟨m, old⟩ := e
      by_cases hm : m = name
      · by_cases h : n = name
        · simp [assign, hm, h]
        · simp [assign, hm, h, Ne.symm h]
      · by_cases hn : m = n
        · have hne : n ≠ name := fun heq => hm (hn.trans heq)
          simp [assign, hn, hne]
        · simp only [assign, hm, if_false]
          rw [List.find?_cons_of_neg (by simpa using hn), ih,
            List.find?_cons_of_neg (by simpa using hn)]

/-- Replacing a logger changes what is found under its names and nothing else. -/
theorem get_set (name n : String) (l : Logger) :
    (r.set name l).get n = if Same n name then l else r.get n := by
  unfold set
  by_cases hroot : isRoot name
  · rw [if_pos hroot]
    by_cases hn : isRoot n
    · rw [if_pos (.inr ⟨hn, hroot⟩), get_of_isRoot hn]
    · have hother : ¬ Same n name := by
        intro hsame
        rcases hsame with heq | hboth
        · exact hn (heq ▸ hroot)
        · exact hn hboth.1
      rw [if_neg hother]
      simp [get, find?, hn]
  · rw [if_neg hroot]
    simp only [same_iff_eq hroot]
    by_cases hn : isRoot n
    · have hne : n ≠ name := fun heq => hroot (heq ▸ hn)
      rw [if_neg hne, get_of_isRoot hn, get_of_isRoot hn]
    · simp only [get, find?, hn, find?_assign]
      by_cases h : n = name <;> simp [h]

/-- Asking for a logger that was not there makes a bare one, as which it counted before. -/
theorem get_touch (name : String) : (r.touch name).get = r.get := by
  funext n
  rw [touch, get_set]
  split
  · next hsame => exact (get_congr hsame).symm
  · rfl

/-! ## The way up -/

/-- The names from a logger up to the root, whose name is empty. -/
def lineage (name : String) : List String :=
  ((name :: namesAbove name).filter fun n => !isRoot n) ++ [""]

theorem mem_lineage {a name : String} :
    a ∈ lineage name ↔ a = "" ∨ ¬ isRoot a ∧ (a = name ∨ Extends name a) := by
  have hempty : ¬ isRoot a → a ≠ "" := by
    intro h heq
    exact h (heq ▸ rfl)
  simp only [lineage, List.mem_append, List.mem_filter, List.mem_cons, mem_namesAbove,
    List.not_mem_nil, or_false, Bool.not_eq_true']
  constructor
  · intro h
    rcases h with hup | hroot
    · exact .inr ⟨by simp [hup.2], hup.1.imp_right And.right⟩
    · exact .inl hroot
  · intro h
    rcases h with hroot | hup
    · exact .inr hroot
    · exact .inl ⟨hup.2.imp_right fun hext => ⟨hempty hup.1, hext⟩, by simpa using hup.1⟩

/-- What lies above something above a logger lies above the logger. -/
theorem mem_lineage_trans {a b name : String} (ha : a ∈ lineage b)
    (hb : b = name ∨ Extends name b) : a ∈ lineage name := by
  rw [mem_lineage] at ha ⊢
  refine ha.imp_right ?_
  intro hup
  refine ⟨hup.1, ?_⟩
  rcases hb with rfl | hext
  · exact hup.2
  · rcases hup.2 with rfl | hup
    · exact .inr hext
    · exact .inr (hext.trans hup)

/-- A logger below another one. -/
inductive Below : (top name : String) → Prop
  | root {top name : String} : isRoot top → ¬ isRoot name → Below top name
  | dotted {top name : String} : ¬ isRoot top → Extends name top → Below top name

namespace Below

variable {top name : String}

theorem not_isRoot (h : Below top name) : ¬ isRoot name := by
  cases h with
  | root _ hname => exact hname
  | dotted _ hext => exact hext.not_isRoot

theorem not_same (h : Below top name) : ¬ Same name top := by
  intro hsame
  rcases hsame with heq | hboth
  · cases h with
    | root htop hname => exact hname (heq ▸ htop)
    | dotted _ hext => exact hext.ne heq
  · exact h.not_isRoot hboth.1

/-- The way up from a logger passes the one it is below of, once. -/
theorem lineage_eq (h : Below top name) :
    ∃ inner k outer, lineage name = inner ++ k :: outer ∧ Same k top ∧
      (∀ a ∈ inner, ¬ isRoot a) ∧ ∀ a ∈ inner ++ outer, ¬ Same a top := by
  have hup : ∀ a ∈ (name :: namesAbove name).filter (fun n => !isRoot n), ¬ isRoot a := by
    intro a ha
    simpa using (List.mem_filter.1 ha).2
  cases h with
  | root htop hname =>
      refine ⟨_, "", [], rfl, .inr ⟨rfl, htop⟩, hup, ?_⟩
      intro a ha hsame
      rw [List.append_nil] at ha
      rcases hsame with heq | hboth
      · exact hup a ha (heq ▸ htop)
      · exact hup a ha hboth.1
  | dotted htop hext =>
      have hne : top ≠ "" := fun heq => htop (heq ▸ rfl)
      have hmem : top ∈ (name :: namesAbove name).filter fun n => !isRoot n := by
        refine List.mem_filter.2 ⟨?_, by simpa using htop⟩
        exact List.mem_cons_of_mem name (mem_namesAbove.2 ⟨hne, hext⟩)
      have hnodup : ((name :: namesAbove name).filter fun n => !isRoot n).Nodup :=
        ((pairwise_namesAbove name).imp Extends.ne).filter _
      obtain ⟨inner, outer, hsplit⟩ := List.append_of_mem hmem
      rw [hsplit] at hup hnodup
      refine ⟨inner, top, outer ++ [""], by simp [lineage, hsplit], .inl rfl, ?_, ?_⟩
      · intro a ha
        exact hup a (List.mem_append_left _ ha)
      · intro a ha heq
        rw [same_iff_eq htop] at heq
        subst heq
        have hout := (List.nodup_middle.1 hnodup).notMem
        simp only [List.mem_append, List.mem_singleton] at ha hout
        tauto

end Below

/-- What the loggers on the way up have, a bare one having nothing. -/
theorem flatMap_chain {β : Type} {f : Logger → List β} (hf : f {} = []) {name : String}
    (h : ¬ isRoot name) :
    (r.chain name).flatMap f = (lineage name).flatMap fun n => f (r.get n) := by
  have hup (ns : List String) :
      (ns.filterMap fun n => if isRoot n then none else r.find? n).flatMap f =
        (ns.filter fun n => !isRoot n).flatMap fun n => f (r.get n) := by
    induction ns with
    | nil => rfl
    | cons n ns ih =>
        by_cases hn : isRoot n
        · simp [hn, ih]
        · cases hfind : r.find? n with
          | none => simp [hn, hfind, ih, get, hf]
          | some l => simp [hn, hfind, ih, get]
  rw [chain, if_neg h, lineage, List.flatMap_append, List.flatMap_append, hup]
  rfl

/-- Every logger passes its records on. -/
def Passing (r : Registry) : Prop := ∀ n, (r.get n).propagate

theorem passed_chain (hr : r.Passing) (name : String) : passed (r.chain name) = r.chain name := by
  have hpassed (ls : List Logger) (hls : ∀ l ∈ ls, l.propagate) : passed ls = ls := by
    induction ls with
    | nil => rfl
    | cons l ls ih =>
        obtain ⟨hl, hls⟩ := List.forall_mem_cons.1 hls
        rw [passed, if_pos hl, ih hls]
  have hroot : r.root.propagate := hr ""
  refine hpassed _ ?_
  intro l hl
  unfold chain at hl
  split at hl
  · rw [List.mem_singleton.1 hl]
    exact hroot
  · rcases List.mem_append.1 hl with hl | hl
    · obtain ⟨n, -, hn⟩ := List.mem_filterMap.1 hl
      split at hn
      · cases hn
      · have hget : r.get n = l := by rw [get, hn, Option.getD_some]
        exact hget ▸ hr n
    · rw [List.mem_singleton.1 hl]
      exact hroot

/-- Records are handled where some logger on the way up has a handler. -/
theorem isHandled_iff (hr : r.Passing) {name : String} (h : ¬ isRoot name) :
    r.isHandled name ↔ ∃ a ∈ lineage name, (r.get a).handlers ≠ [] := by
  have hchain : r.isHandled name ↔ (r.chain name).flatMap (·.handlers) ≠ [] := by
    simp [isHandled, passed_chain hr, List.any_eq_true]
  rw [hchain, flatMap_chain rfl h, Ne, List.flatMap_eq_nil_iff]
  simp only [not_forall, exists_prop]

end Registry

end Pseudonym.Log
