import Mathlib.Data.List.Pairwise
import Mathlib.Data.List.Sort
import Mathlib.Data.List.Perm.Subperm
import Pseudonym.Proofs.Source.Line

/-!
# Edits as one substitution

Edits of a line are applied one after another, each to what those before it left. The outcome is the
same as replacing all their ranges at once in the line as it was (`applyEdits_simultaneous`): since
edits come from right to left and none reaches into one before it, everything up to the limit still
stands where it stood (`Substituted`). An edit is left out only where it meets another one or passes
the end of its line.
-/

namespace Pseudonym.Source

namespace Edit

/-! ## Ranges -/

/-- Where the range of an edit ends. -/
def finish (e : Edit) : Int := e.stop.getD 0

/-- An edit with a range of its own: it does not reach for the end of the line, and is not empty. -/
structure Ranged (e : Edit) : Prop where
  stop_eq : e.stop = some e.finish
  start_nonneg : 0 ≤ e.start
  start_lt : e.start < e.finish

instance (e : Edit) : Decidable e.Ranged :=
  decidable_of_iff (e.stop = some e.finish ∧ 0 ≤ e.start ∧ e.start < e.finish)
    ⟨fun ⟨h₁, h₂, h₃⟩ => ⟨h₁, h₂, h₃⟩, fun ⟨h₁, h₂, h₃⟩ => ⟨h₁, h₂, h₃⟩⟩

/-- Ranges that have no place in common. -/
def Apart (a b : Edit) : Prop := a.finish ≤ b.start ∨ b.finish ≤ a.start

instance (a b : Edit) : Decidable (a.Apart b) := inferInstanceAs (Decidable (_ ∨ _))

instance : Std.Symm Apart := ⟨fun _ _ => Or.symm⟩

/-- The edit of a line does not pass its end. -/
def InRange (length : Nat) (e : Edit) : Prop := e.finish ≤ length

instance (length : Nat) (e : Edit) : Decidable (e.InRange length) :=
  inferInstanceAs (Decidable (_ ≤ _))

/-- Whether a place belongs to the range of an edit. -/
def covers (e : Edit) (i : Nat) : Bool := decide (e.start ≤ i) && decide ((i : Int) < e.finish)

/-! ## Substitution -/

/-- The text that edits put in front of a place. -/
def textAt (edits : List Edit) (i : Nat) : List Char :=
  (edits.filter (·.start = (i : Int))).flatMap (·.text.toList)

/-- Replaces ranges in characters, the first of which stands at a place: where a range starts stands
its text, and no character in a range stays. -/
def substituteFrom (edits : List Edit) : Nat → List Char → List Char
  | _, [] => []
  | i, c :: cs =>
    textAt edits i ++ (if edits.any (·.covers i) then [] else [c]) ++ substituteFrom edits (i + 1) cs

/-- Replaces the ranges of edits by their texts, all at once. -/
def substitute (edits : List Edit) (content : List Char) : List Char :=
  substituteFrom edits 0 content

theorem substituteFrom_append (edits : List Edit) (i : Nat) (cs ds : List Char) :
    substituteFrom edits i (cs ++ ds) =
      substituteFrom edits i cs ++ substituteFrom edits (i + cs.length) ds := by
  induction cs generalizing i with
  | nil => rfl
  | cons c cs ih =>
    rw [List.cons_append, substituteFrom, ih, substituteFrom, List.length_cons,
      Nat.add_right_comm, Nat.add_assoc i, List.append_assoc _ (substituteFrom ..)]

/-- In front of all ranges everything stays. -/
theorem substituteFrom_of_le {edits : List Edit} {i : Nat} {cs : List Char}
    (h : ∀ e ∈ edits, ((i + cs.length : Nat) : Int) ≤ e.start) : substituteFrom edits i cs = cs := by
  induction cs generalizing i with
  | nil => rfl
  | cons c cs ih =>
    simp only [List.length_cons] at h
    have htext : textAt edits i = [] := by
      rw [textAt, List.filter_eq_nil_iff.2]
      · rfl
      · intro e he
        have := h e he
        simp only [decide_eq_true_eq]
        omega
    have hcovers : edits.any (·.covers i) = false := by
      rw [List.any_eq_false]
      intro e he
      have := h e he
      simp only [covers, Bool.and_eq_true, decide_eq_true_eq]
      omega
    rw [substituteFrom, htext, hcovers, ih fun e he => by have := h e he; omega]
    rfl

@[simp] theorem substitute_nil (content : List Char) : substitute [] content = content :=
  substituteFrom_of_le (by simp)

/-- An edit changes nothing behind its range. -/
theorem substituteFrom_cons_of_ge {e : Edit} {i : Nat} (he : e.Ranged) (h : e.finish ≤ i)
    (edits : List Edit) (cs : List Char) :
    substituteFrom (e :: edits) i cs = substituteFrom edits i cs := by
  have hstart := he.start_lt
  induction cs generalizing i with
  | nil => rfl
  | cons c cs ih =>
    have htext : textAt (e :: edits) i = textAt edits i := by
      have hne : ¬ e.start = (i : Int) := by omega
      simp [textAt, hne]
    have hcovers : e.covers i = false := by
      simp only [covers, Bool.and_eq_false_iff, decide_eq_false_iff_not]
      omega
    rw [substituteFrom, substituteFrom, htext, List.any_cons, hcovers, Bool.false_or,
      ih (by omega)]

/-- Inside its range an edit leaves nothing. -/
theorem substituteFrom_cons_of_covers {e : Edit} {edits : List Edit} {i : Nat} {cs : List Char}
    (hi : e.start < i) (hcs : ((i + cs.length : Nat) : Int) ≤ e.finish)
    (h : ∀ a ∈ edits, e.finish ≤ a.start) : substituteFrom (e :: edits) i cs = [] := by
  induction cs generalizing i with
  | nil => rfl
  | cons c cs ih =>
    simp only [List.length_cons] at hcs
    have htext : textAt (e :: edits) i = [] := by
      rw [textAt, List.filter_eq_nil_iff.2]
      · rfl
      · intro a ha
        simp only [decide_eq_true_eq]
        rcases List.mem_cons.1 ha with rfl | ha
        · omega
        · have := h a ha
          omega
    have hcovers : e.covers i = true := by
      simp only [covers, Bool.and_eq_true, decide_eq_true_eq]
      omega
    rw [substituteFrom, htext, List.any_cons, hcovers, Bool.true_or, if_pos rfl,
      ih (by omega) (by omega)]
    rfl

/-- The range of an edit becomes its text. -/
theorem substituteFrom_cons_range {e : Edit} {edits : List Edit} {cs : List Char} (he : e.Ranged)
    (hcs : e.start + cs.length = e.finish) (h : ∀ a ∈ edits, e.finish ≤ a.start) :
    substituteFrom (e :: edits) e.start.toNat cs = e.text.toList := by
  obtain ⟨hstop, hnonneg, hlt⟩ := he
  obtain ⟨start, hstart⟩ := Int.eq_ofNat_of_zero_le hnonneg
  cases cs with
  | nil => simp at hcs; omega
  | cons c cs =>
    rw [List.length_cons] at hcs
    rw [hstart, Int.toNat_natCast, substituteFrom]
    have hrest : edits.filter (·.start = (start : Int)) = [] := by
      rw [List.filter_eq_nil_iff]
      intro a ha
      have := h a ha
      simp only [decide_eq_true_eq]
      omega
    have htext : textAt (e :: edits) start = e.text.toList := by
      rw [textAt, List.filter_cons_of_pos (by simpa using hstart), hrest]
      simp
    have hcovers : e.covers start = true := by
      simp only [covers, Bool.and_eq_true, decide_eq_true_eq]
      omega
    rw [htext, List.any_cons, hcovers, Bool.true_or, if_pos rfl,
      substituteFrom_cons_of_covers (by omega) (by omega) h]
    simp

/-! ## One edit after another -/

/-- A line in the course of being edited: what the edits so far make of it at once. None of them
starts in front of the limit. -/
structure Substituted (content : List Char) (applied : List Edit) (p : Progress) : Prop where
  content_eq : p.content = substitute applied content
  limit_nonneg : 0 ≤ p.limit
  limit_le : p.limit ≤ content.length
  limit_le_start : ∀ e ∈ applied, p.limit ≤ e.start

theorem Substituted.init (content : List Char) :
    Substituted content [] ⟨content, content.length⟩ :=
  ⟨(substitute_nil content).symm, by simp, Int.le_refl _, by simp⟩

variable {content : List Char} {applied : List Edit} {p : Progress}

/-- Up to a place in front of the limit the line is as it was. -/
theorem Substituted.split (h : Substituted content applied p) {n : Nat} (hn : (n : Int) ≤ p.limit) :
    p.content = content.take n ++ substituteFrom applied n (content.drop n) := by
  have hle := h.limit_le
  have htake : (content.take n).length = n := List.length_take_of_le (by omega)
  calc p.content
      = substituteFrom applied 0 (content.take n ++ content.drop n) := by
        rw [h.content_eq, substitute, List.take_append_drop]
    _ = _ := by
        rw [substituteFrom_append, htake, Nat.zero_add, substituteFrom_of_le]
        intro e he
        have := h.limit_le_start e he
        omega

theorem Substituted.take_eq (h : Substituted content applied p) {n : Nat} (hn : (n : Int) ≤ p.limit) :
    p.content.take n = content.take n := by
  have hle := h.limit_le
  rw [h.split hn, List.take_left' (List.length_take_of_le (by omega))]

theorem Substituted.drop_eq (h : Substituted content applied p) {n : Nat} (hn : (n : Int) ≤ p.limit) :
    p.content.drop n = substituteFrom applied n (content.drop n) := by
  have hle := h.limit_le
  rw [h.split hn, List.drop_left' (List.length_take_of_le (by omega))]

/-- An edit that does not pass the limit puts its text in the place of its range. -/
theorem Substituted.apply_eq (h : Substituted content applied p) {e : Edit} (he : e.Ranged)
    (hlimit : e.finish ≤ p.limit) :
    Edit.apply p e = ⟨content.take e.start.toNat ++ e.text.toList ++
      substituteFrom applied e.finish.toNat (content.drop e.finish.toNat), e.start⟩ := by
  obtain ⟨hstop, hnonneg, hlt⟩ := he
  have hlength : p.limit ≤ p.content.length := by
    have hlimitNat : (p.limit.toNat : Int) = p.limit := Int.toNat_of_nonneg h.limit_nonneg
    have hle := h.limit_le
    have htake : (content.take p.limit.toNat).length = p.limit.toNat :=
      List.length_take_of_le (by omega)
    rw [h.split hlimitNat.le, List.length_append, htake]
    omega
  have hplace {i : Int} (hi : 0 ≤ i) (hle : i ≤ p.limit) : place p.content.length i = i.toNat := by
    rw [place, if_neg (by omega)]
    omega
  have hgo : ¬ (e.finish > p.limit ∨ e.start > e.finish) := by omega
  rw [Edit.apply]
  simp only [hstop, Option.getD_some, if_neg hgo]
  rw [hplace hnonneg (by omega), hplace (by omega) hlimit, h.take_eq (by omega),
    h.drop_eq (by omega)]

/-- An edit that does not pass the limit joins those applied. -/
theorem Substituted.apply (h : Substituted content applied p) {e : Edit} (he : e.Ranged)
    (hlimit : e.finish ≤ p.limit) : Substituted content (e :: applied) (apply p e) := by
  have hafter : ∀ a ∈ applied, e.finish ≤ a.start := fun a ha =>
    hlimit.trans (h.limit_le_start a ha)
  have hle := h.limit_le
  have hnonneg := he.start_nonneg
  have hlt := he.start_lt
  rw [h.apply_eq he hlimit]
  refine ⟨?_, hnonneg, by simp only; omega, List.forall_mem_cons.2 ⟨Int.le_refl _, fun a ha => ?_⟩⟩
  · -- The line falls into what stands before the range, the range, and what stands behind it.
    obtain ⟨start, hstart⟩ := Int.eq_ofNat_of_zero_le hnonneg
    obtain ⟨finish, hfinish⟩ := Int.eq_ofNat_of_zero_le (hnonneg.trans hlt.le)
    have hfront : (content.take start).length = start := List.length_take_of_le (by omega)
    have hrange : ((content.drop start).take (finish - start)).length = finish - start := by
      rw [List.length_take, List.length_drop]
      omega
    have hsplit : content = content.take start ++
        ((content.drop start).take (finish - start) ++ content.drop finish) := by
      have hdrop : content.drop finish = (content.drop start).drop (finish - start) := by
        rw [List.drop_drop, Nat.add_sub_cancel' (by omega)]
      rw [hdrop, List.take_append_drop, List.take_append_drop]
    have hbefore : substituteFrom (e :: applied) 0 (content.take start) = content.take start := by
      refine substituteFrom_of_le (List.forall_mem_cons.2 ⟨by omega, fun a ha => ?_⟩)
      have := hafter a ha
      omega
    have hlength : e.start + ((content.drop start).take (finish - start)).length = e.finish := by
      omega
    have hreplaced := substituteFrom_cons_range he hlength hafter
    rw [hstart, Int.toNat_natCast] at hreplaced ⊢
    rw [hfinish, Int.toNat_natCast, substitute]
    conv_rhs => rw [hsplit]
    rw [substituteFrom_append, substituteFrom_append, hbefore, hfront, hrange, Nat.zero_add,
      hreplaced, Nat.add_sub_cancel' (by omega), substituteFrom_cons_of_ge he (by omega),
      List.append_assoc]
  · have := hafter a ha
    simp only
    omega

/-- An edit that passes the limit is left out. -/
theorem apply_of_gt {e : Edit} (he : e.Ranged) (hlimit : p.limit < e.finish) : apply p e = p := by
  have hstop : e.stop.getD p.content.length > p.limit ∨ e.start > e.stop.getD p.content.length := by
    rw [he.stop_eq, Option.getD_some]
    exact .inl hlimit
  simp only [apply, if_pos hstop]

/-- What a run of edits, from right to left, makes of a line. -/
theorem Substituted.foldl (h : Substituted content applied p) {edits : List Edit}
    (hedits : ∀ e ∈ edits, e.Ranged) (hsorted : edits.Pairwise fun a b => b.start ≤ a.start) :
    ∃ chosen, Substituted content (chosen ++ applied) (edits.foldl Edit.apply p) ∧
      chosen.reverse.Sublist edits ∧ chosen.Pairwise Apart ∧ (∀ e ∈ chosen, e.finish ≤ p.limit) ∧
      ∀ front e back, edits = front ++ e :: back → e.finish ≤ p.limit →
        (∀ o ∈ front, o.finish ≤ p.limit → e.Apart o) → e ∈ chosen := by
  induction edits generalizing p applied with
  | nil => exact ⟨[], h, .slnil, .nil, by simp, by simp⟩
  | cons x edits ih =>
    obtain ⟨hx, hedits⟩ := List.forall_mem_cons.1 hedits
    obtain ⟨hfirst, hsorted⟩ := List.pairwise_cons.1 hsorted
    have hlt := hx.start_lt
    rw [List.foldl_cons]
    by_cases hlimit : x.finish ≤ p.limit
    · have hstart : (Edit.apply p x).limit = x.start := by rw [h.apply_eq hx hlimit]
      obtain ⟨chosen, hrun, hsub, hapart, hbelow, hkeeps⟩ := ih (h.apply hx hlimit) hedits hsorted
      rw [hstart] at hbelow hkeeps
      refine ⟨chosen ++ [x], by simpa using hrun, by simpa using hsub, ?_, ?_, ?_⟩
      · exact List.pairwise_append.2 ⟨hapart, List.pairwise_singleton _ _,
          fun a ha b hb => .inl (List.mem_singleton.1 hb ▸ hbelow a ha)⟩
      · intro e he
        rcases List.mem_append.1 he with he | he
        · have := hbelow e he
          omega
        · rwa [List.mem_singleton.1 he]
      · intro front e back hsplit hin hothers
        rcases List.cons_eq_append_iff.1 hsplit with ⟨rfl, heq⟩ | ⟨front, rfl, rfl⟩
        · exact List.mem_append_right _ (List.mem_singleton.2 (List.cons.inj heq).1)
        · -- The edit starts where `x` does or before, so it ends before `x` starts.
          have hle := hfirst e (by simp)
          have hbefore : e.finish ≤ x.start := by
            rcases hothers x List.mem_cons_self hlimit with hbefore | hbehind <;> omega
          refine List.mem_append_left _ (hkeeps front e back rfl hbefore fun o ho hin' => ?_)
          exact hothers o (List.mem_cons_of_mem _ ho) (by omega)
    · rw [apply_of_gt hx (by omega)]
      obtain ⟨chosen, hrun, hsub, hapart, hbelow, hkeeps⟩ := ih h hedits hsorted
      refine ⟨chosen, hrun, hsub.cons x, hapart, hbelow, fun front e back hsplit hin hothers => ?_⟩
      rcases List.cons_eq_append_iff.1 hsplit with ⟨rfl, heq⟩ | ⟨front, rfl, rfl⟩
      · exact absurd ((List.cons.inj heq).1 ▸ hin) hlimit
      · exact hkeeps front e back rfl hin fun o ho => hothers o (List.mem_cons_of_mem _ ho)

/-! ## The edits of a line -/

theorem before_trans (a b c : Edit) (hab : before a b = true) (hbc : before b c = true) :
    before a c = true := by
  obtain ⟨_, _, stop, _⟩ := a
  obtain ⟨_, _, stop', _⟩ := b
  obtain ⟨_, _, stop'', _⟩ := c
  cases stop <;> cases stop' <;> cases stop'' <;> simp [before] at * <;> omega

theorem before_total (a b : Edit) : (before a b || before b a) = true := by
  obtain ⟨_, _, stop, _⟩ := a
  obtain ⟨_, _, stop', _⟩ := b
  cases stop <;> cases stop' <;> simp [before] <;> omega

theorem start_le_of_before {a b : Edit} (h : before a b = true) : b.start ≤ a.start := by
  simp only [before, Bool.or_eq_true, Bool.and_eq_true, decide_eq_true_eq] at h
  omega

theorem pairwise_mergeSort_before (edits : List Edit) :
    (edits.mergeSort before).Pairwise fun a b => before a b = true :=
  List.pairwise_mergeSort before_trans before_total edits

/-- Which of the edits of a line of some length take part: they are apart and within the line, and
an edit within the line takes part if it is apart from all others within the line. -/
structure Chosen (own : List Edit) (length : Nat) (chosen : List Edit) : Prop where
  subperm : chosen.Subperm own
  apart : chosen.Pairwise Apart
  inRange : ∀ e ∈ chosen, e.InRange length
  mem_of_apart : ∀ e others, own.Perm (e :: others) → e.InRange length →
    (∀ o ∈ others, o.InRange length → e.Apart o) → e ∈ chosen

/-- **Edits of a line act as one substitution.** -/
theorem applyAll_eq_substitute {own : List Edit} (h : ∀ e ∈ own, e.Ranged) (content : List Char) :
    ∃ chosen, Chosen own content.length chosen ∧ applyAll own content = substitute chosen content := by
  have hperm : (own.mergeSort before).Perm own := List.mergeSort_perm ..
  have hsorted := (pairwise_mergeSort_before own).imp fun {a b} => start_le_of_before (a := a) (b := b)
  obtain ⟨chosen, hrun, hsub, hapart, hbelow, hkeeps⟩ :=
    (Substituted.init content).foldl (fun e he => h e (hperm.mem_iff.1 he)) hsorted
  refine ⟨chosen, ⟨?_, hapart, hbelow, fun e others hothers hin hall => ?_⟩, ?_⟩
  · exact ((List.reverse_perm chosen).symm.subperm.trans hsub.subperm).trans hperm.subperm
  · have hmem : e ∈ own.mergeSort before := (hperm.trans hothers).mem_iff.2 List.mem_cons_self
    obtain ⟨front, back, hsplit⟩ := List.append_of_mem hmem
    have hrest : (front ++ back).Perm others := by
      have hboth := hperm.trans hothers
      rw [hsplit] at hboth
      exact (List.perm_middle.symm.trans hboth).cons_inv
    exact hkeeps front e back hsplit hin fun o ho =>
      hall o (hrest.mem_iff.1 (List.mem_append_left _ ho))
  · rw [applyAll, hrun.content_eq, List.append_nil]

/-- Where no two edits of a line meet, their order does not matter. -/
theorem applyAll_eq_of_perm {own own' : List Edit} (h : own'.Perm own) (hown : ∀ e ∈ own, e.Ranged)
    (hapart : own.Pairwise Apart) (content : List Char) :
    applyAll own' content = applyAll own content := by
  have hsort : own'.mergeSort before = own.mergeSort before := by
    refine List.Perm.eq_of_pairwise ?_ (pairwise_mergeSort_before own') (pairwise_mergeSort_before own)
      ((List.mergeSort_perm ..).trans (h.trans (List.mergeSort_perm ..).symm))
    intro a b ha hb hab hba
    have ha : a ∈ own := h.mem_iff.1 ((List.mergeSort_perm ..).mem_iff.1 ha)
    have hb : b ∈ own := (List.mergeSort_perm ..).mem_iff.1 hb
    -- Both start at one place, so they would meet.
    have hstart := Int.le_antisymm (start_le_of_before hab) (start_le_of_before hba)
    have halt := (hown a ha).start_lt
    have hblt := (hown b hb).start_lt
    by_contra hne
    rcases hapart.forall ha hb hne with hle | hle <;> omega
  rw [applyAll, applyAll, hsort]

end Edit

/-! ## Lines -/

theorem flatMap_chars_linesFrom (done cs : List Char) :
    (linesFrom done cs).flatMap Line.chars = done.reverse ++ cs := by
  fun_induction linesFrom done cs with
  | case1 done hempty => simpa using hempty
  | case2 done hne => simp [Line.chars]
  | case3 done rest ih => simp [Line.chars, ih]
  | case4 done c rest _ hend ih => simp [Line.chars, ih]
  | case5 done c rest _ hgo ih => simp [ih]

/-- Lines are cut from a text without a loss. -/
theorem flatMap_chars_lines (source : String) :
    (lines source).flatMap Line.chars = source.toList :=
  flatMap_chars_linesFrom [] source.toList

theorem Lined.ending_mem {ls : List Line} (h : Lined ls) :
    ∀ l ∈ ls, l.ending ∈ [[], ['\n'], ['\r'], ['\r', '\n']] := by
  induction h with
  | nil => simp
  | last _ => simp
  | feed _ _ ih | both _ _ ih | «return» _ _ _ ih => exact List.forall_mem_cons.2 ⟨by simp, ih⟩

/-- Edited lines stand in the order of the lines. -/
theorem editLines_eq_flatMap (edits : List Edit) (deleted : List Int) (n : Nat) (ls : List Line) :
    editLines edits deleted n ls = (ls.zipIdx n).flatMap fun (l, m) =>
      if deleted.contains (m : Int) then []
      else Edit.applyAll (edits.filter (·.line = (m : Int))) l.content ++ l.ending := by
  induction ls generalizing n with
  | nil => rfl
  | cons l ls ih => rw [editLines_cons, ih, List.zipIdx_cons, List.flatMap_cons]

theorem toList_applyEdits (source : String) (edits : List Edit) (deleted : List Int) :
    (applyEdits source edits deleted).toList = ((lines source).zipIdx 1).flatMap fun (l, m) =>
      if deleted.contains (m : Int) then []
      else Edit.applyAll (edits.filter (·.line = (m : Int))) l.content ++ l.ending := by
  rw [applyEdits, String.toList_ofList, editLines_eq_flatMap]

/-- Without edits and deletions a text stays. -/
theorem applyEdits_nil (source : String) : applyEdits source [] [] = source := by
  refine String.toList_inj.1 ?_
  rw [toList_applyEdits, ← flatMap_chars_lines]
  conv_rhs => rw [← List.zipIdx_map_fst 1 (lines source), List.flatMap_map]
  exact List.flatMap_congr fun _ _ => by simp [Line.chars]

/-! ## The edits of a text -/

section

variable {source : String} {edits : List Edit}

theorem Edit.ranged_of_line (hedits : ∀ e ∈ edits, e.Ranged) (n : Nat) :
    ∀ e ∈ edits.filter (·.line = (n : Int)), e.Ranged :=
  fun e he => hedits e (List.mem_filter.1 he).1

/-- The edits that take part, for every line of a text. -/
theorem Edit.exists_chosen (hedits : ∀ e ∈ edits, e.Ranged) :
    ∃ chosen : Nat → List Edit, ∀ l n, (l, n) ∈ (lines source).zipIdx 1 →
      Edit.Chosen (edits.filter (·.line = (n : Int))) l.content.length (chosen n) ∧
        Edit.applyAll (edits.filter (·.line = (n : Int))) l.content =
          Edit.substitute (chosen n) l.content := by
  have hline : ∀ n : Nat, ∃ chosen, ∀ l, (l, n) ∈ (lines source).zipIdx 1 →
      Edit.Chosen (edits.filter (·.line = (n : Int))) l.content.length chosen ∧
        Edit.applyAll (edits.filter (·.line = (n : Int))) l.content =
          Edit.substitute chosen l.content := by
    intro n
    simp only [List.mk_mem_zipIdx_iff_le_and_getElem?_sub]
    cases hl : (lines source)[n - 1]? with
    | none => exact ⟨[], fun l hmem => by cases hmem.2⟩
    | some l =>
      obtain ⟨chosen, hchosen⟩ :=
        Edit.applyAll_eq_substitute (Edit.ranged_of_line hedits n) l.content
      exact ⟨chosen, fun l' hmem => Option.some.inj hmem.2 ▸ hchosen⟩
  choose chosen hchosen using hline
  exact ⟨chosen, fun l n => hchosen n l⟩

/-- Edits of one line are apart. -/
def Edit.Compatible (a b : Edit) : Prop := a.line = b.line → a.Apart b

/-- Where no two edits of a line meet, their order does not matter. -/
theorem applyEdits_eq_of_perm (hedits : ∀ e ∈ edits, e.Ranged) {edits' : List Edit}
    (hperm : edits'.Perm edits) (hapart : edits.Pairwise Edit.Compatible) (deleted : List Int) :
    applyEdits source edits' deleted = applyEdits source edits deleted := by
  refine String.toList_inj.1 ?_
  rw [toList_applyEdits, toList_applyEdits]
  refine List.flatMap_congr fun ⟨l, n⟩ _ => ?_
  have hpairs : (edits.filter (·.line = (n : Int))).Pairwise Edit.Apart := by
    refine (hapart.filter _).imp_of_mem fun ha hb hab => hab ?_
    have ha := List.of_mem_filter ha
    have hb := List.of_mem_filter hb
    simp only [decide_eq_true_eq] at ha hb
    rw [ha, hb]
  dsimp only
  rw [Edit.applyAll_eq_of_perm (hperm.filter _) (Edit.ranged_of_line hedits n) hpairs]

end

/-- What edits and deletions make of a text. Its lines, cut without a loss, stay in order, those that
are deleted apart, each with its own ending; a line with edits has some of their ranges replaced at
once. Where no two edits of a line meet, their order does not matter. -/
structure Simultaneous (source : String) (edits : List Edit) (deleted : List Int) : Prop where
  cut : (lines source).flatMap Line.chars = source.toList
  line : ∀ l ∈ lines source, Unbroken l.content ∧
    l.ending ∈ [[], ['\n'], ['\r'], ['\r', '\n']]
  replaced : ∃ chosen : Nat → List Edit,
    (∀ l n, (l, n) ∈ (lines source).zipIdx 1 →
      Edit.Chosen (edits.filter (·.line = (n : Int))) l.content.length (chosen n)) ∧
    (applyEdits source edits deleted).toList = ((lines source).zipIdx 1).flatMap fun (l, n) =>
      if deleted.contains (n : Int) then []
      else if edits.all (·.line ≠ (n : Int)) then l.chars
      else Edit.substitute (chosen n) l.content ++ l.ending
  order : ∀ edits', edits'.Perm edits → edits.Pairwise Edit.Compatible →
    applyEdits source edits' deleted = applyEdits source edits deleted

/-- **Edits apply as one simultaneous substitution**, and without edits and deletions a text stays. -/
theorem applyEdits_simultaneous (source : String) {edits : List Edit}
    (hedits : ∀ e ∈ edits, e.Ranged) (deleted : List Int) :
    Simultaneous source edits deleted ∧ applyEdits source [] [] = source := by
  have hlined := lined_lines source
  obtain ⟨chosen, hchosen⟩ := Edit.exists_chosen hedits
  refine ⟨⟨flatMap_chars_lines source, fun l hl => ⟨hlined.unbroken l hl, hlined.ending_mem l hl⟩,
    ⟨chosen, fun l n hmem => (hchosen l n hmem).1, ?_⟩,
    fun edits' hperm hapart => applyEdits_eq_of_perm hedits hperm hapart deleted⟩,
    applyEdits_nil source⟩
  rw [toList_applyEdits]
  refine List.flatMap_congr fun ⟨l, n⟩ hmem => ?_
  dsimp only
  split
  · rfl
  · split
    · next hnone =>
      have hnil : edits.filter (·.line = (n : Int)) = [] := by
        simpa [List.filter_eq_nil_iff] using hnone
      rw [hnil, Edit.applyAll_nil, Line.chars]
    · rw [(hchosen l n hmem).2]

/-- Edits that touch, meet, repeat each other or pass the end of their line. -/
def crowdedEdits : List Edit :=
  [⟨1, 0, some 2, "let"⟩, ⟨1, 2, some 3, ""⟩, ⟨1, 1, some 4, "x"⟩, ⟨3, 0, some 9, "y"⟩,
    ⟨3, 1, some 2, "z"⟩, ⟨3, 1, some 2, "z"⟩]

/-- The lines have all four endings, and one is deleted. -/
theorem applyEdits_simultaneous_crowded :
    (∀ e ∈ crowdedEdits, e.Ranged) ∧ Simultaneous "ab cd\r\nef\rgh\nij" crowdedEdits [2] ∧
      applyEdits "ab cd\r\nef\rgh\nij" [] [] = "ab cd\r\nef\rgh\nij" := by
  have hedits : ∀ e ∈ crowdedEdits, e.Ranged := by decide
  exact ⟨hedits, applyEdits_simultaneous _ hedits _⟩

end Pseudonym.Source
