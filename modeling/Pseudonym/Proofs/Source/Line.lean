import Mathlib.Data.List.Basic
import Pseudonym.Source.Edit

/-!
# How a text falls into lines

`Lined` says which lists of lines a text can be cut into: breaks stand only in endings, only the
last line may lack one, and a carriage return is never followed by a line that is a bare line feed,
since the two would be one ending. Behind each line the cut starts afresh (`linesFrom_append`), but
for that one case: where an edit brings a carriage return before a bare line feed, two lines become
one.
-/

namespace Pseudonym.Source

/-- A content of a line: no character of it ends a line. -/
def Unbroken (cs : List Char) : Prop := '\r' ∉ cs ∧ '\n' ∉ cs

namespace Unbroken

theorem nil : Unbroken [] := by simp [Unbroken]

theorem cons {c : Char} {cs : List Char} (hc : ¬ (c = '\r' ∨ c = '\n')) (h : Unbroken cs) :
    Unbroken (c :: cs) := by
  obtain ⟨hr, hn⟩ := not_or.1 hc
  exact ⟨by simp [Ne.symm hr, h.1], by simp [Ne.symm hn, h.2]⟩

theorem reverse {cs : List Char} (h : Unbroken cs) : Unbroken cs.reverse := by
  simpa [Unbroken] using h

theorem take {cs : List Char} (h : Unbroken cs) (n : Nat) : Unbroken (cs.take n) :=
  ⟨fun hm => h.1 (List.mem_of_mem_take hm), fun hm => h.2 (List.mem_of_mem_take hm)⟩

end Unbroken

/-- The lines that a text can be cut into. -/
inductive Lined : List Line → Prop
  | nil : Lined []
  | last {content : List Char} : Unbroken content → content ≠ [] → Lined [⟨content, []⟩]
  | feed {content : List Char} {rest : List Line} :
      Unbroken content → Lined rest → Lined (⟨content, ['\n']⟩ :: rest)
  | both {content : List Char} {rest : List Line} :
      Unbroken content → Lined rest → Lined (⟨content, ['\r', '\n']⟩ :: rest)
  | return {content : List Char} {rest : List Line} :
      Unbroken content → Lined rest → rest.head? ≠ some ⟨[], ['\n']⟩ →
      Lined (⟨content, ['\r']⟩ :: rest)

theorem Lined.unbroken {ls : List Line} (h : Lined ls) : ∀ l ∈ ls, Unbroken l.content := by
  induction h with
  | nil => simp
  | last hu => simpa using hu
  | feed hu _ ih | both hu _ ih | «return» hu _ _ ih => exact List.forall_mem_cons.2 ⟨hu, ih⟩

theorem Lined.uncons {l : Line} {ls : List Line} (h : Lined (l :: ls)) :
    Unbroken l.content ∧ Lined ls ∧ (l.ending = ['\r'] → ls.head? ≠ some ⟨[], ['\n']⟩) := by
  cases h with
  | last hu _ => exact ⟨hu, .nil, by simp⟩
  | feed hu h => exact ⟨hu, h, by simp⟩
  | both hu h => exact ⟨hu, h, by simp⟩
  | «return» hu h hbare => exact ⟨hu, h, fun _ => hbare⟩

/-! ## The cut -/

/-- Characters that end no line join the line in progress. -/
theorem linesFrom_append {cs : List Char} (h : Unbroken cs) (done rest : List Char) :
    linesFrom done (cs ++ rest) = linesFrom (cs.reverse ++ done) rest := by
  induction cs generalizing done with
  | nil => rfl
  | cons c cs ih =>
    have hr : c ≠ '\r' := fun he => h.1 (by simp [he])
    have hn : c ≠ '\n' := fun he => h.2 (by simp [he])
    have htail : Unbroken cs :=
      ⟨fun hm => h.1 (List.mem_cons_of_mem c hm), fun hm => h.2 (List.mem_cons_of_mem c hm)⟩
    rw [List.cons_append, linesFrom, if_neg (by simp [hr, hn]), ih htail, List.reverse_cons,
      List.append_assoc, List.singleton_append]
    intro more he
    exact absurd he hr

theorem linesFrom_last {content : List Char} (h : Unbroken content) (hne : content ≠ []) :
    linesFrom [] content = [⟨content, []⟩] := by
  have hcut := linesFrom_append h [] []
  rw [List.append_nil] at hcut
  simp [hcut, linesFrom, hne]

theorem linesFrom_feed {content : List Char} (h : Unbroken content) (rest : List Char) :
    linesFrom [] (content ++ '\n' :: rest) = ⟨content, ['\n']⟩ :: linesFrom [] rest := by
  simp [linesFrom_append h, linesFrom]

theorem linesFrom_both {content : List Char} (h : Unbroken content) (rest : List Char) :
    linesFrom [] (content ++ '\r' :: '\n' :: rest) =
      ⟨content, ['\r', '\n']⟩ :: linesFrom [] rest := by
  simp [linesFrom_append h, linesFrom]

theorem linesFrom_return {content rest : List Char} (h : Unbroken content)
    (hrest : rest.head? ≠ some '\n') :
    linesFrom [] (content ++ '\r' :: rest) = ⟨content, ['\r']⟩ :: linesFrom [] rest := by
  rw [linesFrom_append h, linesFrom, if_pos (.inl rfl)]
  · simp
  · rintro more - rfl
    simp at hrest

/-- A text whose first line is a bare line feed starts with it. -/
theorem head?_of_linesFrom {cs : List Char} (h : (linesFrom [] cs).head? = some ⟨[], ['\n']⟩) :
    cs.head? = some '\n' := by
  generalize hd : ([] : List Char) = done at h
  have key : (linesFrom done cs).head? = some ⟨[], ['\n']⟩ → done = [] ∧ cs.head? = some '\n' := by
    clear h hd
    intro h
    fun_induction linesFrom done cs with
    | case1 done => simp at h
    | case2 done hd => simp at h
    | case3 done rest => simp at h
    | case4 done c rest hr hc => simp_all
    | case5 done c rest hr hc ih => simpa using (ih h).1
  exact (key (hd ▸ h)).2

/-- Every text is cut into lines of this form. -/
theorem lined_linesFrom {done : List Char} (hd : Unbroken done) (cs : List Char) :
    Lined (linesFrom done cs) := by
  fun_induction linesFrom done cs with
  | case1 done => exact .nil
  | case2 done hne => exact .last hd.reverse (by simpa using hne)
  | case3 done rest ih => exact .both hd.reverse (ih .nil)
  | case4 done c rest hrest hc ih =>
    rcases hc with rfl | rfl
    · refine .return hd.reverse (ih .nil) fun hhead => ?_
      obtain ⟨more, rfl⟩ : ∃ more, rest = '\n' :: more := by
        cases rest with
        | nil => simp [linesFrom] at hhead
        | cons d more => exact ⟨more, by simpa using head?_of_linesFrom hhead⟩
      exact hrest more rfl rfl
    · exact .feed hd.reverse (ih .nil)
  | case5 done c rest hrest hc ih => exact ih (hd.cons hc)

theorem lined_lines (source : String) : Lined (lines source) := lined_linesFrom .nil _

/-! ## Lines put together -/

/-- Lines that may stand behind each other: only the last may lack an ending, and then says
something. -/
inductive Ended : List Line → Prop
  | nil : Ended []
  | last {content : List Char} : Unbroken content → content ≠ [] → Ended [⟨content, []⟩]
  | cons {content ending : List Char} {rest : List Line} :
      Unbroken content → ending = ['\n'] ∨ ending = ['\r', '\n'] ∨ ending = ['\r'] → Ended rest →
      Ended (⟨content, ending⟩ :: rest)

/-- The contents of the lines that lines make when they are put behind each other: a bare line feed
behind a carriage return is no line. -/
def contentsBehind : (returned : Bool) → List Line → List (List Char)
  | _, [] => []
  | returned, l :: rest =>
    if returned ∧ l = ⟨[], ['\n']⟩ then contentsBehind false rest
    else l.content :: contentsBehind (l.ending = ['\r']) rest

@[simp] theorem contentsBehind_bare (rest : List Line) :
    contentsBehind true (⟨[], ['\n']⟩ :: rest) = contentsBehind false rest := by
  simp [contentsBehind]

theorem contentsBehind_of_ne {returned : Bool} {l : Line} (h : returned = true → l ≠ ⟨[], ['\n']⟩)
    (rest : List Line) : contentsBehind returned (l :: rest) =
      l.content :: contentsBehind (l.ending = ['\r']) rest := by
  rw [contentsBehind, if_neg fun hbare => h hbare.1 hbare.2]

@[simp] theorem contentsBehind_false (l : Line) (rest : List Line) :
    contentsBehind false (l :: rest) = l.content :: contentsBehind (l.ending = ['\r']) rest :=
  contentsBehind_of_ne (fun h => by cases h) rest

/-- The characters of lines start with a line feed only if the first line is bare. -/
theorem Ended.head?_chars {ls : List Line} (h : Ended ls)
    (hhead : (ls.flatMap Line.chars).head? = some '\n') : ∃ rest, ls = ⟨[], ['\n']⟩ :: rest := by
  cases h with
  | nil => cases hhead
  | @last content hu hne =>
    cases content with
    | nil => exact absurd rfl hne
    | cons c cs => exact absurd (by simpa [Line.chars] using hhead) (ne_of_mem_of_not_mem List.mem_cons_self hu.2)
  | @cons content ending rest hu hend hrest =>
    cases content with
    | nil =>
      rcases hend with rfl | rfl | rfl
      · exact ⟨rest, rfl⟩
      · simp [Line.chars] at hhead
      · simp [Line.chars] at hhead
    | cons c cs => exact absurd (by simpa [Line.chars] using hhead) (ne_of_mem_of_not_mem List.mem_cons_self hu.2)

/-- Behind a carriage return a bare line feed is part of the line before. -/
theorem contents_return {ls : List Line} (h : Ended ls)
    (hls : (linesFrom [] (ls.flatMap Line.chars)).map (·.content) = contentsBehind false ls)
    {content : List Char} (hu : Unbroken content) :
    (linesFrom [] (content ++ '\r' :: ls.flatMap Line.chars)).map (·.content) =
      content :: contentsBehind true ls := by
  by_cases hhead : (ls.flatMap Line.chars).head? = some '\n'
  · obtain ⟨rest, rfl⟩ := h.head?_chars hhead
    rw [contentsBehind_false] at hls
    have hfeed := linesFrom_feed .nil (rest.flatMap Line.chars)
    rw [List.nil_append] at hfeed
    simp only [List.flatMap_cons, Line.chars, List.nil_append, List.cons_append, hfeed,
      List.map_cons] at hls
    rw [contentsBehind_bare, List.flatMap_cons, Line.chars, List.nil_append, List.cons_append,
      List.nil_append, linesFrom_both hu, List.map_cons, (List.cons.inj hls).2]
    rfl
  · rw [linesFrom_return hu hhead, List.map_cons, hls]
    cases ls with
    | nil => rfl
    | cons l rest =>
      rw [contentsBehind_false, contentsBehind_of_ne]
      rintro - rfl
      exact hhead rfl

/-- Lines that are put behind each other. -/
theorem contents_linesFrom {ls : List Line} (h : Ended ls) :
    (linesFrom [] (ls.flatMap Line.chars)).map (·.content) = contentsBehind false ls := by
  induction h with
  | nil => rfl
  | last hu hne =>
    rw [List.flatMap_cons, List.flatMap_nil, Line.chars, List.append_nil, List.append_nil,
      linesFrom_last hu hne]
    rfl
  | @cons content ending rest hu hend hrest ih =>
    rw [List.flatMap_cons, Line.chars, List.append_assoc, contentsBehind_false]
    rcases hend with rfl | rfl | rfl
    · rw [List.singleton_append, linesFrom_feed hu, List.map_cons, ih]
      rfl
    · rw [List.cons_append, List.singleton_append, linesFrom_both hu, List.map_cons, ih]
      rfl
    · rw [List.singleton_append, contents_return hrest ih hu]
      rfl

/-- Lines that a text can be cut into stand behind each other. -/
theorem Lined.ended {ls : List Line} (h : Lined ls) : Ended ls := by
  induction h with
  | nil => exact .nil
  | last hu hne => exact .last hu hne
  | feed hu _ ih => exact .cons hu (.inl rfl) ih
  | both hu _ ih => exact .cons hu (.inr (.inl rfl)) ih
  | «return» hu _ _ ih => exact .cons hu (.inr (.inr rfl)) ih

/-- A text is cut into the lines that it is made of. -/
theorem Lined.linesFrom_chars {ls : List Line} (h : Lined ls) :
    linesFrom [] (ls.flatMap Line.chars) = ls := by
  induction h with
  | nil => rfl
  | last hu hne => simp [Line.chars, linesFrom_last hu hne]
  | feed hu _ ih => simp [Line.chars, linesFrom_feed hu, ih]
  | both hu _ ih => simp [Line.chars, linesFrom_both hu, ih]
  | @«return» content rest hu hrest hbare ih =>
    have hhead : (rest.flatMap Line.chars).head? ≠ some '\n' := by
      intro hfeed
      obtain ⟨more, rfl⟩ := hrest.ended.head?_chars hfeed
      exact hbare rfl
    simp [Line.chars, linesFrom_return hu hhead, ih]

/-! ## Edits of lines -/

/-- Without edits a content stays. -/
@[simp] theorem Edit.applyAll_nil (content : List Char) : Edit.applyAll [] content = content := by
  simp [Edit.applyAll]

/-- An edit that takes all from a place on leaves what stands before it. -/
theorem Edit.applyAll_cut (line : Int) {content : List Char} {start : Nat}
    (h : start ≤ content.length) :
    Edit.applyAll [⟨line, start, none, ""⟩] content = content.take start := by
  have hstart : ¬ ((start : Int) > content.length) := by omega
  have hplace (n : Nat) : ¬ ((n : Int) < 0) := by omega
  simp [Edit.applyAll, Edit.apply, Edit.place, hstart, hplace, Nat.min_eq_left h]

/-- A line that is not deleted keeps its ending. -/
theorem editLines_cons (edits : List Edit) (deleted : List Int) (n : Nat) (l : Line)
    (rest : List Line) :
    editLines edits deleted n (l :: rest) =
      (if deleted.contains (n : Int) then []
        else Edit.applyAll (edits.filter (·.line = (n : Int))) l.content ++ l.ending) ++
      editLines edits deleted (n + 1) rest := by
  rw [editLines]
  cases edits.filter (·.line = (n : Int)) with
  | nil => simp [Line.chars]
  | cons e own => rfl

end Pseudonym.Source
