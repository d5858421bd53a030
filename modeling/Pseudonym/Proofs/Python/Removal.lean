import Pseudonym.Proofs.Python.Stripping
import Pseudonym.Proofs.Source.Edit

/-!
# What goes with the comments

A comment is the rest of its line from its mark on. So what removing comments takes from a text can be
said line by line: a line stays, goes if only blanks stand before a comment on it, or is cut before the
spaces and tabs that stand before one (`Treated`). The main statement is that the stripped text is what
is left of the lines, in order and with their own endings, and that comments for other programs stay
where they are (`stripComments_treated`).
-/

namespace Pseudonym.Python

open Files Text Scan

/-! ## Comments for other programs -/

/-- The word `coding`, a mark, some blanks, and the first character of a name. -/
inductive NamesEncoding : List Char → Prop
  | intro {mark c : Char} {gap rest : List Char} (hmark : mark = ':' ∨ mark = '=')
      (hgap : ∀ x ∈ gap, x = ' ' ∨ x = '\t') (hc : isEncodingChar c) :
      NamesEncoding ("coding".toList ++ mark :: (gap ++ c :: rest))

theorem declaresEncodingAt_iff {cs : List Char} : declaresEncodingAt cs = true ↔ NamesEncoding cs := by
  constructor
  · intro h
    unfold declaresEncodingAt at h
    split at h
    · next mark rest hdrop =>
      split at h
      · next c more hbehind =>
        simp only [Bool.and_eq_true, Bool.or_eq_true, decide_eq_true_eq, List.isPrefixOf_iff_prefix] at h
        obtain ⟨⟨⟨after, rfl⟩, hmark⟩, hc⟩ := h
        obtain rfl : after = mark :: rest := by simpa using hdrop
        have hgap : ∀ x ∈ rest.takeWhile (fun c => c = ' ' || c = '\t'), x = ' ' ∨ x = '\t' := by
          intro x hx
          simpa using List.mem_takeWhile_imp hx
        have hrest := List.takeWhile_append_dropWhile (p := fun c => c = ' ' || c = '\t') (l := rest)
        rw [hbehind] at hrest
        rw [← hrest]
        exact .intro hmark hgap hc
      · simp at h
    · simp at h
  · rintro ⟨hmark, hgap, hc⟩
    next mark c gap rest =>
    have hblank : ¬ (c = ' ' || c = '\t') = true := by
      rw [Bool.or_eq_true, decide_eq_true_eq, decide_eq_true_eq]
      rintro (rfl | rfl) <;> exact absurd hc (by decide)
    have hbehind : (gap ++ c :: rest).dropWhile (fun c => c = ' ' || c = '\t') = c :: rest := by
      rw [List.dropWhile_append_of_pos (fun x hx => by simpa using hgap x hx),
        List.dropWhile_cons_of_neg (p := fun c => c = ' ' || c = '\t') hblank]
    have hdrop : ("coding".toList ++ mark :: (gap ++ c :: rest)).drop 6 =
        mark :: (gap ++ c :: rest) := by simp
    have hword : "coding".toList.isPrefixOf ("coding".toList ++ mark :: (gap ++ c :: rest)) = true :=
      List.isPrefixOf_iff_prefix.2 ⟨_, rfl⟩
    have hmark : (decide (mark = ':') || decide (mark = '=')) = true := by simpa using hmark
    simp only [declaresEncodingAt, hdrop, hbehind, hword, hmark, hc, Bool.and_self]

theorem declaresEncodingIn_iff {cs : List Char} : declaresEncodingIn cs = true ↔
    ∃ before after, cs = before ++ after ∧ NamesEncoding after := by
  induction cs with
  | nil =>
    simp only [declaresEncodingIn, Bool.false_eq_true, false_iff]
    rintro ⟨before, after, hsplit, ⟨⟩⟩
    simp at hsplit
  | cons c cs ih =>
    rw [declaresEncodingIn, Bool.or_eq_true, declaresEncodingAt_iff, ih]
    constructor
    · rintro (h | ⟨before, after, rfl, h⟩)
      · exact ⟨[], _, rfl, h⟩
      · exact ⟨c :: before, after, rfl, h⟩
    · rintro ⟨before, after, hsplit, h⟩
      cases before with
      | nil => exact .inl (by simpa using hsplit ▸ h)
      | cons d before =>
        obtain ⟨rfl, rfl⟩ := List.cons.inj hsplit
        exact .inr ⟨before, after, rfl, h⟩

/-- A comment that speaks to other programs: it names an interpreter on the first line, or declares an
encoding, alone on one of the first two lines. -/
def Directive (c : Comment) : Prop :=
  (c.line = 1 ∧ "#!".toList <+: c.text.toList) ∨
    (c.ownLine = true ∧ c.line ≤ 2 ∧
      ∃ before after, c.text.toList = '#' :: (before ++ after) ∧ NamesEncoding after)

theorem declaresEncoding_iff {text : String} : declaresEncoding text = true ↔
    ∃ before after, text.toList = '#' :: (before ++ after) ∧ NamesEncoding after := by
  unfold declaresEncoding
  split
  · next rest htext =>
    rw [declaresEncodingIn_iff, htext]
    simp
  · next hnot =>
    simp only [Bool.false_eq_true, false_iff]
    rintro ⟨before, after, htext, -⟩
    exact hnot _ htext

theorem directive_commentAt {content : List Char} {l : Lexeme} :
    Directive (commentAt content l) ↔ (commentAt content l).isDocumentation = true := by
  simp only [Directive, commentAt, isDocumentation, Bool.or_eq_true, Bool.and_eq_true,
    decide_eq_true_eq, String.startsWith_string_iff, declaresEncoding_iff, and_assoc]

/-! ## One line -/

/-- A comment is the rest of a line, and knows whether only blanks stand before it. -/
structure EndsLine (c : Comment) (content : List Char) : Prop where
  mark : c.text.toList.head? = some '#'
  text_eq : c.text.toList = content.drop c.column
  ownLine_iff : c.ownLine = true ↔ ∀ x ∈ content.take c.column, isBlank x

/-- What removal leaves of a line, given the comments of the text and the number of the line. -/
inductive Treated (comments : List Comment) (n : Nat) (l : Source.Line) : List Char → Prop
  /-- All its comments are for other programs. -/
  | kept (hkeep : ∀ c ∈ comments, c.line = n → c.isDocumentation = true) :
      Treated comments n l l.chars
  /-- It is a comment behind blanks. -/
  | dropped {c : Comment} {blanks : List Char} (hc : c ∈ comments) (hline : c.line = n)
      (hgo : c.isDocumentation = false) (hcontent : l.content = blanks ++ c.text.toList)
      (hblanks : ∀ x ∈ blanks, isBlank x) : Treated comments n l []
  /-- A comment stands behind something else, and goes with the spaces and tabs before it. -/
  | cut {c : Comment} {front gap : List Char} (hc : c ∈ comments) (hline : c.line = n)
      (hgo : c.isDocumentation = false) (hcontent : l.content = front ++ gap ++ c.text.toList)
      (hgap : ∀ x ∈ gap, x = ' ' ∨ x = '\t') (hfront : ∃ x ∈ front, ¬ isBlank x)
      (hlast : ∀ x ∈ front.getLast?, ¬ (x = ' ' ∨ x = '\t')) : Treated comments n l (front ++ l.ending)

/-- The files of comments are only labels. -/
theorem Treated.relabel {comments : List Comment} {n : Nat} {l : Source.Line} {out : List Char}
    (h : Treated comments n l out) (file : Option Path) :
    Treated (comments.map ({ · with file })) n l out := by
  cases h with
  | kept hkeep =>
    refine .kept fun c' hc' hline => ?_
    obtain ⟨c, hc, rfl⟩ := List.mem_map.1 hc'
    exact hkeep c hc hline
  | dropped hc hline hgo hcontent hblanks =>
    exact .dropped (List.mem_map_of_mem hc) hline hgo hcontent hblanks
  | cut hc hline hgo hcontent hgap hfront hlast =>
    exact .cut (List.mem_map_of_mem hc) hline hgo hcontent hgap hfront hlast

/-- The characters that are left of a line. -/
def leftLine (l : Source.Line) (row : List Lexeme) : List Char :=
  ((strippedLine l row).map Source.Line.chars).getD []

section Row

variable {n : Nat} {s s' : State} {l : Source.Line} {row : List Lexeme}

theorem endsLine_of_mem_commentsOfRow (hrow : scanLine n s (l.content ++ ['\n']) = .ok (row, s'))
    (hn : '\n' ∉ l.content) {c : Comment} (hc : c ∈ commentsOfRow l.content row) :
    EndsLine c l.content ∧ (Directive c ↔ c.isDocumentation = true) := by
  rcases mem_commentsOfRow hrow hn with ⟨hnil, -⟩ | ⟨front, z, ls₀, e, x, hcontent, rfl, -, hone⟩
  · rw [hnil] at hc
    cases hc
  · rw [hone] at hc
    obtain rfl := List.mem_singleton.1 hc
    refine ⟨⟨by simp [commentAt], by simp [commentAt, hcontent], ?_⟩, directive_commentAt⟩
    simp [commentAt]

/-- A line stays for a comment for other programs. -/
theorem leftLine_of_documentation (hrow : scanLine n s (l.content ++ ['\n']) = .ok (row, s'))
    (hn : '\n' ∉ l.content) {c : Comment} (hc : c ∈ commentsOfRow l.content row)
    (hdoc : c.isDocumentation = true) : leftLine l row = l.chars := by
  rcases mem_commentsOfRow hrow hn with ⟨hnil, -⟩ | ⟨front, z, ls₀, e, x, -, -, -, hone⟩
  · rw [hnil] at hc
    cases hc
  · rw [hone] at hc
    obtain rfl := List.mem_singleton.1 hc
    simp [leftLine, strippedLine, hone, hdoc]

/-- **A line is treated as its comments say.** -/
theorem treated_leftLine (hrow : scanLine n s (l.content ++ ['\n']) = .ok (row, s'))
    (hn : '\n' ∉ l.content) {comments : List Comment}
    (hcomments : ∀ c, c ∈ comments ∧ c.line = n ↔ c ∈ commentsOfRow l.content row) :
    Treated comments n l (leftLine l row) := by
  rcases mem_commentsOfRow hrow hn with ⟨hnil, -⟩ | ⟨front, z, ls₀, e, x, hcontent, hx, -, hone⟩
  · have hleft : leftLine l row = l.chars := by simp [leftLine, strippedLine, hnil]
    rw [hleft]
    refine .kept fun c hc hline => ?_
    have hnone := (hcomments c).1 ⟨hc, hline⟩
    rw [hnil] at hnone
    cases hnone
  obtain ⟨hc, hline⟩ := (hcomments (commentAt l.content x)).2 (by simp [hone])
  have htext : (commentAt l.content x).text.toList = '#' :: z := by simp [commentAt, hx]
  cases hdoc : (commentAt l.content x).isDocumentation with
  | true =>
    have hleft : leftLine l row = l.chars := by simp [leftLine, strippedLine, hone, hdoc]
    rw [hleft]
    refine .kept fun c hc hline => ?_
    have hone' := (hcomments c).1 ⟨hc, hline⟩
    rw [hone, List.mem_singleton] at hone'
    rwa [hone']
  | false =>
    have hleft : leftLine l row =
        ((withoutComment l (commentAt l.content x)).map Source.Line.chars).getD [] := by
      simp [leftLine, strippedLine, hone, hdoc]
    have hfront : l.content.take x.column = front := by simp [hcontent, hx]
    cases hown : (commentAt l.content x).ownLine with
    | true =>
      have hblank : ∀ c ∈ l.content.take x.column, isBlank c := List.all_eq_true.1 hown
      rw [hleft, withoutComment, if_pos hown]
      exact .dropped hc hline hdoc (htext ▸ hcontent) (hfront ▸ hblank)
    | false =>
      have hcolumn : x.column ≤ l.content.length := by simp [hcontent, hx]
      obtain ⟨g, hsplit, hg, hlast⟩ := exists_blanks hcolumn
      have hsome : (l.content.take x.column).all isBlank = false := hown
      obtain ⟨d, hd, hblank⟩ := List.all_eq_false.1 hsome
      have hd : d ∈ l.content.take (gapStart l.content x.column) := by
        rw [hsplit] at hd
        refine (List.mem_append.1 hd).resolve_right fun hdg => hblank ?_
        rcases hg d hdg with rfl | rfl <;> decide
      have hall : l.content = l.content.take (gapStart l.content x.column) ++ g ++
          (commentAt l.content x).text.toList := by
        rw [← hsplit, hfront, htext]
        exact hcontent
      rw [hleft, withoutComment, if_neg (by simp [hown])]
      exact .cut hc hline hdoc hall hg ⟨d, hd, hblank⟩ hlast

end Row

/-! ## All lines -/

/-- The characters that are left of each of some lines. -/
def leftLines : List Source.Line → List (List Lexeme) → List (List Char)
  | l :: ls, row :: rows => leftLine l row :: leftLines ls rows
  | _, _ => []

theorem flatten_leftLines (ls : List Source.Line) (rows : List (List Lexeme)) :
    (leftLines ls rows).flatten = (strippedLines ls rows).flatMap Source.Line.chars := by
  fun_induction leftLines ls rows with
  | case1 l ls row rows ih =>
    rw [List.flatten_cons, ih, strippedLines, List.flatMap_append, leftLine]
    cases strippedLine l row <;> simp
  | case2 ls rows hnil =>
    rw [strippedLines]
    · rfl
    · exact hnil

/-- What is left of lines, where comments are given as those of the lines from a number on. -/
theorem treated_leftLines {n : Nat} {s s' : State} {ls : List Source.Line} {rows : List (List Lexeme)}
    (h : Scanned n s (ls.map (·.content)) rows s') (hn : ∀ l ∈ ls, '\n' ∉ l.content)
    {comments : List Comment}
    (hcomments : ∀ c, c ∈ comments ∧ n ≤ c.line ↔ c ∈ commentsOfRows (ls.map (·.content)) rows) :
    List.Forall₂ (fun numbered left => Treated comments numbered.2 numbered.1 left) (ls.zipIdx n)
      (leftLines ls rows) := by
  induction ls generalizing n s rows with
  | nil =>
    cases h
    exact .nil
  | cons l ls ih =>
    cases h with
    | @cons _ _ s₁ _ _ _ row rows hrow hrows =>
      have hl := hn l List.mem_cons_self
      have hrest : ∀ m ∈ ls, '\n' ∉ m.content := fun m hm => hn m (List.mem_cons_of_mem l hm)
      have hown : ∀ c ∈ commentsOfRow l.content row, c.line = n := fun c hc =>
        line_of_mem_commentsOfRow hrow hl hc
      have hafter : ∀ c ∈ commentsOfRows (ls.map (·.content)) rows, n + 1 ≤ c.line := fun c hc =>
        line_of_mem_commentsOfRows hrows (by simpa using hrest) hc
      have hsplit : ∀ c, c ∈ comments ∧ n ≤ c.line ↔
          c ∈ commentsOfRow l.content row ∨ c ∈ commentsOfRows (ls.map (·.content)) rows := by
        simpa [commentsOfRows] using hcomments
      refine .cons (treated_leftLine hrow hl fun c => ?_) (ih hrows hrest fun c => ?_)
      · constructor
        · rintro ⟨hc, hline⟩
          refine ((hsplit c).1 ⟨hc, hline.ge⟩).resolve_right fun hlater => ?_
          have := hafter c hlater
          omega
        · intro hc
          exact ⟨((hsplit c).2 (.inl hc)).1, hown c hc⟩
      · constructor
        · rintro ⟨hc, hline⟩
          refine ((hsplit c).1 ⟨hc, by omega⟩).resolve_left fun hhere => ?_
          have := hown c hhere
          omega
        · intro hc
          exact ⟨((hsplit c).2 (.inr hc)).1, hafter c hc⟩

/-- A comment of some lines ends one of them, which stays if it is for other programs. -/
theorem exists_line_of_mem_commentsOfRows {n : Nat} {s s' : State} {ls : List Source.Line}
    {rows : List (List Lexeme)} (h : Scanned n s (ls.map (·.content)) rows s')
    (hn : ∀ l ∈ ls, '\n' ∉ l.content) {c : Comment}
    (hc : c ∈ commentsOfRows (ls.map (·.content)) rows) :
    ∃ l, n ≤ c.line ∧ ls[c.line - n]? = some l ∧ EndsLine c l.content ∧
      (Directive c ↔ c.isDocumentation = true) ∧
      (c.isDocumentation = true → (leftLines ls rows)[c.line - n]? = some l.chars) := by
  induction ls generalizing n s rows with
  | nil =>
    cases h
    cases hc
  | cons l ls ih =>
    cases h with
    | cons hrow hrows =>
      have hl := hn l List.mem_cons_self
      have hrest : ∀ m ∈ ls, '\n' ∉ m.content := fun m hm => hn m (List.mem_cons_of_mem l hm)
      rcases List.mem_append.1 hc with hc | hc
      · have hline : c.line = n := line_of_mem_commentsOfRow hrow hl hc
        obtain ⟨hends, hdirective⟩ := endsLine_of_mem_commentsOfRow hrow hl hc
        refine ⟨l, hline.ge, ?_, hends, hdirective, fun hdoc => ?_⟩
        · rw [hline, Nat.sub_self, List.getElem?_cons_zero]
        · rw [hline, Nat.sub_self, leftLines, List.getElem?_cons_zero,
            leftLine_of_documentation hrow hl hc hdoc]
      · obtain ⟨m, hle, hat, hends, hdirective, hkept⟩ := ih hrows hrest hc
        have hnext : c.line - n = c.line - (n + 1) + 1 := by omega
        refine ⟨m, by omega, ?_, hends, hdirective, fun hdoc => ?_⟩
        · rwa [hnext, List.getElem?_cons_succ]
        · rw [hnext, leftLines, List.getElem?_cons_succ]
          exact hkept hdoc

/-! ## The whole text -/

/-- The file of a comment is only a label. -/
theorem findComments_file {source : String} {file : Option Path} {comments : List Comment}
    (h : findComments source file = .ok comments) : ∃ found,
      findComments source none = .ok found ∧ comments = found.map ({ · with file }) := by
  cases hlexemes : lexemes source with
  | error e =>
    simp [findComments, hlexemes, bind, Except.bind] at h
  | ok all =>
    simp only [findComments, hlexemes, bind, Except.bind, pure, Except.pure] at h ⊢
    obtain rfl := Except.ok.inj h
    exact ⟨_, rfl, by rw [List.map_map]; rfl⟩

/-- What a text is without comments does not depend on whether there are any. -/
theorem stripComments_eq {source : String} {comments : List Comment}
    (h : findComments source none = .ok comments) : stripComments source =
      .ok (removeComments source (comments.filter (!·.isDocumentation))) := by
  by_cases hnone : comments.filter (!·.isDocumentation) = []
  · have hdoc : ∀ c ∈ comments, c.isDocumentation = true := by
      simpa using List.filter_eq_nil_iff.1 hnone
    rw [stripComments_of_documented h hdoc, hnone, removeComments_eq]
    exact congrArg _ (Source.applyEdits_nil source).symm
  · exact stripComments_of_some h hnone

/-- What a text is without its comments, as what is left of its lines. -/
structure Strips (source : String) (comments : List Comment) (left : List (List Char)) : Prop where
  stripped : stripComments source = .ok (String.ofList left.flatten)
  treated : List.Forall₂ (fun numbered out => Treated comments numbered.2 numbered.1 out)
    ((Source.lines source).zipIdx 1) left
  /-- Lines with comments for other programs stay. -/
  kept : ∀ c ∈ comments, Directive c → ∃ l, Source.atLine? (Source.lines source) c.line = some l ∧
    Source.atLine? left c.line = some l.chars

/-- The comments of a text are those of its lines. -/
theorem exists_rows {source : String} {comments : List Comment}
    (h : findComments source none = .ok comments) : ∃ rows s,
      Scanned 1 {} (scannedContents source) rows s ∧
      comments = commentsOfRows (scannedContents source) rows := by
  cases hlexemes : lexemes source with
  | error e => simp [findComments, hlexemes, bind, Except.bind] at h
  | ok all =>
    obtain ⟨rows, s, hrows, hdone, -⟩ := lexemes_eq_ok.1 hlexemes
    exact ⟨rows, s, hrows, Except.ok.inj (h.symm.trans (findComments_eq hrows hdone))⟩

/-- A text without lines is scanned as an empty one, which has no comments. -/
theorem exists_rows_lines {source : String} {comments : List Comment}
    (h : findComments source none = .ok comments) : ∃ rows s,
      Scanned 1 {} ((Source.lines source).map (·.content)) rows s ∧
      comments = commentsOfRows ((Source.lines source).map (·.content)) rows := by
  obtain ⟨rows, s, hrows, rfl⟩ := exists_rows h
  cases hlines : Source.lines source with
  | nil =>
    have hnone : commentsOfRows (scannedContents source) rows = [] := by
      by_contra hsome
      have hscanned := scannedContents_of_some hrows hsome
      simp [scannedContents, hlines] at hscanned
    exact ⟨[], {}, .nil, hnone⟩
  | cons l ls =>
    have hscanned : scannedContents source = (l :: ls).map (·.content) := by
      simp [scannedContents, hlines]
    rw [hscanned] at hrows ⊢
    exact ⟨rows, s, hrows, rfl⟩

/-- **Removing comments takes nothing but comments.** Every comment is the rest of its line, and the
stripped text is what is left of the lines, each treated as its comments say. -/
theorem stripComments_treated {source : String} {file : Option Path} {comments : List Comment}
    (h : findComments source file = .ok comments) :
    (∀ c ∈ comments, ∃ l, Source.atLine? (Source.lines source) c.line = some l ∧
      EndsLine c l.content ∧ (Directive c ↔ c.isDocumentation = true)) ∧
    ∃ left, Strips source comments left := by
  obtain ⟨found, hfound, rfl⟩ := findComments_file h
  obtain ⟨rows, s, hrows, hcomments⟩ := exists_rows_lines hfound
  have hlined := Source.lined_lines source
  have hn : ∀ l ∈ Source.lines source, '\n' ∉ l.content := fun l hl => (hlined.unbroken l hl).2
  have hline : ∀ c ∈ found, ∃ l, 1 ≤ c.line ∧ Source.atLine? (Source.lines source) c.line = some l ∧
      EndsLine c l.content ∧ (Directive c ↔ c.isDocumentation = true) ∧
      (c.isDocumentation = true →
        Source.atLine? (leftLines (Source.lines source) rows) c.line = some l.chars) := by
    intro c hc
    obtain ⟨l, hle, hl, hends, hdirective, hkept⟩ :=
      exists_line_of_mem_commentsOfRows hrows hn (hcomments ▸ hc)
    have hpos : ¬ c.line = 0 := by omega
    refine ⟨l, hle, ?_, hends, hdirective, fun hdoc => ?_⟩
    · rw [Source.atLine?, if_neg hpos, hl]
    · rw [Source.atLine?, if_neg hpos, hkept hdoc]
  have htreated : List.Forall₂ (fun numbered left => Treated found numbered.2 numbered.1 left)
      ((Source.lines source).zipIdx 1) (leftLines (Source.lines source) rows) :=
    treated_leftLines hrows hn fun c => by
      rw [← hcomments, and_iff_left_iff_imp]
      exact fun hc => (hline c hc).choose_spec.1
  have hedited := editLines_eq [] hrows hn rfl rfl [] (by simp)
  simp only [List.nil_append, ← hcomments, ← flatten_leftLines] at hedited
  refine ⟨fun c' hc' => ?_, leftLines (Source.lines source) rows, ?_, ?_, fun c' hc' hdirective => ?_⟩
  · obtain ⟨c, hc, rfl⟩ := List.mem_map.1 hc'
    obtain ⟨l, -, hl, hends, hdirective, -⟩ := hline c hc
    exact ⟨l, hl, ⟨hends.mark, hends.text_eq, hends.ownLine_iff⟩, hdirective⟩
  · rw [stripComments_eq hfound, removeComments_eq, Source.applyEdits, hedited]
  · exact htreated.imp fun numbered out h => h.relabel file
  · obtain ⟨c, hc, rfl⟩ := List.mem_map.1 hc'
    obtain ⟨l, -, hl, -, hdoc, hkept⟩ := hline c hc
    exact ⟨l, hl, hkept (hdoc.1 hdirective)⟩

/-- A shebang, a comment alone on its line, one behind a statement, and marks in a string, with line
endings of all three forms. -/
theorem stripComments_treated_mixed :
    let source := "#!/bin/python\r# -*- coding: utf-8\r\n\t # note\nx = '#' \t# counter\ry = 2\n"
    ∃ comments, findComments source none = .ok comments ∧ comments.length = 4 ∧
      (∀ c ∈ comments, ∃ l, Source.atLine? (Source.lines source) c.line = some l ∧
        EndsLine c l.content ∧ (Directive c ↔ c.isDocumentation = true)) ∧
      ∃ left, Strips source comments left := by
  intro source
  have hlength : (findComments source none).toOption.map (·.length) = some 4 := by decide +kernel
  cases h : findComments source none with
  | error e => simp [h, Except.toOption] at hlength
  | ok comments =>
    refine ⟨comments, rfl, ?_, stripComments_treated h⟩
    simpa [h, Except.toOption] using hlength

end Pseudonym.Python
