import Pseudonym.Proofs.Python.Rows
import Pseudonym.Proofs.Source.Line
import Pseudonym.Python.Comment

/-!
# Texts without their comments

Removing comments works line by line: a line is kept, cut behind a place, or deleted with the comment
that stands alone on it. Nothing that a scan says of the program depends on what goes, as long as a
deleted line gives nothing of the program and no cut ends at a backslash (`stripComments_preserves`).
A comment behind a joined line gives the end of a statement, and with it two statements become one
(`not_stripsCleanly_joined`).
-/

namespace Pseudonym.Python

open Files Text Scan

/-! ## Lexemes of the program -/

/-- Whether a lexeme is of the program: it is no comment, and no line break that ends no statement. -/
def Lexeme.isProgram (l : Lexeme) : Bool := l.kind ≠ .comment && l.kind ≠ .break

/-- The program that lexemes say, wherever they stand. -/
def program (ls : List Lexeme) : List (LexemeKind × String) :=
  (ls.filter (·.isProgram)).map fun l => (l.kind, l.text)

@[simp] theorem program_append (ls ls' : List Lexeme) : program (ls ++ ls') = program ls ++ program ls' := by
  simp [program]

@[simp] theorem program_nil : program [] = [] := rfl

theorem program_of_silent {ls : List Lexeme} (h : ∀ l ∈ ls, l.kind = .comment ∨ l.kind = .break) :
    program ls = [] := by
  have hnone : ls.filter (·.isProgram) = [] := by
    rw [List.filter_eq_nil_iff]
    intro l hl
    rcases h l hl with hk | hk <;> simp [Lexeme.isProgram, hk]
  rw [program, hnone, List.map_nil]

theorem program_eq_of_shape {ls ls' : List Lexeme} (h : ls.map shape = ls'.map shape) :
    program ls = program ls' := by
  have hshape (ls : List Lexeme) : program ls = ((ls.map shape).filter fun p =>
      p.1 ≠ .comment && p.1 ≠ .break).map fun p => (p.1, p.2.1) := by
    rw [List.filter_map, List.map_map]
    rfl
  rw [hshape, hshape, h]

/-- Without a comment, and with its last lexeme elsewhere, a line says the same program. -/
theorem program_cut {l : Lexeme} (hl : l.kind = .comment) {ls : List Lexeme} (e : Lexeme)
    (column : Nat) : program (ls ++ [{ e with column }]) = program (ls ++ [l, e]) := by
  rw [program_append, program_append]
  congr 1
  have hl' : l.isProgram = false := by simp [Lexeme.isProgram, hl]
  cases he : e.isProgram with
  | true =>
    have he' : Lexeme.isProgram { e with column } = true := he
    simp [program, he, he', hl']
  | false =>
    have he' : Lexeme.isProgram { e with column } = false := he
    simp [program, he, he', hl']

/-! ## Comments line by line -/

/-- What a comment lexeme says about a comment, given the line that it stands on. -/
def commentAt (content : List Char) (l : Lexeme) : Comment :=
  let ownLine := (content.take l.column).all isBlank
  { file := none, line := l.line, column := l.column, text := l.text
    isDocumentation := isDocumentation l.text l.line ownLine, ownLine }

/-- The comments of a line, given its lexemes. -/
def commentsOfRow (content : List Char) (row : List Lexeme) : List Comment :=
  (row.filter (·.kind = .comment)).map (commentAt content)

/-- The comments of some lines, given the lexemes of each. -/
def commentsOfRows : List (List Char) → List (List Lexeme) → List Comment
  | content :: contents, row :: rows => commentsOfRow content row ++ commentsOfRows contents rows
  | _, _ => []

/-- A comment on a line of a scan, with its place. -/
theorem mem_commentsOfRow {n : Nat} {s s' : State} {content : List Char} {row : List Lexeme}
    (h : scanLine n s (content ++ ['\n']) = .ok (row, s')) (hn : '\n' ∉ content) :
    commentsOfRow content row = [] ∧ (∀ l ∈ row, l.kind ≠ .comment) ∨
      ∃ front z ls₀ e l, content = front ++ '#' :: z ∧
        l = ⟨.comment, String.ofList ('#' :: z), n, front.length⟩ ∧ row = ls₀ ++ [l, e] ∧
        commentsOfRow content row = [commentAt content l] := by
  by_cases hnone : ∀ l ∈ row, l.kind ≠ .comment
  · left
    refine ⟨?_, hnone⟩
    rw [commentsOfRow, List.filter_eq_nil_iff.2 (by simpa using hnone)]
    rfl
  · right
    obtain ⟨l, hl, hk⟩ : ∃ l ∈ row, l.kind = .comment := by simpa using hnone
    obtain ⟨front, z, ls₀, e, hcontent, hlexeme, hrow, he, hls₀⟩ := endsWith_of_scanLine h hn hl hk
    refine ⟨front, z, ls₀, e, l, hcontent, hlexeme, hrow, ?_⟩
    have hnil : ls₀.filter (·.kind = .comment) = [] :=
      List.filter_eq_nil_iff.2 (by simpa using hls₀)
    simp [commentsOfRow, hrow, hnil, hk, he]

theorem line_of_mem_commentsOfRow {n : Nat} {s s' : State} {content : List Char}
    {row : List Lexeme} (h : scanLine n s (content ++ ['\n']) = .ok (row, s')) (hn : '\n' ∉ content)
    {c : Comment} (hc : c ∈ commentsOfRow content row) : c.line = n := by
  rcases mem_commentsOfRow h hn with ⟨hnil, -⟩ | ⟨front, z, ls₀, e, l, -, hl, -, hone⟩
  · rw [hnil] at hc
    cases hc
  · rw [hone] at hc
    obtain rfl := List.mem_singleton.1 hc
    rw [hl]
    rfl

theorem line_of_mem_commentsOfRows {n : Nat} {s s' : State} {contents : List (List Char)}
    {rows : List (List Lexeme)} (h : Scanned n s contents rows s')
    (hn : ∀ content ∈ contents, '\n' ∉ content) {c : Comment}
    (hc : c ∈ commentsOfRows contents rows) : n ≤ c.line := by
  induction h with
  | nil => cases hc
  | cons hrow hrows ih =>
    rcases List.mem_append.1 hc with hc | hc
    · exact (line_of_mem_commentsOfRow hrow (hn _ List.mem_cons_self) hc).ge
    · have := ih (fun content hmem => hn content (List.mem_cons_of_mem _ hmem)) hc
      omega

/-! ## Finding comments -/

/-- The lines that are scanned, without their ends. -/
def scannedContents (source : String) : List (List Char) :=
  match Source.lines source with
  | [] => [[]]
  | ls => ls.map (·.content)

theorem scannedLines_eq (source : String) :
    scannedLines source = (scannedContents source).map (· ++ ['\n']) := by
  unfold scannedLines scannedContents
  cases Source.lines source with
  | nil => rfl
  | cons l ls => simp

/-- The lexemes of a text are those of its lines. -/
theorem lexemes_eq_ok {source : String} {found : List Lexeme} : lexemes source = .ok found ↔
    ∃ rows s, Scanned 1 {} (scannedContents source) rows s ∧ s.Done ∧
      found = rows.flatten ++ ending (1 + (scannedContents source).length) s := by
  rw [lexemes, scannedLines_eq, scanLines_eq_ok]

/-- The comments among lexemes are those of the lines. -/
theorem filter_comments (before : List (List Char)) {all : List (List Char)} {n : Nat}
    {s s' : State} {contents : List (List Char)} {rows : List (List Lexeme)}
    (h : Scanned n s contents rows s') (hn : ∀ content ∈ contents, '\n' ∉ content)
    (hall : all = before ++ contents) (hlen : before.length + 1 = n) :
    (rows.flatten.filter (·.kind = .comment)).map
        (fun l => commentAt ((Source.atLine? all l.line).getD []) l) =
      commentsOfRows contents rows := by
  induction h generalizing before with
  | nil => rfl
  | @cons n s s₁ s₂ content contents row rows hrow hrows ih =>
    rw [List.flatten_cons, List.filter_append, List.map_append, commentsOfRows]
    congr 1
    · refine List.map_congr_left fun l hl => ?_
      obtain ⟨hl, hk⟩ := List.mem_filter.1 hl
      obtain ⟨front, z, ls₀, e, -, hlexeme, -⟩ :=
        endsWith_of_scanLine hrow (hn content List.mem_cons_self) hl (by simpa using hk)
      have hline : l.line = n := by rw [hlexeme]
      have hat : Source.atLine? all l.line = some content := by
        rw [hline, Source.atLine?, if_neg (by omega), hall, ← hlen]
        simp
      rw [hat]
      rfl
    · have hall' : all = (before ++ [content]) ++ contents := by simp [hall]
      exact ih _ (fun c hc => hn c (List.mem_cons_of_mem _ hc)) hall' (by simp [hlen])

theorem not_newline_scannedContents (source : String) :
    ∀ content ∈ scannedContents source, '\n' ∉ content := by
  have hlined := Source.lined_lines source
  unfold scannedContents
  split
  · simp
  · intro content hcontent
    obtain ⟨l, hl, rfl⟩ := List.mem_map.1 hcontent
    exact (hlined.unbroken l hl).2

theorem getD_atLine?_scannedContents (source : String) (n : Nat) :
    (Source.atLine? ((Source.lines source).map (·.content)) n).getD [] =
      (Source.atLine? (scannedContents source) n).getD [] := by
  unfold scannedContents
  cases Source.lines source with
  | nil =>
    unfold Source.atLine?
    split
    · rfl
    · cases n - 1 <;> rfl
  | cons l ls => rfl

/-- The comments of a text are those of its lines. -/
theorem findComments_eq {source : String} {rows : List (List Lexeme)} {s : State}
    (h : Scanned 1 {} (scannedContents source) rows s) (hdone : s.Done) :
    findComments source none = .ok (commentsOfRows (scannedContents source) rows) := by
  have hfound := lexemes_eq_ok.2 ⟨rows, s, h, hdone, rfl⟩
  have hending : (ending (1 + (scannedContents source).length) s).filter (·.kind = .comment) = [] := by
    simp [ending]
  rw [← filter_comments [] h (not_newline_scannedContents source) rfl rfl]
  simp only [findComments, hfound, bind, Except.bind, pure, Except.pure, List.filter_append, hending,
    List.append_nil, getD_atLine?_scannedContents]
  rfl

/-! ## Removing comments -/

/-- What is left of a line when a comment on it goes. -/
def withoutComment (l : Source.Line) (c : Comment) : Option Source.Line :=
  if c.ownLine then none else some { l with content := l.content.take (gapStart l.content c.column) }

/-- What is left of a line: all of it, unless it has a comment that goes. -/
def strippedLine (l : Source.Line) (row : List Lexeme) : Option Source.Line :=
  match (commentsOfRow l.content row).filter (!·.isDocumentation) with
  | [] => some l
  | c :: _ => withoutComment l c

/-- What is left of some lines. -/
def strippedLines : List Source.Line → List (List Lexeme) → List Source.Line
  | l :: ls, row :: rows => (strippedLine l row).toList ++ strippedLines ls rows
  | _, _ => []

/-- The edits for some comments, given all lines. -/
def editsOf (all : List (List Char)) (comments : List Comment) : List Source.Edit :=
  (comments.filter (!·.ownLine)).map fun c =>
    ⟨c.line, gapStart ((Source.atLine? all c.line).getD []) c.column, none, ""⟩

/-- The lines that go with some comments. -/
def deletedBy (comments : List Comment) : List Int :=
  (comments.filter (·.ownLine)).map fun c => (c.line : Int)

theorem removeComments_eq (source : String) (comments : List Comment) :
    removeComments source comments = Source.applyEdits source
      (editsOf ((Source.lines source).map (·.content)) comments) (deletedBy comments) := rfl

section Own

variable {all : List (List Char)} {n : Nat} {before own after : List Comment}

/-- The edits of a line are those for its own comments. -/
theorem filter_editsOf (hbefore : ∀ c ∈ before, c.line < n) (hown : ∀ c ∈ own, c.line = n)
    (hafter : ∀ c ∈ after, n < c.line) :
    (editsOf all (before ++ own ++ after)).filter (·.line = (n : Int)) = editsOf all own := by
  have hnone : ∀ cs : List Comment, (∀ c ∈ cs, c.line ≠ n) →
      (editsOf all cs).filter (·.line = (n : Int)) = [] := by
    intro cs hcs
    rw [List.filter_eq_nil_iff]
    intro e he
    obtain ⟨c, hc, rfl⟩ := List.mem_map.1 he
    have := hcs c (List.mem_filter.1 hc).1
    simp only [decide_eq_true_eq]
    omega
  have hall : (editsOf all own).filter (·.line = (n : Int)) = editsOf all own := by
    rw [List.filter_eq_self]
    intro e he
    obtain ⟨c, hc, rfl⟩ := List.mem_map.1 he
    have := hown c (List.mem_filter.1 hc).1
    simp only [decide_eq_true_eq]
    omega
  have hb := hnone before fun c hc => (hbefore c hc).ne
  have ha := hnone after fun c hc => (hafter c hc).ne'
  simp only [editsOf, List.filter_append, List.map_append] at hb ha hall ⊢
  rw [hb, ha, hall, List.nil_append, List.append_nil]

/-- A line goes with its own comments. -/
theorem contains_deletedBy (hbefore : ∀ c ∈ before, c.line < n) (hown : ∀ c ∈ own, c.line = n)
    (hafter : ∀ c ∈ after, n < c.line) :
    (deletedBy (before ++ own ++ after)).contains (n : Int) = own.any (·.ownLine) := by
  rw [Bool.eq_iff_iff, List.contains_iff_mem, List.any_eq_true]
  simp only [deletedBy, List.mem_map, List.mem_filter, List.mem_append]
  constructor
  · rintro ⟨c, ⟨(hc | hc) | hc, hc'⟩, hline⟩
    · have := hbefore c hc
      omega
    · exact ⟨c, hc, hc'⟩
    · have := hafter c hc
      omega
  · rintro ⟨c, hc, hc'⟩
    exact ⟨c, ⟨.inl (.inr hc), hc'⟩, by rw [hown c hc]⟩

end Own

theorem le_gapStart (content : List Char) (column : Nat) : gapStart content column ≤ column :=
  Nat.sub_le ..

/-- What is left of the lines is the text without its comments. -/
theorem editLines_eq {all : List (List Char)} (start : List (List Char)) {n : Nat} {s s' : State}
    {ls : List Source.Line} {rows : List (List Lexeme)}
    (h : Scanned n s (ls.map (·.content)) rows s') (hn : ∀ l ∈ ls, '\n' ∉ l.content)
    (hall : all = start ++ ls.map (·.content)) (hlen : start.length + 1 = n) (before : List Comment)
    (hbefore : ∀ c ∈ before, c.line < n) :
    let comments := before ++
      (commentsOfRows (ls.map (·.content)) rows).filter (!·.isDocumentation)
    Source.editLines (editsOf all comments) (deletedBy comments) n ls =
      (strippedLines ls rows).flatMap Source.Line.chars := by
  induction ls generalizing start n s rows before with
  | nil => simp [Source.editLines, strippedLines]
  | cons l ls ih =>
    cases h with
    | @cons _ _ s₁ _ _ _ row rows hrow hrows =>
      have hl := hn l List.mem_cons_self
      have hrest : ∀ m ∈ ls, '\n' ∉ m.content := fun m hm => hn m (List.mem_cons_of_mem l hm)
      have hat : Source.atLine? all n = some l.content := by
        rw [Source.atLine?, if_neg (by omega), hall, ← hlen]
        simp
      set own := (commentsOfRow l.content row).filter (!·.isDocumentation) with hown
      set after := (commentsOfRows (ls.map (·.content)) rows).filter (!·.isDocumentation) with hafter
      have hownLine : ∀ c ∈ own, c.line = n := fun c hc =>
        line_of_mem_commentsOfRow hrow hl (List.mem_filter.1 hc).1
      have hafterLine : ∀ c ∈ after, n < c.line := fun c hc =>
        line_of_mem_commentsOfRows hrows (by simpa using hrest) (List.mem_filter.1 hc).1
      have hcomments : before ++ (commentsOfRows ((l :: ls).map (·.content)) (row :: rows)).filter
          (!·.isDocumentation) = before ++ own ++ after := by
        simp [commentsOfRows, hown, hafter]
      simp only [hcomments]
      have hall' : all = (start ++ [l.content]) ++ ls.map (·.content) := by simp [hall]
      have hnext := ih _ hrows hrest hall' (by simp [hlen]) (before ++ own) fun c hc =>
        (List.mem_append.1 hc).elim (fun hb => (hbefore c hb).trans (Nat.lt_succ_self n))
          fun ho => (hownLine c ho).trans_lt (Nat.lt_succ_self n)
      rw [Source.editLines_cons, hnext, filter_editsOf hbefore hownLine hafterLine,
        contains_deletedBy hbefore hownLine hafterLine, strippedLines, List.flatMap_append]
      congr 1
      have hstripped : strippedLine l row = match own with
          | [] => some l
          | c :: _ => withoutComment l c := rfl
      rw [hstripped]
      rcases mem_commentsOfRow hrow hl with
        ⟨hnil, -⟩ | ⟨front, z, ls₀, e, x, hcontent, hx, -, hone⟩
      · rw [hnil] at hown
        simp [hown, editsOf, Source.Line.chars]
      · rw [hone] at hown
        cases hdoc : (commentAt l.content x).isDocumentation with
        | true => simp [hown, hdoc, editsOf, Source.Line.chars]
        | false =>
          have hsingle : own = [commentAt l.content x] := by simp [hown, hdoc]
          have hline : (commentAt l.content x).line = n := by rw [commentAt, hx]
          have hcolumn : (commentAt l.content x).column ≤ l.content.length := by
            have hcontent : l.content = front ++ '#' :: z := hcontent
            simp [hcontent, commentAt, hx]
          have hcut := Source.Edit.applyAll_cut (n : Int)
            ((le_gapStart l.content (commentAt l.content x).column).trans hcolumn)
          rw [hsingle]
          cases hown' : (commentAt l.content x).ownLine with
          | true => simp [withoutComment, hown']
          | false => simp [withoutComment, hown', editsOf, hline, hat, hcut, Source.Line.chars]

/-! ## Lines that are left -/

/-- Blanks between lexemes are blanks. -/
theorem isBlank_of_isGap {c : Char} (h : isGap c) : isBlank c := by
  simp only [isGap, Bool.or_eq_true, decide_eq_true_eq] at h
  obtain (rfl | rfl) | rfl := h <;> decide

/-- Before a comment stand what is left of the line and the blanks behind it: spaces and tabs, and all
of them. -/
theorem exists_blanks {content : List Char} {column : Nat} (hcolumn : column ≤ content.length) :
    ∃ g, content.take column = content.take (gapStart content column) ++ g ∧
      (∀ c ∈ g, c = ' ' ∨ c = '\t') ∧
      ∀ c ∈ (content.take (gapStart content column)).getLast?, ¬ (c = ' ' ∨ c = '\t') := by
  unfold gapStart
  have hsplit := List.takeWhile_append_dropWhile (p := fun c => c = ' ' || c = '\t')
    (l := (content.take column).reverse)
  have hblank : ∀ c ∈ (content.take column).reverse.takeWhile (fun c => c = ' ' || c = '\t'),
      c = ' ' ∨ c = '\t' := by
    intro c hc
    simpa using List.mem_takeWhile_imp hc
  have hlast : ∀ c ∈ ((content.take column).reverse.dropWhile (fun c => c = ' ' || c = '\t')).head?,
      ¬ (c = ' ' ∨ c = '\t') := by
    intro c hc
    have hnot := List.head?_dropWhile_not (fun c => c = ' ' || c = '\t') (content.take column).reverse
    simp_all
  generalize (content.take column).reverse.takeWhile (fun c => c = ' ' || c = '\t') = g at hsplit hblank
  generalize (content.take column).reverse.dropWhile (fun c => c = ' ' || c = '\t') = u at hsplit hlast
  have hboth : content.take column = u.reverse ++ g.reverse := by
    rw [← List.reverse_append, hsplit, List.reverse_reverse]
  have htake : content.take (column - g.length) = u.reverse := by
    have hlen := congrArg List.length hboth
    rw [List.length_take_of_le hcolumn, List.length_append, List.length_reverse,
      List.length_reverse] at hlen
    have hle : column - g.length ≤ column := Nat.sub_le ..
    rw [← Nat.min_eq_left hle, ← List.take_take, hboth, List.take_left']
    rw [List.length_reverse]
    omega
  refine ⟨g.reverse, by rw [htake, hboth], fun c hc => hblank c (List.mem_reverse.1 hc), ?_⟩
  rwa [htake, List.getLast?_reverse]

/-- What stands before a comment is what is left of the line and some blanks. -/
theorem exists_gap {content : List Char} {column : Nat} (hcolumn : column ≤ content.length) :
    ∃ g, content.take column = content.take (gapStart content column) ++ g ∧ ∀ c ∈ g, isGap c := by
  obtain ⟨g, hsplit, hblank, -⟩ := exists_blanks hcolumn
  exact ⟨g, hsplit, fun c hc => by rcases hblank c hc with rfl | rfl <;> decide⟩

/-- A line that is cut says something. -/
theorem exists_not_gap {content : List Char} {column : Nat} (hcolumn : column ≤ content.length)
    (h : (content.take column).all isBlank = false) :
    ∃ c ∈ content.take (gapStart content column), ¬ isGap c := by
  obtain ⟨g, hsplit, hg⟩ := exists_gap hcolumn
  obtain ⟨c, hc, hblank⟩ := List.all_eq_false.1 h
  rw [hsplit] at hc
  refine ⟨c, (List.mem_append.1 hc).resolve_right fun hcg => ?_, fun hgap => ?_⟩
  · exact hblank (isBlank_of_isGap (hg c hcg))
  · exact hblank (isBlank_of_isGap hgap)

/-- What is left of a line has no breaks, its ending, and some characters if it had some. -/
theorem strippedLine_spec {n : Nat} {s s' : State} {l l' : Source.Line} {row : List Lexeme}
    (hrow : scanLine n s (l.content ++ ['\n']) = .ok (row, s')) (hu : Source.Unbroken l.content)
    (h : strippedLine l row = some l') :
    Source.Unbroken l'.content ∧ l'.ending = l.ending ∧ (l.content ≠ [] → l'.content ≠ []) := by
  unfold strippedLine at h
  rcases mem_commentsOfRow hrow hu.2 with ⟨hnil, -⟩ | ⟨front, z, ls₀, e, x, hcontent, hx, -, hone⟩
  · rw [hnil] at h
    cases h
    exact ⟨hu, rfl, id⟩
  · rw [hone] at h
    have hcolumn : x.column ≤ l.content.length := by simp [hcontent, hx]
    split at h
    · cases h
      exact ⟨hu, rfl, id⟩
    · next c cs heq =>
      obtain rfl : c = commentAt l.content x := by
        have hc : c ∈ [commentAt l.content x].filter (!·.isDocumentation) := by simp [heq]
        exact List.mem_singleton.1 (List.mem_filter.1 hc).1
      unfold withoutComment at h
      split at h
      · cases h
      · next hown =>
        cases h
        refine ⟨hu.take _, rfl, fun _ hnil => ?_⟩
        obtain ⟨d, hd, -⟩ := exists_not_gap hcolumn (Bool.eq_false_iff.2 hown)
        rw [show l.content.take (gapStart l.content x.column) = [] from hnil] at hd
        cases hd

theorem ended_strippedLines_cons {n : Nat} {s s' : State} {l : Source.Line}
    {ls : List Source.Line} {row : List Lexeme} {rows : List (List Lexeme)}
    (hrow : scanLine n s (l.content ++ ['\n']) = .ok (row, s')) (hu : Source.Unbroken l.content)
    (hending : l.ending = ['\n'] ∨ l.ending = ['\r', '\n'] ∨ l.ending = ['\r'])
    (hrest : Source.Ended (strippedLines ls rows)) :
    Source.Ended (strippedLines (l :: ls) (row :: rows)) := by
  rw [strippedLines]
  cases hleft : strippedLine l row with
  | none => exact hrest
  | some l' =>
    obtain ⟨hu', hending', -⟩ := strippedLine_spec hrow hu hleft
    obtain ⟨content', ending'⟩ := l'
    obtain rfl : ending' = l.ending := hending'
    exact .cons hu' hending hrest

/-- What is left of lines can stand behind each other. -/
theorem ended_strippedLines {ls : List Source.Line} (h : Source.Lined ls) {n : Nat} {s s' : State}
    {rows : List (List Lexeme)} (hrows : Scanned n s (ls.map (·.content)) rows s') :
    Source.Ended (strippedLines ls rows) := by
  induction h generalizing n s rows with
  | nil => cases hrows; exact .nil
  | @last content hu hne =>
    cases hrows with
    | @cons _ _ _ _ _ _ row rows hrow hrows =>
      cases hrows
      have hone : strippedLines [⟨content, []⟩] [row] = (strippedLine ⟨content, []⟩ row).toList :=
        List.append_nil _
      rw [hone]
      cases hleft : strippedLine ⟨content, []⟩ row with
      | none => exact .nil
      | some l' =>
        obtain ⟨hu', hending, hne'⟩ := strippedLine_spec hrow hu hleft
        obtain ⟨content', ending'⟩ := l'
        obtain rfl : ending' = [] := hending
        exact .last hu' (hne' hne)
  | feed hu hrest ih =>
    cases hrows with
    | cons hrow hrows => exact ended_strippedLines_cons hrow hu (.inl rfl) (ih hrows)
  | both hu hrest ih =>
    cases hrows with
    | cons hrow hrows => exact ended_strippedLines_cons hrow hu (.inr (.inl rfl)) (ih hrows)
  | «return» hu hrest hbare ih =>
    cases hrows with
    | cons hrow hrows => exact ended_strippedLines_cons hrow hu (.inr (.inr rfl)) (ih hrows)

/-- The contents of the lines of a text without some comments. -/
theorem contents_removeComments {source : String} {rows : List (List Lexeme)} {s : State}
    (h : Scanned 1 {} ((Source.lines source).map (·.content)) rows s) :
    (Source.lines (removeComments source
        ((commentsOfRows ((Source.lines source).map (·.content)) rows).filter
          (!·.isDocumentation)))).map (·.content) =
      Source.contentsBehind false (strippedLines (Source.lines source) rows) := by
  have hlined := Source.lined_lines source
  have hleft := editLines_eq [] h (fun l hl => (hlined.unbroken l hl).2) rfl rfl [] (by simp)
  simp only [List.nil_append] at hleft
  rw [removeComments_eq, Source.applyEdits, hleft, Source.lines, String.toList_ofList,
    Source.contents_linesFrom (ended_strippedLines hlined h)]

/-! ## The scan of what is left -/

/-- Comments of a line may go: a line that goes says nothing of the program, and a line that is cut
does not end at a backslash. -/
def Removable (n : Nat) (content : List Char) (row : List Lexeme) : Prop :=
  ∀ c ∈ commentsOfRow content row, c.isDocumentation = false →
    (c.ownLine = true → ∀ l ∈ row, l.line = n → l.isProgram = false) ∧
    (c.ownLine = false → (content.take (gapStart content c.column)).getLast? ≠ some '\\')

/-- Comments of some lines may go. -/
def RemovableRows : Nat → List (List Char) → List (List Lexeme) → Prop
  | n, content :: contents, row :: rows =>
    Removable n content row ∧ RemovableRows (n + 1) contents rows
  | _, _, _ => True

/-- A scan that says the same program, in which all comments are for other programs. -/
def Mirrors (k : Nat) (t s' : State) (rows : List (List Lexeme)) (contents : List (List Char)) :
    Prop :=
  ∃ rows' t', Scanned k t contents rows' t' ∧ t'.Like s' ∧
    program rows'.flatten = program rows.flatten ∧
    ∀ c ∈ commentsOfRows contents rows', c.isDocumentation = true

theorem Mirrors.cons {k : Nat} {t t₁ s' : State} {content : List Char} {contents : List (List Char)}
    {row row' : List Lexeme} {rows : List (List Lexeme)}
    (hrow : scanLine k t (content ++ ['\n']) = .ok (row', t₁)) (hprogram : program row' = program row)
    (hcomments : ∀ c ∈ commentsOfRow content row', c.isDocumentation = true)
    (h : Mirrors (k + 1) t₁ s' rows contents) :
    Mirrors k t s' (row :: rows) (content :: contents) := by
  obtain ⟨rows', t', hscanned, hlike, hsame, hdoc⟩ := h
  refine ⟨row' :: rows', t', .cons hrow hscanned, hlike, by simp [hprogram, hsame], fun c hc => ?_⟩
  exact (List.mem_append.1 hc).elim (hcomments c) (hdoc c)

/-- Lines without program are left out. -/
theorem Mirrors.skip {k : Nat} {t s' : State} {contents : List (List Char)} {row : List Lexeme}
    {rows : List (List Lexeme)} (hrow : program row = []) (h : Mirrors k t s' rows contents) :
    Mirrors k t s' (row :: rows) contents := by
  obtain ⟨rows', t', hscanned, hlike, hsame, hdoc⟩ := h
  exact ⟨rows', t', hscanned, hlike, by simp [hrow, hsame], hdoc⟩

/-- What is a comment for other programs stays one when lines before it go. -/
theorem isDocumentation_of_le {text : String} {n k : Nat} {ownLine : Bool}
    (h : isDocumentation text n ownLine = true) (hk : 1 ≤ k) (hle : k ≤ n) :
    isDocumentation text k ownLine = true := by
  simp only [isDocumentation, Bool.or_eq_true, Bool.and_eq_true, decide_eq_true_eq] at h ⊢
  rcases h with ⟨hn, htext⟩ | ⟨⟨hown, hn⟩, htext⟩
  · exact .inl ⟨by omega, htext⟩
  · exact .inr ⟨⟨hown, by omega⟩, htext⟩

/-- A line that stays keeps its comment. -/
theorem documented_of_shape {n k : Nat} {s s' t t' : State} {content : List Char}
    {row row' : List Lexeme} (h : scanLine n s (content ++ ['\n']) = .ok (row, s'))
    (h' : scanLine k t (content ++ ['\n']) = .ok (row', t')) (hn : '\n' ∉ content)
    (hshape : row'.map shape = row.map shape) (hk : 1 ≤ k) (hle : k ≤ n)
    (hdoc : ∀ c ∈ commentsOfRow content row, c.isDocumentation = true) :
    ∀ c ∈ commentsOfRow content row', c.isDocumentation = true := by
  intro c hc
  obtain ⟨x', hx', rfl⟩ := List.mem_map.1 hc
  obtain ⟨hx', hkind⟩ := List.mem_filter.1 hx'
  have hkind : x'.kind = .comment := by simpa using hkind
  obtain ⟨x, hx, hsame⟩ := List.mem_map.1 (hshape ▸ List.mem_map_of_mem hx')
  obtain ⟨hkind', htext, hcolumn⟩ : x.kind = x'.kind ∧ x.text = x'.text ∧ x.column = x'.column := by
    simpa [shape] using hsame
  have hdocx := hdoc (commentAt content x) (List.mem_map_of_mem
    (List.mem_filter.2 ⟨hx, by simp [hkind', hkind]⟩))
  obtain ⟨_, _, _, _, -, hxn, -⟩ := endsWith_of_scanLine h hn hx (hkind'.trans hkind)
  obtain ⟨_, _, _, _, -, hxk, -⟩ := endsWith_of_scanLine h' hn hx' hkind
  have hline : x.line = n := by rw [hxn]
  have hline' : x'.line = k := by rw [hxk]
  simp only [commentAt, hline, hline', htext, hcolumn] at hdocx ⊢
  exact isDocumentation_of_le hdocx hk hle

/-- The scan of what is left of some lines goes along with the scan of all of them. `returned` tells
whether a carriage return stands before what is left. -/
def Follows (s' : State) (ls : List Source.Line) : Prop :=
  ∀ {n k : Nat} {s t : State} {rows : List (List Lexeme)} (returned : Bool), Source.Lined ls →
    Scanned n s (ls.map (·.content)) rows s' → s.Quoted →
    RemovableRows n (ls.map (·.content)) rows → t.Like s →
    (returned = true → ls.head? ≠ some ⟨[], ['\n']⟩ ∨ s.Clear) → 1 ≤ k → k ≤ n →
    Mirrors k t s' rows (Source.contentsBehind returned (strippedLines ls rows))

/-- Both scans stand before a line, and they go along with each other behind it. -/
structure Before (n k : Nat) (s s₁ s' t : State) (l : Source.Line) (ls : List Source.Line)
    (row : List Lexeme) (rows : List (List Lexeme)) (returned : Bool) : Prop where
  follows : Follows s' ls
  lined : Source.Lined (l :: ls)
  scan : scanLine n s (l.content ++ ['\n']) = .ok (row, s₁)
  scans : Scanned (n + 1) s₁ (ls.map (·.content)) rows s'
  quoted : s.Quoted
  removable : RemovableRows (n + 1) (ls.map (·.content)) rows
  like : t.Like s
  bare : returned = true → (l :: ls).head? ≠ some ⟨[], ['\n']⟩ ∨ s.Clear
  pos : 1 ≤ k
  le : k ≤ n

namespace Before

variable {n k : Nat} {s s₁ s' t : State} {l : Source.Line} {ls : List Source.Line}
  {row : List Lexeme} {rows : List (List Lexeme)} {returned : Bool} {x : Lexeme}

/-- What is kept of the line is scanned, and the rest follows. -/
theorem keep (h : Before n k s s₁ s' t l ls row rows returned) (l' : Source.Line)
    {row' : List Lexeme} {t₁ : State} (hending : l'.ending = l.ending)
    (hbare : returned = true → l' ≠ ⟨[], ['\n']⟩)
    (hrow' : scanLine k t (l'.content ++ ['\n']) = .ok (row', t₁))
    (hprogram : program row' = program row)
    (hdoc : ∀ c ∈ commentsOfRow l'.content row', c.isDocumentation = true) (ht₁ : t₁.Like s₁) :
    Mirrors k t s' (row :: rows) (Source.contentsBehind returned (l' :: strippedLines ls rows)) := by
  obtain ⟨-, hrest, hnext⟩ := h.lined.uncons
  rw [Source.contentsBehind_of_ne hbare, hending]
  refine .cons hrow' hprogram hdoc (h.follows _ hrest h.scans (scanLine_quoted h.scan h.quoted)
    h.removable ht₁ (fun hreturn => ?_) (Nat.le_add_left 1 k) (Nat.succ_le_succ h.le))
  exact .inl (hnext (by simpa using hreturn))

/-- The line goes. -/
theorem skip (h : Before n k s s₁ s' t l ls row rows returned) (hrow : program row = [])
    (returned' : Bool) (ht : t.Like s₁)
    (hbare : returned' = true → ls.head? ≠ some ⟨[], ['\n']⟩ ∨ s₁.Clear) :
    Mirrors k t s' (row :: rows) (Source.contentsBehind returned' (strippedLines ls rows)) :=
  .skip hrow (h.follows returned' h.lined.uncons.2.1 h.scans (scanLine_quoted h.scan h.quoted)
    h.removable ht hbare h.pos (Nat.le_succ_of_le h.le))

/-- The whole line is kept. A bare line feed behind a carriage return is part of the line ending then,
and nothing of the program stands there. -/
theorem stay (h : Before n k s s₁ s' t l ls row rows returned)
    (hdoc : ∀ c ∈ commentsOfRow l.content row, c.isDocumentation = true) :
    Mirrors k t s' (row :: rows) (Source.contentsBehind returned (l :: strippedLines ls rows)) := by
  obtain ⟨hu, -, -⟩ := h.lined.uncons
  by_cases hbare : returned = true ∧ l = ⟨[], ['\n']⟩
  · obtain ⟨rfl, rfl⟩ := hbare
    have hclear : s.Clear := (h.bare rfl).resolve_left (by simp)
    have hempty : scanLine n s ['\n'] = .ok (row, s₁) := h.scan
    rw [scanLine_empty hclear] at hempty
    obtain ⟨rfl, rfl⟩ := Prod.mk.inj (Except.ok.inj hempty)
    rw [Source.contentsBehind_bare]
    exact h.skip (program_of_silent (by simp)) false (h.like.forget hclear) (by simp)
  · obtain ⟨row', t₁, hrow', hshape, ht₁⟩ := scanLine_like h.scan h.like k
    exact h.keep l rfl (fun hr hl => hbare ⟨hr, hl⟩) hrow' (program_eq_of_shape hshape)
      (documented_of_shape h.scan hrow' hu.2 hshape h.pos h.le hdoc) ht₁

/-- A line that holds a comment and nothing of the program goes. -/
theorem gone (h : Before n k s s₁ s' t l ls row rows returned) (hx : x ∈ row)
    (hkind : x.kind = .comment) (hown : (commentAt l.content x).ownLine = true)
    (halone : ∀ y ∈ row, y.line = n → y.isProgram = false) :
    Mirrors k t s' (row :: rows) (Source.contentsBehind returned (strippedLines ls rows)) := by
  obtain ⟨hu, -, -⟩ := h.lined.uncons
  have hblank : ∀ c ∈ l.content.take x.column, isBlank c := List.all_eq_true.1 hown
  have hsilent : ∀ y ∈ row, y.line = n → y.kind = .comment ∨ y.kind = .break := by
    intro y hy hline
    have hnot := halone y hy hline
    rw [Lexeme.isProgram, Bool.and_eq_false_iff] at hnot
    simpa using hnot
  obtain ⟨hclear, rfl, hall⟩ := scanLine_silent h.scan h.quoted hu.2 hx hkind hblank hsilent
  exact h.skip (program_of_silent hall) returned (h.like.forget hclear) fun _ => .inr hclear.forget

/-- A line that is cut behind the last character before its comment loses the comment. -/
theorem cut (h : Before n k s s₁ s' t l ls row rows returned) (hx : x ∈ row)
    (hkind : x.kind = .comment) (hcolumn : x.column ≤ l.content.length)
    (hown : (commentAt l.content x).ownLine = false)
    (hbehind : (l.content.take (gapStart l.content x.column)).getLast? ≠ some '\\') :
    Mirrors k t s' (row :: rows) (Source.contentsBehind returned
      ({ l with content := l.content.take (gapStart l.content x.column) } ::
        strippedLines ls rows)) := by
  obtain ⟨hu, -, -⟩ := h.lined.uncons
  obtain ⟨g, hcut, hg⟩ := exists_gap hcolumn
  obtain ⟨d, hd, hdgap⟩ := exists_not_gap hcolumn hown
  obtain ⟨ls₁, e₁, hrow₁, hls₁, he₁, hshort⟩ :=
    scanLine_cut h.scan h.quoted hu.2 hx hkind hcut hg ⟨d, hd, hdgap⟩ hbehind
  obtain ⟨row', t₁, hrow', hshape, ht₁⟩ := scanLine_like hshort h.like k
  refine h.keep { l with content := l.content.take (gapStart l.content x.column) } rfl
    (fun _ hbare => ?_) hrow' ?_ ?_ ht₁
  · have hnil : l.content.take (gapStart l.content x.column) = [] :=
      congrArg Source.Line.content hbare
    rw [hnil] at hd
    cases hd
  · rw [program_eq_of_shape hshape, hrow₁]
    exact program_cut hkind e₁ _
  · intro c hc
    obtain ⟨y', hy', -⟩ := List.mem_map.1 hc
    obtain ⟨hy', hk'⟩ := List.mem_filter.1 hy'
    obtain ⟨y, hy, hsame⟩ := List.mem_map.1 (hshape ▸ List.mem_map_of_mem hy')
    have hsame : y.kind = y'.kind := congrArg Prod.fst hsame
    have hky : y.kind = .comment := hsame.trans (by simpa using hk')
    rcases List.mem_append.1 hy with hy | hy
    · exact absurd hky (hls₁ y hy)
    · obtain rfl := List.mem_singleton.1 hy
      exact absurd hky he₁

end Before

/-- **The scan of what is left.** It goes along with the scan of all lines: a line that stays gives the
same lexemes, a line that is cut loses its comment, and a line that goes is passed over. A bare line
feed that becomes part of a line ending stood behind a line that goes. -/
theorem follows_strippedLines {s' : State} (ls : List Source.Line) : Follows s' ls := by
  induction ls with
  | nil =>
    intro n k s t rows returned _ hrows _ _ ht _ _ _
    cases hrows
    exact ⟨[], t, .nil, ht, rfl, by simp [commentsOfRows, strippedLines, Source.contentsBehind]⟩
  | cons l ls ih =>
    intro n k s t rows returned hlined hrows hs hremovable ht hreturned hk hle
    cases hrows with
    | @cons _ _ s₁ _ _ _ row rows hrow hrows =>
      obtain ⟨hhere, hthere⟩ := hremovable
      have hbefore : Before n k s s₁ s' t l ls row rows returned :=
        ⟨ih, hlined, hrow, hrows, hs, hthere, ht, hreturned, hk, hle⟩
      rw [strippedLines]
      rcases mem_commentsOfRow hrow hlined.uncons.1.2 with
        ⟨hnil, -⟩ | ⟨front, z, ls₀, e, x, hcontent, hx, hrowx, hone⟩
      · have hnil : commentsOfRow l.content row = [] := hnil
        have hleft : strippedLine l row = some l := by simp [strippedLine, hnil]
        rw [hleft]
        exact hbefore.stay (by simp [hnil])
      have hone : commentsOfRow l.content row = [commentAt l.content x] := hone
      have hxrow : x ∈ row := by simp [hrowx]
      have hkind : x.kind = .comment := by rw [hx]
      cases hdoc : (commentAt l.content x).isDocumentation with
      | true =>
        have hleft : strippedLine l row = some l := by simp [strippedLine, hone, hdoc]
        rw [hleft]
        exact hbefore.stay (by simp [hone, hdoc])
      | false =>
        have hleft : strippedLine l row = withoutComment l (commentAt l.content x) := by
          simp [strippedLine, hone, hdoc]
        obtain ⟨halone, hbehind⟩ := hhere (commentAt l.content x) (by rw [hone]; simp) hdoc
        rw [hleft]
        cases hown : (commentAt l.content x).ownLine with
        | true =>
          rw [withoutComment, if_pos hown]
          exact hbefore.gone hxrow hkind hown (halone hown)
        | false =>
          have hcolumn : x.column ≤ l.content.length := by
            have hcontent : l.content = front ++ '#' :: z := hcontent
            simp [hcontent, hx]
          rw [withoutComment, if_neg (by simp [hown])]
          exact hbefore.cut hxrow hkind hcolumn hown (hbehind hown)

/-! ## The whole text -/

/-- **A text is stripped cleanly**: without its comments it can be scanned again, says the same program,
and has no comments that would go. -/
def StripsCleanly (source : String) : Prop :=
  ∀ found, lexemes source = .ok found → ∃ stripped found', stripComments source = .ok stripped ∧
    lexemes stripped = .ok found' ∧ program found' = program found ∧
    stripComments stripped = .ok stripped

/-- A comment that says nothing to other programs may go: alone on its line, if nothing of the program
stands on the line, not even the end of a statement, and otherwise if no backslash stands before it. -/
structure MayGo (source : String) (found : List Lexeme) (c : Comment) : Prop where
  alone : c.ownLine = true → ∀ l ∈ found, l.line = c.line → l.isProgram = false
  behind : c.ownLine = false →
    ∀ content ∈ Source.atLine? ((Source.lines source).map (·.content)) c.line,
      (content.take (gapStart content c.column)).getLast? ≠ some '\\'

instance (source : String) (found : List Lexeme) (c : Comment) : Decidable (MayGo source found c) :=
  decidable_of_iff _ ⟨fun h => MayGo.mk h.1 h.2, fun h => And.intro h.alone h.behind⟩

/-- All comments of a text that say nothing to other programs may go. -/
def CommentsMayGo (source : String) : Prop :=
  ∀ found comments, lexemes source = .ok found → findComments source none = .ok comments →
    ∀ c ∈ comments, c.isDocumentation = false → MayGo source found c

/-- Without comments that would go, a text stays. -/
theorem stripComments_of_documented {source : String} {comments : List Comment}
    (h : findComments source none = .ok comments) (hdoc : ∀ c ∈ comments, c.isDocumentation = true) :
    stripComments source = .ok source := by
  have hnone : comments.filter (!·.isDocumentation) = [] :=
    List.filter_eq_nil_iff.2 fun c hc => by simp [hdoc c hc]
  simp [stripComments, h, bind, Except.bind, pure, Except.pure, hnone]

theorem stripComments_of_some {source : String} {comments : List Comment}
    (h : findComments source none = .ok comments) (hsome : comments.filter (!·.isDocumentation) ≠ []) :
    stripComments source = .ok (removeComments source (comments.filter (!·.isDocumentation))) := by
  simp only [stripComments, h, bind, Except.bind, pure, Except.pure, List.isEmpty_iff, if_neg hsome]

/-- A text with a comment has lines. -/
theorem scannedContents_of_some {source : String} {rows : List (List Lexeme)} {s : State}
    (h : Scanned 1 {} (scannedContents source) rows s)
    (hsome : commentsOfRows (scannedContents source) rows ≠ []) :
    scannedContents source = (Source.lines source).map (·.content) := by
  unfold scannedContents at *
  cases hlines : Source.lines source with
  | cons l ls => rfl
  | nil =>
    rw [hlines] at h hsome
    cases h with
    | cons hrow hrows =>
      cases hrows
      rcases mem_commentsOfRow hrow (by simp) with ⟨hnil, -⟩ | ⟨front, z, _, _, _, hcontent, -⟩
      · exact absurd hnil (by simpa [commentsOfRows] using hsome)
      · simp at hcontent

/-- Comments of lines may go if they may go by themselves. -/
theorem removableRows_of_mayGo {source : String} {found : List Lexeme} (start : List (List Char))
    {n : Nat} {s s' : State} {contents : List (List Char)} {rows : List (List Lexeme)}
    (h : Scanned n s contents rows s') (hn : ∀ content ∈ contents, '\n' ∉ content)
    (hall : (Source.lines source).map (·.content) = start ++ contents) (hlen : start.length + 1 = n)
    (hfound : rows.flatten ⊆ found)
    (hmay : ∀ c ∈ commentsOfRows contents rows, c.isDocumentation = false → MayGo source found c) :
    RemovableRows n contents rows := by
  induction h generalizing start with
  | nil => trivial
  | @cons n s s₁ s₂ content contents row rows hrow hrows ih =>
    have hcontent := hn content List.mem_cons_self
    refine ⟨fun c hc hdoc => ?_, ?_⟩
    · have hline := line_of_mem_commentsOfRow hrow hcontent hc
      have hat : Source.atLine? ((Source.lines source).map (·.content)) c.line = some content := by
        rw [hline, Source.atLine?, if_neg (by omega), hall, ← hlen]
        simp
      obtain ⟨halone, hbehind⟩ := hmay c (List.mem_append_left _ hc) hdoc
      refine ⟨fun hown l hl hn => halone hown l (hfound ?_) (hn.trans hline.symm),
        fun hown => hbehind hown content hat⟩
      rw [List.flatten_cons]
      exact List.mem_append_left _ hl
    · refine ih (start ++ [content]) (fun c hc => hn c (List.mem_cons_of_mem _ hc)) (by simp [hall])
        (by simp [hlen]) (fun l hl => hfound ?_) fun c hc => hmay c (List.mem_append_right _ hc)
      rw [List.flatten_cons]
      exact List.mem_append_right _ hl

/-- Where a scan ends, like states are equal. -/
theorem eq_of_like {t s : State} (h : t.Like s) (hs : s.Done) : t = s := by
  obtain ⟨joined, rfl, hjoined⟩ := h.of_none hs.closed
  rw [hjoined.resolve_right (by rw [hs.depth]; omega)]

/-- Lines that are left are scanned as a text: where no line is left, the text is an empty line. -/
theorem mirrors_scannedContents {source : String} {s : State} {rows : List (List Lexeme)}
    (h : Mirrors 1 {} s rows ((Source.lines source).map (·.content))) :
    Mirrors 1 {} s rows (scannedContents source) := by
  unfold scannedContents
  split
  · next hnil =>
    rw [hnil] at h
    obtain ⟨rows', t', hscanned, hlike, hsame, -⟩ := h
    cases hscanned
    have hclear : State.Clear {} := ⟨rfl, .inr ⟨rfl, rfl⟩⟩
    exact ⟨[_], {}, .cons (scanLine_empty hclear) .nil, hlike, hsame, by simp [commentsOfRows, commentsOfRow]⟩
  · exact h

/-- **Comments go without a trace**, if they may. -/
theorem stripsCleanly_of_mayGo {source : String} (h : CommentsMayGo source) :
    StripsCleanly source := by
  intro found hfound
  obtain ⟨rows, s, hrows, hdone, hflat⟩ := lexemes_eq_ok.1 hfound
  have hcomments := findComments_eq hrows hdone
  by_cases hdoc : ∀ c ∈ commentsOfRows (scannedContents source) rows, c.isDocumentation = true
  · have hstays := stripComments_of_documented hcomments hdoc
    exact ⟨source, found, hstays, hfound, rfl, hstays⟩
  have hsome : (commentsOfRows (scannedContents source) rows).filter (!·.isDocumentation) ≠ [] := by
    intro hnil
    exact hdoc fun c hc => by simpa using List.filter_eq_nil_iff.1 hnil c hc
  have hlines : scannedContents source = (Source.lines source).map (·.content) :=
    scannedContents_of_some hrows fun hnil => hsome (by rw [hnil]; rfl)
  have hn := not_newline_scannedContents source
  have hmay := h found _ hfound hcomments
  rw [hlines] at hrows hcomments hn hmay hsome
  have hstripped := stripComments_of_some hcomments hsome
  have hremovable := removableRows_of_mayGo [] hrows hn rfl rfl
    (hflat ▸ List.subset_append_left _ _) hmay
  have hmirrors := follows_strippedLines _ false (Source.lined_lines source) hrows (by rintro o ⟨⟩)
    hremovable (State.Like.refl {}) (by simp) (Nat.le_refl 1) (Nat.le_refl 1)
  rw [← contents_removeComments hrows] at hmirrors
  obtain ⟨rows', t', hscanned, hlike, hsame, hdoc'⟩ := mirrors_scannedContents hmirrors
  obtain rfl := eq_of_like hlike hdone
  refine ⟨_, _, hstripped, lexemes_eq_ok.2 ⟨rows', t', hscanned, hdone, rfl⟩, ?_,
    stripComments_of_documented (findComments_eq hscanned hdone) hdoc'⟩
  rw [hflat, program_append, program_append, hsame]
  congr 1
  exact program_eq_of_shape (by simp [ending, shape])

/-- A comment behind a statement and one on a line of its own. -/
theorem stripsCleanly_of_mayGo_counter :
    CommentsMayGo "x = (1,  # counter\n  # note\n  2)\n" ∧
      StripsCleanly "x = (1,  # counter\n  # note\n  2)\n" := by
  have hall : ((lexemes "x = (1,  # counter\n  # note\n  2)\n").toOption.bind fun found =>
      (findComments "x = (1,  # counter\n  # note\n  2)\n" none).toOption.map fun comments =>
        decide (∀ c ∈ comments, c.isDocumentation = false →
          MayGo "x = (1,  # counter\n  # note\n  2)\n" found c)) = some true := by
    decide +kernel
  have hmay : CommentsMayGo "x = (1,  # counter\n  # note\n  2)\n" := by
    intro found comments hfound hcomments
    simpa [hfound, hcomments, Except.toOption] using hall
  exact ⟨hmay, stripsCleanly_of_mayGo hmay⟩

/-- A comment behind a joined line ends the statement; without it the statement goes on. -/
theorem not_stripsCleanly_joined : ¬ StripsCleanly "x = 1 \\\n# note\ny = 2\n" := by
  intro h
  have hdiffers : ((lexemes "x = 1 \\\n# note\ny = 2\n").toOption.bind fun found =>
      (stripComments "x = 1 \\\n# note\ny = 2\n").toOption.bind fun stripped =>
        (lexemes stripped).toOption.map fun found' => decide (program found' = program found)) =
      some false := by
    decide +kernel
  cases hfound : lexemes "x = 1 \\\n# note\ny = 2\n" with
  | error e => simp [hfound, Except.toOption] at hdiffers
  | ok found =>
    obtain ⟨stripped, found', hstripped, hfound', hprogram, -⟩ := h found hfound
    simp [hfound, hstripped, hfound', hprogram, Except.toOption] at hdiffers

end Pseudonym.Python
