import Pseudonym.Proofs.Python.Pieces

/-!
# How a line is read

-/

namespace Pseudonym.Python.Scan

open Text

/-! ## The rounds of a line -/

/-- The lexemes that a piece gives as it stands, and the state behind it. Strings that may go on are
apart. -/
def Piece.emit (line start : Nat) (s : State) (taken : List Char) :
    Piece → Option (List Lexeme × State)
  | .join => some ([], { s with joined := true })
  | .comment => some ([⟨.comment, String.ofList taken, line, start⟩], s)
  | .number => some ([⟨.number, String.ofList taken, line, start⟩], s)
  | .newline =>
    some ([⟨if s.depth > 0 then .break else .newline, String.ofList taken, line, start⟩], s)
  | .string => some ([⟨.string, String.ofList taken, line, start⟩], s)
  | .word =>
    let isName := (taken.head?.map isIdentifierStart).getD false
    some ([⟨if isName then .name else .operator, String.ofList taken, line, start⟩], s)
  | .operator =>
    some ([⟨.operator, String.ofList taken, line, start⟩],
      { s with depth := s.depth + (taken.head?.map bracketStep).getD 0 })
  | .joinedString _ | .longOpening _ => none

/-- The rounds of `restOfLine`, without their bound: what is left of a line, from a column on, gives
these lexemes and this state. -/
inductive Reads (line : Nat) : Nat → State → List Char → List Lexeme → State → Prop
  | blank {column : Nat} {s : State} {g : List Char} (hg : ∀ c ∈ g, isGap c) :
      Reads line column s g [] s
  | error {column : Nat} {s s' : State} {c : Char} {cs : List Char} {ls : List Lexeme}
      (hp : piece? ((c :: cs).dropWhile isGap) = none) (hne : (c :: cs).dropWhile isGap ≠ [])
      (more : Reads line (column + 1) s cs ls s') :
      Reads line column s (c :: cs) (⟨.error, String.singleton c, line, column⟩ :: ls) s'
  | piece {column : Nat} {s s₁ s₂ : State} {g cs taken rest : List Char} {p : Piece}
      {here ls : List Lexeme} (hg : ∀ c ∈ g, isGap c) (hp : piece? cs = some (p, taken, rest))
      (he : p.emit line (column + g.length) s taken = some (here, s₁))
      (more : Reads line (column + g.length + taken.length) s₁ rest ls s₂) :
      Reads line column s (g ++ cs) (here ++ ls) s₂
  | long {column : Nat} {s s' : State} {g cs opening rest text rest' : List Char} {q : Char}
      {ls : List Lexeme} (hg : ∀ c ∈ g, isGap c)
      (hp : piece? cs = some (.longOpening q, opening, rest))
      (he : stringEnd q true opening.reverse rest = some (text, rest'))
      (more : Reads line (column + g.length + text.length) s rest' ls s') :
      Reads line column s (g ++ cs)
        (⟨.string, String.ofList text, line, column + g.length⟩ :: ls) s'
  | openShort {column : Nat} {s : State} {g cs taken rest : List Char} {q : Char}
      (hg : ∀ c ∈ g, isGap c) (hp : piece? cs = some (.joinedString q, taken, rest)) :
      Reads line column s (g ++ cs) []
        { s with open? := some ⟨q, false, taken, line, column + g.length⟩, needsJoin := true }
  | openLong {column : Nat} {s : State} {g cs taken rest : List Char} {q : Char}
      (hg : ∀ c ∈ g, isGap c) (hp : piece? cs = some (.longOpening q, taken, rest))
      (he : stringEnd q true taken.reverse rest = none) :
      Reads line column s (g ++ cs) []
        { s with open? := some ⟨q, true, taken ++ rest, line, column + g.length⟩ }

/-- The blanks before a piece are all that stand there. -/
theorem gap_before {g cs : List Char} {found : Piece × List Char × List Char}
    (hg : ∀ c ∈ g, isGap c) (hp : piece? cs = some found) :
    ∃ c more, g ++ cs = c :: more ∧ (c :: more).takeWhile isGap = g ∧ (c :: more).drop g.length = cs := by
  cases cs with
  | nil =>
    rw [show piece? [] = none by decide] at hp
    cases hp
  | cons d cs =>
    have hd : ¬ isGap d := fun hd => by rw [piece?_gap hd] at hp; cases hp
    obtain ⟨c, more, heq⟩ : ∃ c more, g ++ d :: cs = c :: more := by cases g <;> simp
    refine ⟨c, more, heq, ?_, ?_⟩
    · rw [← heq, List.takeWhile_append_of_pos hg, List.takeWhile_cons_of_neg hd, List.append_nil]
    · rw [← heq, List.drop_left]

section Rounds

variable {line fuel column : Nat} {s : State} {g cs : List Char}

theorem restOfLine_blank (hg : ∀ c ∈ g, isGap c) : restOfLine line fuel column s g = ([], s) := by
  cases fuel with
  | zero => rfl
  | succ fuel =>
    cases g with
    | nil => rfl
    | cons c g =>
      have htake : (c :: g).takeWhile isGap = c :: g := List.takeWhile_eq_self_iff.2 hg
      have hp : piece? [] = none := by decide
      simp [restOfLine, htake, hp]

theorem restOfLine_error {c : Char} (hp : piece? ((c :: cs).dropWhile isGap) = none)
    (hne : (c :: cs).dropWhile isGap ≠ []) :
    restOfLine line (fuel + 1) column s (c :: cs) =
      (⟨.error, String.singleton c, line, column⟩ :: (restOfLine line fuel (column + 1) s cs).1,
        (restOfLine line fuel (column + 1) s cs).2) := by
  rw [← drop_takeWhile] at hp hne
  simp [restOfLine, hp, hne]

theorem restOfLine_piece {p : Piece} {taken rest : List Char} {here : List Lexeme} {s₁ : State}
    (hg : ∀ c ∈ g, isGap c) (hp : piece? cs = some (p, taken, rest))
    (he : p.emit line (column + g.length) s taken = some (here, s₁)) :
    restOfLine line (fuel + 1) column s (g ++ cs) =
      (here ++ (restOfLine line fuel (column + g.length + taken.length) s₁ rest).1,
        (restOfLine line fuel (column + g.length + taken.length) s₁ rest).2) := by
  obtain ⟨c, more, heq, htake, hdrop⟩ := gap_before hg hp
  rw [heq, restOfLine, htake, hdrop, hp]
  cases p <;> cases he <;> rfl

theorem restOfLine_long {q : Char} {opening rest text rest' : List Char}
    (hg : ∀ c ∈ g, isGap c) (hp : piece? cs = some (.longOpening q, opening, rest))
    (he : stringEnd q true opening.reverse rest = some (text, rest')) :
    restOfLine line (fuel + 1) column s (g ++ cs) =
      (⟨.string, String.ofList text, line, column + g.length⟩ ::
          (restOfLine line fuel (column + g.length + text.length) s rest').1,
        (restOfLine line fuel (column + g.length + text.length) s rest').2) := by
  obtain ⟨c, more, heq, htake, hdrop⟩ := gap_before hg hp
  rw [heq, restOfLine, htake, hdrop, hp]
  simp only [he]

theorem restOfLine_openShort {q : Char} {taken rest : List Char}
    (hg : ∀ c ∈ g, isGap c) (hp : piece? cs = some (.joinedString q, taken, rest)) :
    restOfLine line (fuel + 1) column s (g ++ cs) =
      ([], { s with
        open? := some ⟨q, false, taken, line, column + g.length⟩, needsJoin := true }) := by
  obtain ⟨c, more, heq, htake, hdrop⟩ := gap_before hg hp
  rw [heq, restOfLine, htake, hdrop, hp]

theorem restOfLine_openLong {q : Char} {taken rest : List Char}
    (hg : ∀ c ∈ g, isGap c) (hp : piece? cs = some (.longOpening q, taken, rest))
    (he : stringEnd q true taken.reverse rest = none) :
    restOfLine line (fuel + 1) column s (g ++ cs) =
      ([], { s with open? := some ⟨q, true, taken ++ rest, line, column + g.length⟩ }) := by
  obtain ⟨c, more, heq, htake, hdrop⟩ := gap_before hg hp
  rw [heq, restOfLine, htake, hdrop, hp]
  simp only [he]

end Rounds

/-- Enough rounds read a line in this way. -/
theorem reads_restOfLine {line fuel column : Nat} {s : State} {cs : List Char}
    (hfuel : cs.length < fuel) :
    Reads line column s cs (restOfLine line fuel column s cs).1
      (restOfLine line fuel column s cs).2 := by
  induction fuel generalizing column s cs with
  | zero => omega
  | succ fuel ih =>
    have hgap : ∀ c ∈ cs.takeWhile isGap, isGap c := fun c hc => List.mem_takeWhile_imp hc
    have hcs := List.takeWhile_append_dropWhile (p := isGap) (l := cs)
    generalize cs.takeWhile isGap = g at hgap hcs
    cases hp : piece? (cs.dropWhile isGap) with
    | none =>
      by_cases hnil : cs.dropWhile isGap = []
      · rw [hnil, List.append_nil] at hcs
        subst hcs
        rw [restOfLine_blank hgap]
        exact .blank hgap
      · cases cs with
        | nil => exact absurd rfl hnil
        | cons c cs =>
          rw [restOfLine_error hp hnil]
          exact .error hp hnil (ih (Nat.lt_of_succ_lt_succ hfuel))
    | some found =>
      obtain ⟨p, taken, rest⟩ := found
      obtain ⟨hsplit, hne⟩ := piece?_split hp
      have hpos := List.length_pos_of_ne_nil hne
      generalize cs.dropWhile isGap = cs' at hp hcs hsplit
      subst hcs hsplit
      simp only [List.length_append] at hfuel
      cases he : p.emit line (column + g.length) s taken with
      | some emitted =>
        rw [restOfLine_piece hgap hp he]
        exact .piece hgap hp he (ih (by omega))
      | none =>
        cases p with
        | joinedString q =>
          rw [restOfLine_openShort hgap hp]
          exact .openShort hgap hp
        | longOpening q =>
          cases hs : stringEnd q true taken.reverse rest with
          | none =>
            rw [restOfLine_openLong hgap hp hs]
            exact .openLong hgap hp hs
          | some closed =>
            obtain ⟨front, -, hrest, -⟩ := stringEnd_ends hs
            have hlen := congrArg List.length hrest
            simp only [List.length_append] at hlen
            rw [restOfLine_long hgap hp hs]
            exact .long hgap hp hs (ih (by omega))
        | _ => cases he

theorem Reads.restOfLine_eq {line fuel column : Nat} {s s' : State} {cs : List Char}
    {ls : List Lexeme} (h : Reads line column s cs ls s') (hfuel : cs.length < fuel) :
    restOfLine line fuel column s cs = (ls, s') := by
  induction h generalizing fuel with
  | blank hg => exact restOfLine_blank hg
  | @error column s s' c cs ls hp hne more ih =>
    cases fuel with
    | zero => omega
    | succ fuel => rw [restOfLine_error hp hne, ih (Nat.lt_of_succ_lt_succ hfuel)]
  | @piece column s s₁ s₂ g cs taken rest p here ls hg hp he more ih =>
    cases fuel with
    | zero => omega
    | succ fuel =>
      obtain ⟨rfl, hne⟩ := piece?_split hp
      have hpos := List.length_pos_of_ne_nil hne
      simp only [List.length_append] at hfuel
      rw [restOfLine_piece hg hp he, ih (by omega)]
  | @long column s s' g cs opening rest text rest' q ls hg hp he more ih =>
    cases fuel with
    | zero => omega
    | succ fuel =>
      obtain ⟨rfl, hne⟩ := piece?_split hp
      obtain ⟨front, -, rfl, -⟩ := stringEnd_ends he
      have hpos := List.length_pos_of_ne_nil hne
      simp only [List.length_append] at hfuel
      rw [restOfLine_long hg hp he, ih (by omega)]
  | @openShort column s g cs taken rest q hg hp =>
    cases fuel with
    | zero => omega
    | succ fuel => exact restOfLine_openShort hg hp
  | @openLong column s g cs taken rest q hg hp he =>
    cases fuel with
    | zero => omega
    | succ fuel => exact restOfLine_openLong hg hp he

/-- A line is read in one way. -/
theorem Reads.unique {line column : Nat} {s s₁ s₂ : State} {cs : List Char} {ls₁ ls₂ : List Lexeme}
    (h₁ : Reads line column s cs ls₁ s₁) (h₂ : Reads line column s cs ls₂ s₂) :
    ls₁ = ls₂ ∧ s₁ = s₂ := by
  have h := (h₁.restOfLine_eq (Nat.lt_succ_self _)).symm.trans (h₂.restOfLine_eq (Nat.lt_succ_self _))
  exact ⟨congrArg Prod.fst h, congrArg Prod.snd h⟩

/-! ## Where lexemes stand -/

theorem Piece.emit_place {line start : Nat} {s s₁ : State} {taken : List Char} {p : Piece}
    {here : List Lexeme} (h : p.emit line start s taken = some (here, s₁)) :
    (∀ l ∈ here, l.line = line ∧ l.column = start) ∧ s₁.open? = s.open? := by
  cases p <;> cases h <;> simp

/-- The lexemes of a line stand on it, from the column on. -/
theorem Reads.place {line column : Nat} {s s' : State} {cs : List Char} {ls : List Lexeme}
    (h : Reads line column s cs ls s') : ∀ l ∈ ls, l.line = line ∧ column ≤ l.column := by
  induction h with
  | blank => simp
  | error hp hne more ih =>
    intro l hl
    rcases List.mem_cons.1 hl with rfl | hl
    · exact ⟨rfl, Nat.le_refl _⟩
    · exact ⟨(ih l hl).1, by have := (ih l hl).2; omega⟩
  | piece hg hp he more ih =>
    intro l hl
    rcases List.mem_append.1 hl with hl | hl
    · obtain ⟨hline, hcolumn⟩ := (Piece.emit_place he).1 l hl
      exact ⟨hline, by omega⟩
    · exact ⟨(ih l hl).1, by have := (ih l hl).2; omega⟩
  | long hg hp he more ih =>
    intro l hl
    rcases List.mem_cons.1 hl with rfl | hl
    · exact ⟨rfl, Nat.le_add_right ..⟩
    · exact ⟨(ih l hl).1, by have := (ih l hl).2; omega⟩
  | openShort => simp
  | openLong => simp

/-! ## Lines that move -/

/-- A lexeme on another line. -/
def onLine (line : Nat) (l : Lexeme) : Lexeme := { l with line }

/-- A state whose open string started on another line. -/
def State.onLine (line : Nat) (s : State) : State :=
  { s with open? := s.open?.map fun o => { o with line } }

theorem State.onLine_of_none {s : State} (h : s.open? = none) (line : Nat) : s.onLine line = s := by
  obtain ⟨depth, joined, open?, needsJoin, indents⟩ := s
  cases h
  rfl

theorem Piece.emit_onLine {line start : Nat} {s s₁ : State} {taken : List Char} {p : Piece}
    {here : List Lexeme} (h : p.emit line start s taken = some (here, s₁)) (line' : Nat) :
    p.emit line' start s taken = some (here.map (Scan.onLine line'), s₁) := by
  cases p <;> cases h <;> rfl

/-- The number of a line shows in its lexemes and in the string that it opens, and nowhere else. -/
theorem Reads.onLine {line column : Nat} {s s' : State} {cs : List Char} {ls : List Lexeme}
    (h : Reads line column s cs ls s') (hs : s.open? = none) (line' : Nat) :
    Reads line' column s cs (ls.map (Scan.onLine line')) (s'.onLine line') := by
  induction h with
  | blank hg =>
    rw [State.onLine_of_none hs]
    exact .blank hg
  | error hp hne more ih => exact .error hp hne (ih hs)
  | piece hg hp he more ih =>
    rw [List.map_append]
    exact .piece hg hp (Piece.emit_onLine he line') (ih ((Piece.emit_place he).2.trans hs))
  | long hg hp he more ih => exact .long hg hp he (ih hs)
  | openShort hg hp => exact .openShort hg hp
  | openLong hg hp he => exact .openLong hg hp he

/-! ## Comments -/

theorem Reads.nil {line column : Nat} {s s' : State} {ls : List Lexeme}
    (h : Reads line column s [] ls s') : ls = [] ∧ s' = s :=
  h.unique (.blank (by simp))

theorem Piece.emit_comment {line start : Nat} {s s₁ : State} {taken : List Char} {p : Piece}
    {here : List Lexeme} (h : p.emit line start s taken = some (here, s₁)) {l : Lexeme} (hl : l ∈ here)
    (hk : l.kind = .comment) : p = .comment ∧ l = ⟨.comment, String.ofList taken, line, start⟩ := by
  cases p <;> cases h <;> simp at hl <;> subst hl
  case comment => exact ⟨rfl, rfl⟩
  all_goals
    simp at hk
    try split at hk
    all_goals try simp at hk

/-- What a round leaves of a line ends where the line ends, or is nothing. -/
theorem rest_of_closed {w rest : List Char} (front : List Char) (h : front ++ rest = w ++ ['\n']) :
    rest = [] ∨ ∃ w', rest = w' ++ ['\n'] ∧ w = front ++ w' := by
  rcases List.eq_nil_or_concat' rest with rfl | ⟨w', c, rfl⟩
  · exact .inl rfl
  · rw [← List.append_assoc] at h
    obtain ⟨hw, hc⟩ := List.append_inj' h rfl
    exact .inr ⟨w', by rw [hc], hw.symm⟩

theorem takeWhile_line {w : List Char} (h : '\n' ∉ w) : (w ++ ['\n']).takeWhile (· ≠ '\n') = w := by
  rw [List.takeWhile_append_of_pos (by intro c hc; simp; rintro rfl; exact h hc)]
  simp

theorem dropWhile_line {w : List Char} (h : '\n' ∉ w) :
    (w ++ ['\n']).dropWhile (· ≠ '\n') = ['\n'] := by
  rw [List.dropWhile_append_of_pos (by intro c hc; simp; rintro rfl; exact h hc)]
  simp

/-- The end of a line. -/
def lineEnd (line column : Nat) (s : State) : Lexeme :=
  ⟨if s.depth > 0 then .break else .newline, "\n", line, column⟩

theorem lineEnd_kind {line column : Nat} {s : State} : (lineEnd line column s).kind ≠ .comment := by
  unfold lineEnd
  split <;> simp

theorem reads_end {line column : Nat} {s : State} {g : List Char} (hg : ∀ c ∈ g, isGap c) :
    Reads line column s (g ++ ['\n']) [lineEnd line (column + g.length) s] s :=
  .piece hg (p := .newline) rfl rfl (.blank (by simp))

theorem reads_comment {line column : Nat} {s : State} {g z : List Char} (hg : ∀ c ∈ g, isGap c)
    (hz : '\n' ∉ z) :
    Reads line column s (g ++ '#' :: (z ++ ['\n']))
      [⟨.comment, String.ofList ('#' :: z), line, column + g.length⟩,
        lineEnd line (column + g.length + (z.length + 1)) s] s := by
  have htake : ('#' :: (z ++ ['\n'])).takeWhile (· ≠ '\n') = '#' :: z := by
    rw [List.takeWhile_cons_of_pos (by decide), takeWhile_line hz]
  have hp : piece? ('#' :: (z ++ ['\n'])) = some (.comment, '#' :: z, ['\n']) := by
    simp only [piece?, htake]
    simp
  exact Reads.piece hg hp (rfl : Piece.emit _ _ _ _ .comment = some ([_], s))
    (reads_end (g := []) (by simp))

/-- A comment starts at its mark and goes to the end of a line. Nothing follows it but the end of the
line, and no other comment stands before it. -/
def EndsWith (line column : Nat) (w : List Char) (ls : List Lexeme) (l : Lexeme) (s : State) : Prop :=
  ∃ front z ls₀, w = front ++ '#' :: z ∧
    l = ⟨.comment, String.ofList ('#' :: z), line, column + front.length⟩ ∧
    ls = ls₀ ++ [l, lineEnd line (column + w.length) s] ∧ ∀ x ∈ ls₀, x.kind ≠ .comment

theorem EndsWith.prepend {line column : Nat} {w front : List Char} {here ls : List Lexeme}
    {l : Lexeme} {s : State} (h : EndsWith line (column + front.length) w ls l s)
    (hhere : ∀ x ∈ here, x.kind ≠ .comment) : EndsWith line column (front ++ w) (here ++ ls) l s := by
  obtain ⟨front', z, ls₀, rfl, hl, rfl, hls₀⟩ := h
  refine ⟨front ++ front', z, here ++ ls₀, by simp, ?_, ?_, ?_⟩
  · rw [hl, List.length_append, Nat.add_assoc]
  · rw [List.append_assoc, List.length_append, List.length_append, List.length_append, Nat.add_assoc]
  · exact fun x hx => (List.mem_append.1 hx).elim (hhere x) (hls₀ x)

theorem Reads.endsWith {line column : Nat} {s s' : State} {w : List Char} {ls : List Lexeme}
    {l : Lexeme} (h : Reads line column s (w ++ ['\n']) ls s') (hn : '\n' ∉ w) (hl : l ∈ ls)
    (hk : l.kind = .comment) : EndsWith line column w ls l s' := by
  generalize hcs : w ++ ['\n'] = cs at h
  induction h generalizing w with
  | blank => cases hl
  | @error column s s' c cs ls hp hne more ih =>
    replace hl : l ∈ ls := (List.mem_cons.1 hl).resolve_left (by rintro rfl; cases hk)
    rcases rest_of_closed [c] hcs.symm with rfl | ⟨w', rfl, rfl⟩
    · rw [more.nil.1] at hl
      cases hl
    · have hrest := ih (fun hm => hn (by simp [hm])) hl rfl
      have hhere : ∀ x ∈ [(⟨.error, String.singleton c, line, column⟩ : Lexeme)], x.kind ≠ .comment := by
        simp
      exact hrest.prepend hhere
  | @piece column s s₁ s₂ g cs taken rest p here ls hg hp he more ih =>
    obtain ⟨rfl, -⟩ := piece?_split hp
    by_cases hp' : p = .comment
    · subst hp'
      obtain ⟨z, hz, -⟩ : ∃ z, taken ++ rest = '#' :: z ∧
          taken = '#' :: z.takeWhile (· ≠ '\n') ∧ _ := by simpa using piece?_kind hp
      have hall := Reads.piece hg hp he more
      rw [hz] at hcs hall
      rcases rest_of_closed (g ++ ['#']) (by simpa using hcs.symm) with rfl | ⟨z, rfl, rfl⟩
      · simpa using (List.append_inj' hcs rfl).2
      · have hz' : '\n' ∉ z := fun hm => hn (by simp [hm])
        obtain ⟨hls, rfl⟩ := hall.unique (reads_comment hg hz')
        rw [hls] at hl ⊢
        obtain rfl := (List.mem_pair.1 hl).resolve_right fun heq => lineEnd_kind (heq ▸ hk)
        refine ⟨g, z, [], by simp, rfl, ?_, by simp⟩
        simp [lineEnd]
        omega
    · have hhere : ∀ x ∈ here, x.kind ≠ .comment := fun x hx hkx =>
        hp' (Piece.emit_comment he hx hkx).1
      replace hl : l ∈ ls := (List.mem_append.1 hl).resolve_left fun hh => hhere l hh hk
      rcases rest_of_closed (g ++ taken) (by simpa using hcs.symm) with rfl | ⟨w', rfl, rfl⟩
      · rw [more.nil.1] at hl
        cases hl
      · have hrest := ih (fun hm => hn (by simp [hm])) hl rfl
        rw [Nat.add_assoc, ← List.length_append] at hrest
        exact hrest.prepend hhere
  | @long column s s' g cs opening rest text rest' q ls hg hp he more ih =>
    obtain ⟨rfl, -⟩ := piece?_split hp
    obtain ⟨front, rfl, rfl, -⟩ := stringEnd_ends he
    replace hl : l ∈ ls := (List.mem_cons.1 hl).resolve_left (by rintro rfl; cases hk)
    rcases rest_of_closed (g ++ opening ++ (front ++ closing q true)) (by simpa using hcs.symm)
      with rfl | ⟨w', rfl, rfl⟩
    · rw [more.nil.1] at hl
      cases hl
    · have hrest := ih (fun hm => hn (by simp [hm])) hl rfl
      rw [List.reverse_reverse, Nat.add_assoc, ← List.length_append, ← List.append_assoc] at hrest
      rw [List.reverse_reverse]
      have hhere : ∀ x ∈ [(⟨.string, String.ofList (opening ++ (front ++ closing q true)), line,
          column + g.length⟩ : Lexeme)], x.kind ≠ .comment := by
        simp
      exact hrest.prepend hhere
  | openShort => cases hl
  | openLong => cases hl

/-- Where a line has a comment and otherwise line ends only, there are blanks before the comment. -/
theorem Reads.of_silent {line column : Nat} {s s' : State} {w : List Char} {ls : List Lexeme}
    {l : Lexeme} (h : Reads line column s (w ++ ['\n']) ls s') (hn : '\n' ∉ w) (hl : l ∈ ls)
    (hk : l.kind = .comment) (hsilent : ∀ x ∈ ls, x.kind = .comment ∨ x.kind = .break) :
    s' = s ∧ ∃ g z, w = g ++ '#' :: z ∧ ls = [l, lineEnd line (column + w.length) s] ∧
      l = ⟨.comment, String.ofList ('#' :: z), line, column + g.length⟩ := by
  have hall := h
  generalize hcs : w ++ ['\n'] = cs at h
  cases h with
  | blank => cases hl
  | error => simpa using hsilent _ List.mem_cons_self
  | @piece column s s₁ s₂ g cs taken rest p here ls hg hp he more =>
    obtain ⟨rfl, -⟩ := piece?_split hp
    -- A piece that ends the line leaves nothing for the comment.
    have hends : ∀ front, taken = front ++ ['\n'] → here ++ ls = here := by
      rintro front rfl
      rcases rest_of_closed (g ++ (front ++ ['\n'])) (by simpa using hcs.symm) with rfl | ⟨w', rfl, rfl⟩
      · rw [more.nil.1, List.append_nil]
      · simp at hn
    rcases piece?_kind hp with ⟨rfl, htaken⟩ | ⟨rfl, z, hz, -⟩ | ⟨rfl, htaken⟩ | hplain | ⟨q, -, rfl | rfl⟩
    · rw [hends ['\\'] htaken] at hl
      cases (Piece.emit_comment he hl hk).1
    · rw [hz] at hcs
      rcases rest_of_closed (g ++ ['#']) (by simpa using hcs.symm) with rfl | ⟨z, rfl, rfl⟩
      · simpa using (List.append_inj' hcs rfl).2
      · have hz' : '\n' ∉ z := fun hm => hn (by simp [hm])
        have hw : g ++ ['#'] ++ z = g ++ '#' :: z := by simp
        rw [hw, List.append_assoc, List.cons_append] at hall
        obtain ⟨hls, rfl⟩ := hall.unique (reads_comment hg hz')
        rw [hls] at hl ⊢
        obtain rfl := (List.mem_pair.1 hl).resolve_right fun heq => lineEnd_kind (heq ▸ hk)
        refine ⟨rfl, g, z, hw, ?_, rfl⟩
        simp [Nat.add_assoc]
    · rw [hends [] htaken] at hl
      cases (Piece.emit_comment he hl hk).1
    · exfalso
      simp only [List.mem_cons, List.not_mem_nil, or_false] at hplain
      rcases hplain with rfl | rfl | rfl | rfl
      · cases he
        simpa using hsilent _ List.mem_cons_self
      · cases he
        simpa using hsilent _ List.mem_cons_self
      · cases he
        simpa using hsilent _ List.mem_cons_self
      · cases he
        rcases hsilent _ List.mem_cons_self with hkind | hkind
        · dsimp only at hkind
          split at hkind <;> cases hkind
        · dsimp only at hkind
          split at hkind <;> cases hkind
    · cases he
    · cases he
  | long => simpa using hsilent _ List.mem_cons_self
  | openShort => cases hl
  | openLong => cases hl

/-- The lexemes of a line end with a comment and the line end, and the line is read alike when it
ends behind `u` instead. -/
def Trims (line column : Nat) (s : State) (u : List Char) (ls : List Lexeme) (l : Lexeme)
    (s' : State) : Prop :=
  ∃ ls₀ e, ls = ls₀ ++ [l, e] ∧ e.kind ≠ .comment ∧ (∀ x ∈ ls₀, x.kind ≠ .comment) ∧
    Reads line column s (u ++ ['\n']) (ls₀ ++ [{ e with column := column + u.length }]) s'

section Cut

variable {line column : Nat} {s s' : State} {u g z : List Char} {ls : List Lexeme} {l : Lexeme}

theorem Reads.trims_of_gap (h : Reads line column s (u ++ (g ++ '#' :: (z ++ ['\n']))) ls s')
    (hu : ∀ c ∈ u, isGap c) (hg : ∀ c ∈ g, isGap c) (hz : '\n' ∉ z) (hl : l ∈ ls)
    (hk : l.kind = .comment) : Trims line column s u ls l s' := by
  have hug : ∀ c ∈ u ++ g, isGap c := fun c hc => (List.mem_append.1 hc).elim (hu c) (hg c)
  rw [← List.append_assoc] at h
  obtain ⟨rfl, rfl⟩ := h.unique (reads_comment hug hz)
  obtain rfl := (List.mem_pair.1 hl).resolve_right fun heq => lineEnd_kind (heq ▸ hk)
  exact ⟨[], _, rfl, lineEnd_kind, by simp, reads_end hu⟩

/-- The part of `u` behind what a round takes ends like `u`. -/
theorem getLast?_rest (front : List Char) (hb : (front ++ u).getLast? ≠ some '\\') :
    u.getLast? ≠ some '\\' := by
  cases u with
  | nil => simp
  | cons c u => rwa [List.getLast?_append_of_ne_nil _ (List.cons_ne_nil c u)] at hb

/-- Blanks before a piece that is not a comment are blanks of `u`. -/
theorem exists_of_gap {w g' cs : List Char} {found : Piece × List Char × List Char}
    (hu : ¬ ∀ c ∈ u, isGap c) (hg' : ∀ c ∈ g', isGap c) (hp : piece? cs = some found)
    (hcs : u ++ w = g' ++ cs) : ∃ v, v ≠ [] ∧ u = g' ++ v ∧ cs = v ++ w := by
  rcases List.append_eq_append_iff.1 hcs with ⟨a, rfl, rfl⟩ | ⟨v, rfl, rfl⟩
  · exact absurd (fun c hc => hg' c (List.mem_append_left a hc)) hu
  · refine ⟨v, ?_, rfl, rfl⟩
    rintro rfl
    exact hu (by simpa using hg')

/-- A long string that closes behind `v` takes in the mark of the comment. -/
theorem stringEnd_cut {v taken text rest : List Char} {q : Char} {long : Bool} (hq : IsQuote q)
    (hg : ∀ c ∈ g, isGap c)
    (h : stringEnd q long taken (v ++ (g ++ '#' :: z)) = some (text, rest)) :
    (∃ read rest', text = taken.reverse ++ read ∧ v = read ++ rest' ∧
      rest = rest' ++ (g ++ '#' :: z) ∧
      ∀ w, stringEnd q long taken (v ++ w) = some (text, rest' ++ w)) ∨
      (taken.reverse ++ (v ++ g)).length < text.length := by
  obtain ⟨front, rfl, hread, hlocal⟩ := stringEnd_ends h
  rcases Nat.lt_or_ge v.length (front ++ closing q long).length with hlen | hlen
  · right
    have hlast : (front ++ closing q long).getLast? = some q := by
      cases long <;> simp [closing, List.getLast?_append]
    have hall : front ++ closing q long ++ rest = v ++ g ++ '#' :: z := by simpa using hread.symm
    have hlt := length_lt_of_getLast? hall hlen hlast fun hmem => by
      obtain rfl | rfl := hq <;> exact absurd (hg _ hmem) (by decide)
    simp only [List.length_append] at hlt ⊢
    omega
  · left
    obtain ⟨b, rfl, rfl⟩ := exists_of_length_le hread hlen
    refine ⟨front ++ closing q long, b, rfl, rfl, rfl, fun w => ?_⟩
    rw [List.append_assoc _ b w]
    exact hlocal (b ++ w)

/-- What is no piece in front of the comment is none either when the line ends there. -/
theorem piece?_none_cut {c : Char} {w : List Char} (hw : Stops w) (hgap : ¬ ∀ d ∈ c :: u, isGap d)
    (hu : '\n' ∉ c :: u) (hb : (c :: u).getLast? ≠ some '\\')
    (hp : piece? ((c :: (u ++ w)).dropWhile isGap) = none) :
    piece? ((c :: (u ++ ['\n'])).dropWhile isGap) = none ∧
      (c :: (u ++ ['\n'])).dropWhile isGap ≠ [] := by
  have hne : (c :: u).dropWhile isGap ≠ [] := fun hnil => hgap (List.dropWhile_eq_nil_iff.1 hnil)
  have hdrop (w : List Char) : (c :: (u ++ w)).dropWhile isGap = (c :: u).dropWhile isGap ++ w := by
    rw [← List.cons_append, List.dropWhile_append, if_neg (by simpa using hne)]
  obtain ⟨front, hfront⟩ := List.dropWhile_suffix isGap (l := c :: u)
  rw [hdrop] at hp ⊢
  refine ⟨piece?_cut_none hw hne (fun hm => hu (hfront ▸ List.mem_append_right _ hm)) ?_ hp, by simp⟩
  exact getLast?_rest front (hfront.symm ▸ hb)

/-! ### Lexemes before the comment -/

/-- A line that starts with an error and is then read alike when it ends early. -/
theorem Trims.error {c : Char} (hp : piece? ((c :: (u ++ ['\n'])).dropWhile isGap) = none)
    (hne : (c :: (u ++ ['\n'])).dropWhile isGap ≠ []) (h : Trims line (column + 1) s u ls l s') :
    Trims line column s (c :: u) (⟨.error, String.singleton c, line, column⟩ :: ls) l s' := by
  obtain ⟨ls₀, e, rfl, he, hls₀, hreads⟩ := h
  refine ⟨_ :: ls₀, e, rfl, he, List.forall_mem_cons.2 ⟨by simp, hls₀⟩, ?_⟩
  have hcolumn : column + (c :: u).length = column + 1 + u.length := by simp; omega
  rw [hcolumn]
  exact .error hp hne hreads

/-- A line that starts with a piece and is then read alike when it ends early. -/
theorem Trims.piece {s₁ : State} {g taken rest : List Char} {p : Piece} {here : List Lexeme}
    (hg : ∀ c ∈ g, isGap c) (hp : piece? (taken ++ rest ++ ['\n']) = some (p, taken, rest ++ ['\n']))
    (hnot : p ≠ .comment) (he : p.emit line (column + g.length) s taken = some (here, s₁))
    (h : Trims line (column + g.length + taken.length) s₁ rest ls l s') :
    Trims line column s (g ++ (taken ++ rest)) (here ++ ls) l s' := by
  obtain ⟨ls₀, e, rfl, hend, hls₀, hreads⟩ := h
  refine ⟨here ++ ls₀, e, by simp, hend, fun x hx => ?_, ?_⟩
  · rcases List.mem_append.1 hx with hx | hx
    · exact fun hkx => hnot (Piece.emit_comment he hx hkx).1
    · exact hls₀ x hx
  · have hcolumn : column + (g ++ (taken ++ rest)).length =
        column + g.length + taken.length + rest.length := by
      simp only [List.length_append]
      omega
    rw [hcolumn, List.append_assoc g, List.append_assoc here]
    exact .piece hg hp he hreads

/-- A line that starts with a long string and is then read alike when it ends early. -/
theorem Trims.long {g opening read rest : List Char} {q : Char} (hg : ∀ c ∈ g, isGap c)
    (hp : piece? (opening ++ (read ++ rest) ++ ['\n']) =
      some (.longOpening q, opening, read ++ rest ++ ['\n']))
    (he : stringEnd q true opening.reverse (read ++ rest ++ ['\n']) =
      some (opening ++ read, rest ++ ['\n']))
    (h : Trims line (column + g.length + (opening ++ read).length) s rest ls l s') :
    Trims line column s (g ++ (opening ++ (read ++ rest)))
      (⟨.string, String.ofList (opening ++ read), line, column + g.length⟩ :: ls) l s' := by
  obtain ⟨ls₀, e, rfl, hend, hls₀, hreads⟩ := h
  refine ⟨_ :: ls₀, e, rfl, hend, List.forall_mem_cons.2 ⟨by simp, hls₀⟩, ?_⟩
  have hcolumn : column + (g ++ (opening ++ (read ++ rest))).length =
      column + g.length + (opening ++ read).length + rest.length := by
    simp only [List.length_append]
    omega
  rw [hcolumn, List.append_assoc g]
  exact .long hg hp he hreads

/-- Without a trailing comment and some blanks before it a line has the same lexemes otherwise, and
the next line starts alike. A piece or a string that took in the mark of the comment would reach past
the column where the comment is known to be. -/
theorem Reads.trims (h : Reads line column s (u ++ (g ++ '#' :: (z ++ ['\n']))) ls s')
    (hg : ∀ c ∈ g, isGap c) (hz : '\n' ∉ z) (hu : '\n' ∉ u) (hb : u.getLast? ≠ some '\\')
    (hl : l ∈ ls) (hk : l.kind = .comment) (hcolumn : l.column = column + (u ++ g).length) :
    Trims line column s u ls l s' := by
  generalize hcs : u ++ (g ++ '#' :: (z ++ ['\n'])) = cs at h
  induction h generalizing u with
  | blank => cases hl
  | @error column s s' c cs ls hp hne more ih =>
    by_cases hgap : ∀ c ∈ u, isGap c
    · exact Reads.trims_of_gap (hcs ▸ .error hp hne more) hgap hg hz hl hk
    cases u with
    | nil => simp at hgap
    | cons d u =>
      obtain ⟨rfl, rfl⟩ := List.cons.inj hcs
      replace hl : l ∈ ls := (List.mem_cons.1 hl).resolve_left (by rintro rfl; cases hk)
      obtain ⟨hp', hne'⟩ := piece?_none_cut (stops_gap hg) hgap hu hb hp
      exact .error hp' hne' (ih (fun hm => hu (by simp [hm])) (getLast?_rest [d] hb) hl
        (by simp at hcolumn ⊢; omega) rfl)
  | @piece column s s₁ s₂ g' cs taken rest p here ls hg' hp he more ih =>
    by_cases hgap : ∀ c ∈ u, isGap c
    · exact Reads.trims_of_gap (hcs ▸ .piece hg' hp he more) hgap hg hz hl hk
    obtain ⟨v, hv, rfl, rfl⟩ := exists_of_gap hgap hg' hp hcs
    rcases piece?_cut hv (fun hm => hu (List.mem_append_right _ hm)) (getLast?_rest g' hb) hg hp with
      ⟨hnot, rest', rfl, rfl, hwithin⟩ | hlong
    · replace hl : l ∈ ls := (List.mem_append.1 hl).resolve_left fun hh =>
        hnot (Piece.emit_comment he hh hk).1
      exact .piece hg' hwithin hnot he (ih (fun hm => hu (by simp [hm]))
        (getLast?_rest (g' ++ taken) (by simpa using hb)) hl
        (by simp only [List.length_append] at hcolumn ⊢; omega) rfl)
    · exfalso
      simp only [List.length_append] at hcolumn hlong
      have hpos := List.length_pos_of_ne_nil hv
      rcases List.mem_append.1 hl with hl | hl
      · have := (Piece.emit_place he).1 l hl
        omega
      · have := more.place l hl
        omega
  | @long column s s' g' cs opening rest text rest' q ls hg' hp he more ih =>
    by_cases hgap : ∀ c ∈ u, isGap c
    · exact Reads.trims_of_gap (hcs ▸ .long hg' hp he more) hgap hg hz hl hk
    obtain ⟨v, hv, rfl, rfl⟩ := exists_of_gap hgap hg' hp hcs
    have hq : IsQuote q := by simpa using piece?_kind hp
    replace hl : l ∈ ls := (List.mem_cons.1 hl).resolve_left (by rintro rfl; cases hk)
    have hafter := (more.place l hl).2
    rcases piece?_cut hv (fun hm => hu (List.mem_append_right _ hm)) (getLast?_rest g' hb) hg hp with
      ⟨-, v', rfl, rfl, hwithin⟩ | hlong
    · rcases stringEnd_cut hq hg he with ⟨read, b, rfl, rfl, rfl, hlocal⟩ | hlong
      · rw [List.reverse_reverse] at ih ⊢
        simp only [List.reverse_reverse] at hlocal
        exact .long hg' hwithin (hlocal ['\n']) (ih (fun hm => hu (by simp [hm]))
          (getLast?_rest (g' ++ opening ++ read) (by simpa using hb)) hl
          (by simp at hcolumn ⊢; omega) rfl)
      · simp at hcolumn hlong
        omega
    · obtain ⟨hsplit, -⟩ := piece?_split hp
      obtain ⟨front, rfl, -, -⟩ := stringEnd_ends he
      simp at hcolumn hlong hafter
      omega
  | openShort => cases hl
  | openLong => cases hl

end Cut

end Pseudonym.Python.Scan
