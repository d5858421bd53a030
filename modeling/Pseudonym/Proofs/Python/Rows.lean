import Pseudonym.Proofs.Python.Scanning

/-!
# The lines of a scan

A line starts a statement, goes on with one, or goes on with a string. `Opens` says how it starts, and
from there on it is read (`Reads`). So what happens to a line without its comment is settled by its
start (`Opens.cut`) and by its rest (`Reads.trims`). Line numbers do not matter to a scan, and
neither does a backslash before a line inside brackets (`scanLine_like`).
-/

namespace Pseudonym.Python.Scan

open Text

theorem reads_rest (n column : Nat) (s : State) (cs : List Char) :
    Reads n column s cs (restOfLine n (cs.length + 1) column s cs).1
      (restOfLine n (cs.length + 1) column s cs).2 :=
  reads_restOfLine (Nat.lt_succ_self _)

/-! ## Indentation -/

theorem indentation_append {rest : List Char} (hrest : ∀ c ∈ rest.head?, ¬ isGap c) {g : List Char}
    (hg : ∀ c ∈ g, isGap c) (width : Nat) :
    indentation width (g ++ rest) = ((indentation width g).1, g) := by
  induction g generalizing width with
  | nil =>
    cases rest with
    | nil => rfl
    | cons c rest =>
      have hc : ¬ isGap c := hrest c rfl
      simp only [isGap, Bool.or_eq_true, decide_eq_true_eq, not_or] at hc
      rw [List.nil_append, indentation]
      · rfl
      all_goals simp [hc]
  | cons c g ih =>
    have hc := hg c List.mem_cons_self
    have ih := ih fun d hd => hg d (List.mem_cons_of_mem c hd)
    simp only [isGap, Bool.or_eq_true, decide_eq_true_eq] at hc
    rcases hc with (rfl | rfl) | rfl
    · simp [indentation, ih]
    · simp [indentation, ih]
    · simp [indentation, ih]

/-- The blanks at the front of a line are its indentation. -/
theorem indentation_eq (cs : List Char) :
    indentation 0 cs = ((indentation 0 (cs.takeWhile isGap)).1, cs.takeWhile isGap) := by
  have hrest : ∀ c ∈ (cs.dropWhile isGap).head?, ¬ isGap c := by
    intro c hc
    have hnot := List.head?_dropWhile_not isGap cs
    simp_all
  have hgap : ∀ c ∈ cs.takeWhile isGap, isGap c := fun c hc => List.mem_takeWhile_imp hc
  have h := indentation_append hrest hgap 0
  rwa [List.takeWhile_append_dropWhile] at h

theorem scanLine_of_none {n : Nat} {s : State} (hopen : s.open? = none) (cs : List Char) :
    scanLine n s cs = if s.depth = 0 ∧ !s.joined then freshLine n s cs
      else .ok (restOfLine n (cs.length + 1) 0 { s with joined := false } cs) := by
  unfold scanLine
  split
  · next ho =>
    rw [hopen] at ho
    cases ho
  · rfl

theorem scanLine_of_some {n : Nat} {s : State} {o : OpenString} (hopen : s.open? = some o)
    (cs : List Char) : scanLine n s cs = .ok (stringLine n s o cs) := by
  unfold scanLine
  split
  · next ho =>
    rw [hopen] at ho
    cases ho
    rfl
  · next ho =>
    rw [hopen] at ho
    cases ho

/-- Whether an open string breaks off at the end of a line. -/
def breaksOff (s : State) (cs : List Char) : Bool :=
  s.needsJoin && !(match cs.reverse with
    | '\n' :: '\\' :: _ => true
    | _ => false)

theorem stringLine_of_none {n : Nat} {s : State} {o : OpenString} {cs : List Char}
    (h : stringEnd o.quote o.long [] cs = none) : stringLine n s o cs =
      if breaksOff s cs then
        ([⟨.error, String.ofList (o.text ++ cs), o.line, o.column⟩], { s with open? := none })
      else ([], { s with open? := some { o with text := o.text ++ cs } }) := by
  unfold stringLine
  rw [h]
  rfl

theorem stringLine_of_some {n : Nat} {s : State} {o : OpenString} {cs taken rest : List Char}
    (h : stringEnd o.quote o.long [] cs = some (taken, rest)) : stringLine n s o cs =
      (⟨.string, String.ofList (o.text ++ taken), o.line, o.column⟩ ::
          (restOfLine n (rest.length + 1) taken.length
            { s with open? := none, needsJoin := false } rest).1,
        (restOfLine n (rest.length + 1) taken.length
          { s with open? := none, needsJoin := false } rest).2) := by
  unfold stringLine
  rw [h]

/-! ## How a line starts -/

/-- The levels of a line that starts a statement, with the marks for what changes. -/
def Levels (n width : Nat) (blanks : List Char) (indents : List Nat) (marks : List Lexeme)
    (indents' : List Nat) : Prop :=
  if indents.head?.getD 0 < width then
    marks = [⟨.indent, String.ofList blanks, n, 0⟩] ∧ indents' = width :: indents
  else ∃ m, leaveLevels width indents = some (m, indents') ∧
    marks = List.replicate m ⟨.dedent, "", n, blanks.length⟩

/-- A line starts with some characters, which give lexemes, and is then read from a state on: behind
its indentation if it starts a statement, behind the end of an open string, or from its first
character. -/
inductive Opens (n : Nat) (s : State) : (done w : List Char) → List Lexeme → State → Prop
  | fresh {blanks w : List Char} {c : Char} {marks : List Lexeme} {indents : List Nat}
      (hopen : s.open? = none) (hdepth : s.depth = 0) (hjoined : s.joined = false)
      (hblanks : ∀ c ∈ blanks, isGap c) (hhead : w.head? = some c) (hgap : ¬ isGap c)
      (hmark : c ≠ '#') (hend : c ≠ '\n')
      (hlevels : Levels n (indentation 0 blanks).1 blanks s.indents marks indents) :
      Opens n s blanks w marks { s with indents }
  | string {o : OpenString} {taken w : List Char} (hopen : s.open? = some o)
      (hread : ∀ rest, stringEnd o.quote o.long [] (taken ++ rest) = some (taken, rest))
      (hlast : taken.getLast? = some o.quote) :
      Opens n s taken w [⟨.string, String.ofList (o.text ++ taken), o.line, o.column⟩]
        { s with open? := none, needsJoin := false }
  | goesOn {w : List Char} (hopen : s.open? = none) (hnot : ¬ (s.depth = 0 ∧ s.joined = false)) :
      Opens n s [] w [] { s with joined := false }

/-- What a line reads depends on its own characters up to where it is cut. -/
theorem Opens.cut {n : Nat} {s s₁ : State} {done w u rest : List Char} {here : List Lexeme}
    (h : Opens n s done w here s₁) (hw : w = u ++ rest) (hu : ∃ c ∈ done ++ u, ¬ isGap c) :
    Opens n s done u here s₁ := by
  cases h with
  | fresh hopen hdepth hjoined hblanks hhead hgap hmark hend hlevels =>
    obtain ⟨d, hd, hnot⟩ := hu
    have hd : d ∈ u := (List.mem_append.1 hd).resolve_left fun hb => hnot (hblanks d hb)
    cases u with
    | nil => cases hd
    | cons a u =>
      refine .fresh hopen hdepth hjoined hblanks ?_ hgap hmark hend hlevels
      rw [hw] at hhead
      exact hhead
  | string hopen hread hlast => exact .string hopen hread hlast
  | goesOn hopen hnot => exact .goesOn hopen hnot

/-- A line that starts so is scanned so. -/
theorem Opens.scanLine {n : Nat} {s s₁ s' : State} {done w : List Char} {here ls : List Lexeme}
    (h : Opens n s done w here s₁) (hread : Reads n done.length s₁ (w ++ ['\n']) ls s') :
    scanLine n s (done ++ w ++ ['\n']) = .ok (here ++ ls, s') := by
  cases h with
  | @fresh blanks w c marks indents hopen hdepth hjoined hblanks hhead hgap hmark hend hlevels =>
    obtain ⟨rest, rfl⟩ := List.head?_eq_some_iff.1 hhead
    have hindent : indentation 0 (done ++ (c :: rest ++ ['\n'])) = ((indentation 0 done).1, done) :=
      indentation_append (by simpa using hgap) hblanks 0
    have hrest : restOfLine n ((c :: rest ++ ['\n']).length + 1) done.length
        { s with indents } (c :: rest ++ ['\n']) = (ls, s') := hread.restOfLine_eq (Nat.lt_succ_self _)
    rw [scanLine_of_none hopen, if_pos (by simp [hdepth, hjoined])]
    rw [List.append_assoc, freshLine, hindent]
    simp only [List.drop_left]
    split
    · next heq => exact absurd (List.cons.inj heq).1 hmark
    · next heq => exact absurd (List.cons.inj heq).1 hend
    · unfold Levels at hlevels
      split at hlevels
      · next hdeeper =>
        obtain ⟨rfl, rfl⟩ := hlevels
        rw [if_pos hdeeper, hrest]
      · next hdeeper =>
        obtain ⟨m, hleave, rfl⟩ := hlevels
        simp only [if_neg hdeeper, hleave, hrest]
  | @string o taken w hopen hends hlast =>
    have hrest := hread.restOfLine_eq (Nat.lt_succ_self (w ++ ['\n']).length)
    rw [scanLine_of_some hopen, List.append_assoc, stringLine_of_some (hends _), hrest]
    rfl
  | goesOn hopen hnot =>
    rw [scanLine_of_none hopen, if_neg (by simpa using hnot)]
    exact congrArg Except.ok (hread.restOfLine_eq (Nat.lt_succ_self _))

/-- A line falls into what it starts with, which gives no comment, and the rest. -/
def Opened (n : Nat) (s : State) (content : List Char) (row : List Lexeme) (s' : State) : Prop :=
  ∃ done w here ls s₁, content = done ++ w ∧ row = here ++ ls ∧ (∀ x ∈ here, x.kind ≠ .comment) ∧
    Opens n s done w here s₁ ∧ Reads n done.length s₁ (w ++ ['\n']) ls s'

section Comment

variable {n : Nat} {s s' : State} {content : List Char} {row : List Lexeme} {l : Lexeme}

/-- A line with a comment that goes on with an open string closes it. -/
theorem opened_of_string {o : OpenString} (hopen : s.open? = some o)
    (h : stringLine n s o (content ++ ['\n']) = (row, s')) (hl : l ∈ row) (hk : l.kind = .comment) :
    Opened n s content row s' := by
  rcases hends : stringEnd o.quote o.long [] (content ++ ['\n']) with _ | ⟨taken, rest⟩
  · rw [stringLine_of_none hends] at h
    split at h
    · obtain ⟨rfl, rfl⟩ := Prod.mk.inj h
      obtain rfl := List.mem_singleton.1 hl
      cases hk
    · obtain ⟨rfl, rfl⟩ := Prod.mk.inj h
      cases hl
  · rw [stringLine_of_some hends] at h
    obtain ⟨front, htaken, hsplit, hlocal⟩ := stringEnd_ends hends
    rw [List.reverse_nil, List.nil_append] at htaken
    obtain rfl := htaken
    have hread := reads_rest n (front ++ closing o.quote o.long).length
      { s with open? := none, needsJoin := false } rest
    obtain ⟨rfl, rfl⟩ := Prod.mk.inj h
    rcases rest_of_closed _ hsplit.symm with rfl | ⟨w, rfl, rfl⟩
    · rw [hread.nil.1] at hl
      obtain rfl := List.mem_singleton.1 hl
      cases hk
    · refine ⟨_, w, [_], _, _, rfl, rfl, by simp, .string hopen hlocal ?_, hread⟩
      cases o.long <;> simp [closing, List.getLast?_append]

/-- What is read of a line that starts a statement with neither a comment nor a line end. -/
theorem opened_of_statement {blanks w rest : List Char} {c : Char} (hopen : s.open? = none)
    (hdepth : s.depth = 0) (hjoined : s.joined = false) (hgap : ∀ c ∈ blanks, isGap c)
    (hhead : w.head? = some c) (hc : ¬ isGap c) (hmark : c ≠ '#') (hend : c ≠ '\n')
    (hrest : rest = w ++ ['\n'])
    (h : (if s.indents.head?.getD 0 < (indentation 0 blanks).1 then
        .ok ([⟨.indent, String.ofList blanks, n, 0⟩] ++
            (restOfLine n (rest.length + 1) blanks.length
              { s with indents := (indentation 0 blanks).1 :: s.indents } rest).1,
          (restOfLine n (rest.length + 1) blanks.length
            { s with indents := (indentation 0 blanks).1 :: s.indents } rest).2)
      else match leaveLevels (indentation 0 blanks).1 s.indents with
        | some (m, indents) =>
          .ok (List.replicate m ⟨.dedent, "", n, blanks.length⟩ ++
              (restOfLine n (rest.length + 1) blanks.length { s with indents } rest).1,
            (restOfLine n (rest.length + 1) blanks.length { s with indents } rest).2)
        | none => .error .indentation) = (.ok (row, s') : Except ScanError (List Lexeme × State))) :
    Opened n s (blanks ++ w) row s' := by
  subst hrest
  have hread (indents : List Nat) := reads_rest n blanks.length { s with indents } (w ++ ['\n'])
  have hopens (marks : List Lexeme) (indents : List Nat)
      (hlevels : Levels n (indentation 0 blanks).1 blanks s.indents marks indents) :
      Opens n s blanks w marks { s with indents } :=
    .fresh hopen hdepth hjoined hgap hhead hc hmark hend hlevels
  split at h
  · next hdeeper =>
    obtain ⟨rfl, rfl⟩ := Prod.mk.inj (Except.ok.inj h)
    refine ⟨blanks, w, [_], _, _, rfl, rfl, by simp, hopens _ _ ?_, hread _⟩
    rw [Levels, if_pos hdeeper]
    exact ⟨rfl, rfl⟩
  · next hdeeper =>
    split at h
    · next m indents hleave =>
      obtain ⟨rfl, rfl⟩ := Prod.mk.inj (Except.ok.inj h)
      refine ⟨blanks, w, List.replicate m _, _, _, rfl, rfl, ?_, hopens _ _ ?_, hread _⟩
      · intro x hx
        rw [List.eq_of_mem_replicate hx]
        simp
      · rw [Levels, if_neg hdeeper]
        exact ⟨m, hleave, rfl⟩
    · cases h

/-- A line with a comment that starts a statement, or would start one, holds nothing but the comment
or opens a statement. -/
theorem opened_of_fresh (hopen : s.open? = none) (hdepth : s.depth = 0) (hjoined : s.joined = false)
    (h : freshLine n s (content ++ ['\n']) = .ok (row, s')) (hn : '\n' ∉ content) (hl : l ∈ row)
    (hk : l.kind = .comment) :
    (s' = s ∧ ∃ g z, content = g ++ '#' :: z ∧ (∀ c ∈ g, isGap c) ∧
      row = [⟨.comment, String.ofList ('#' :: z), n, g.length⟩, ⟨.break, "\n", n, content.length⟩]) ∨
    Opened n s content row s' := by
  rw [freshLine, indentation_eq] at h
  simp only [drop_takeWhile] at h
  have hcontent := List.takeWhile_append_dropWhile (p := isGap) (l := content ++ ['\n'])
  have hgap : ∀ c ∈ (content ++ ['\n']).takeWhile isGap, isGap c := fun c hc =>
    List.mem_takeWhile_imp hc
  have hhead := List.head?_dropWhile_not isGap (content ++ ['\n'])
  generalize (content ++ ['\n']).takeWhile isGap = blanks at h hcontent hgap
  generalize (content ++ ['\n']).dropWhile isGap = rest at h hcontent hhead
  split at h
  · next z =>
    left
    obtain ⟨rfl, rfl⟩ := Prod.mk.inj (Except.ok.inj h)
    rcases rest_of_closed (blanks ++ ['#']) (by simpa using hcontent) with rfl | ⟨z, rfl, rfl⟩
    · simpa using (List.append_inj' hcontent rfl).2
    · have hz : '\n' ∉ z := fun hm => hn (by simp [hm])
      have htake : ('#' :: (z ++ ['\n'])).takeWhile (· ≠ '\n') = '#' :: z := by
        rw [List.takeWhile_cons_of_pos (by decide), takeWhile_line hz]
      have hdrop : ('#' :: (z ++ ['\n'])).dropWhile (· ≠ '\n') = ['\n'] := by
        rw [List.dropWhile_cons_of_pos (by decide), dropWhile_line hz]
      refine ⟨rfl, blanks, z, by simp, hgap, ?_⟩
      rw [htake, hdrop]
      simp
  · obtain ⟨rfl, rfl⟩ := Prod.mk.inj (Except.ok.inj h)
    obtain rfl := List.mem_singleton.1 hl
    cases hk
  · next hmark hend =>
    right
    obtain ⟨c, rest, rfl⟩ : ∃ c more, rest = c :: more := by
      cases rest with
      | cons c more => exact ⟨c, more, rfl⟩
      | nil =>
        rw [List.append_nil] at hcontent
        exact absurd (hgap '\n' (by rw [hcontent]; simp)) (by decide)
    have hend' : c ≠ '\n' := fun hc => hend rest (by rw [hc])
    rcases rest_of_closed blanks hcontent with hnil | ⟨w, hw, rfl⟩
    · cases hnil
    have hhead' : w.head? = some c := by
      cases w with
      | nil => exact absurd (List.cons.inj hw).1 hend'
      | cons d w => rw [(List.cons.inj hw).1, List.head?_cons]
    exact opened_of_statement hopen hdepth hjoined hgap hhead' (by simpa using hhead)
      (fun hc => hmark rest (by rw [hc])) hend' hw h

/-- A line with a comment opens so, or it starts a statement and holds nothing else. -/
theorem opens_of_comment (h : scanLine n s (content ++ ['\n']) = .ok (row, s')) (hn : '\n' ∉ content)
    (hl : l ∈ row) (hk : l.kind = .comment) :
    (s.open? = none ∧ s.depth = 0 ∧ s.joined = false ∧ s' = s ∧ ∃ g z, content = g ++ '#' :: z ∧
      (∀ c ∈ g, isGap c) ∧ row = [⟨.comment, String.ofList ('#' :: z), n, g.length⟩,
        ⟨.break, "\n", n, content.length⟩]) ∨
    Opened n s content row s' := by
  cases hopen : s.open? with
  | some o =>
    rw [scanLine_of_some hopen] at h
    exact .inr (opened_of_string hopen (Except.ok.inj h) hl hk)
  | none =>
    rw [scanLine_of_none hopen] at h
    split at h
    · next hfresh =>
      obtain ⟨hdepth, hjoined⟩ : s.depth = 0 ∧ s.joined = false := by simpa using hfresh
      exact (opened_of_fresh hopen hdepth hjoined h hn hl hk).imp_left fun hall =>
        ⟨rfl, hdepth, hjoined, hall⟩
    · next hfresh =>
      have hread := reads_rest n 0 { s with joined := false } (content ++ ['\n'])
      rw [Except.ok.inj h] at hread
      exact .inr ⟨[], content, [], row, _, rfl, rfl, by simp, .goesOn hopen (by simpa using hfresh),
        hread⟩

end Comment

/-! ## Comments of a line -/

section Comment

variable {n : Nat} {s s' : State} {content : List Char} {row : List Lexeme} {l : Lexeme}

/-- A line has one comment at most, and that ends it. -/
theorem endsWith_of_scanLine (h : scanLine n s (content ++ ['\n']) = .ok (row, s'))
    (hn : '\n' ∉ content) (hl : l ∈ row) (hk : l.kind = .comment) :
    ∃ front z ls₀ e, content = front ++ '#' :: z ∧
      l = ⟨.comment, String.ofList ('#' :: z), n, front.length⟩ ∧ row = ls₀ ++ [l, e] ∧
      e.kind ≠ .comment ∧ ∀ x ∈ ls₀, x.kind ≠ .comment := by
  rcases opens_of_comment h hn hl hk with
    ⟨-, -, -, -, g, z, rfl, -, rfl⟩ | ⟨done, w, here, ls, s₁, rfl, rfl, hhere, -, hread⟩
  · have hlast : (⟨.break, "\n", n, (g ++ '#' :: z).length⟩ : Lexeme).kind ≠ .comment := by simp
    obtain rfl := (List.mem_pair.1 hl).resolve_right fun heq => hlast (heq ▸ hk)
    exact ⟨g, z, [], _, rfl, rfl, rfl, hlast, by simp⟩
  · replace hl : l ∈ ls := (List.mem_append.1 hl).resolve_left fun hh => hhere l hh hk
    obtain ⟨front, z, ls₀, rfl, hl', rfl, hls₀⟩ :=
      hread.endsWith (fun hm => hn (List.mem_append_right _ hm)) hl hk
    refine ⟨done ++ front, z, here ++ ls₀, _, by simp, ?_, (List.append_assoc ..).symm, lineEnd_kind,
      fun x hx => ?_⟩
    · rw [hl', List.length_append]
    · exact (List.mem_append.1 hx).elim (hhere x) (hls₀ x)

/-- Strings open with quotes. -/
def State.Quoted (s : State) : Prop := ∀ o, s.open? = some o → IsQuote o.quote

/-- What a line starts with does not reach into blanks behind other characters. -/
theorem Opens.exists_of_cut {s₁ : State} {done w u g rest : List Char} {here : List Lexeme}
    (h : Opens n s done w here s₁) (hs : s.Quoted) (hg : ∀ c ∈ g, isGap c)
    (hu : ∃ c ∈ u, ¬ isGap c) (hsplit : u ++ g ++ rest = done ++ w)
    (hle : done.length ≤ (u ++ g).length) : ∃ u', u = done ++ u' := by
  obtain ⟨b, hb, -⟩ := exists_of_length_le hsplit hle
  rcases List.append_eq_append_iff.1 hb with ⟨a, hdone, rfl⟩ | ⟨u', rfl, -⟩
  · cases h with
    | fresh hopen hdepth hjoined hblanks =>
      obtain ⟨c, hc, hnot⟩ := hu
      exact absurd (hblanks c (hdone ▸ List.mem_append_left a hc)) hnot
    | @string o _ _ hopen hread hlast =>
      cases a with
      | nil => exact ⟨[], by simp [hdone]⟩
      | cons d a =>
        rw [hdone, List.getLast?_append_of_ne_nil _ (List.cons_ne_nil d a)] at hlast
        have hgap := hg o.quote (List.mem_append_left _ (List.mem_of_getLast? hlast))
        exact absurd hgap (by obtain hq | hq := hs o hopen <;> rw [hq] <;> decide)
    | goesOn => exact ⟨u, rfl⟩
  · exact ⟨u', rfl⟩

/-- Without its trailing comment and the blanks before it a line gives the same lexemes otherwise. -/
theorem scanLine_cut (h : scanLine n s (content ++ ['\n']) = .ok (row, s')) (hs : s.Quoted)
    (hn : '\n' ∉ content) (hl : l ∈ row) (hk : l.kind = .comment) {u g : List Char}
    (hcut : content.take l.column = u ++ g) (hg : ∀ c ∈ g, isGap c) (hu : ∃ c ∈ u, ¬ isGap c)
    (hb : u.getLast? ≠ some '\\') :
    ∃ ls₀ e, row = ls₀ ++ [l, e] ∧ (∀ x ∈ ls₀, x.kind ≠ .comment) ∧ e.kind ≠ .comment ∧
      scanLine n s (u ++ ['\n']) = .ok (ls₀ ++ [{ e with column := u.length }], s') := by
  obtain ⟨front, z, ls₀, e, rfl, hcomment, hrow, he, hls₀⟩ := endsWith_of_scanLine h hn hl hk
  obtain rfl : front = u ++ g := by simpa [hcomment] using hcut
  refine ⟨ls₀, e, hrow, hls₀, he, ?_⟩
  rcases opens_of_comment h hn hl hk with
    ⟨-, -, -, -, g', z', heq, hg', hrow'⟩ | ⟨done, w, here, ls, s₁, hcontent, hrow', hhere, hopens, hread⟩
  · exfalso
    have hfirst : l = ⟨.comment, String.ofList ('#' :: z'), n, g'.length⟩ := by
      rw [hrow'] at hl
      exact (List.mem_pair.1 hl).resolve_right fun hbreak => by simp [hbreak] at hk
    rw [hcomment] at hfirst
    have hlen : (u ++ g).length = g'.length := congrArg Lexeme.column hfirst
    obtain ⟨c, hc, hnot⟩ := hu
    exact hnot (hg' c ((List.append_inj heq hlen).1 ▸ List.mem_append_left g hc))
  · have hl' : l ∈ ls := (List.mem_append.1 (hrow' ▸ hl)).resolve_left fun hh => hhere l hh hk
    have hplace : done.length ≤ (u ++ g).length := by
      have hcolumn := (hread.place l hl').2
      rwa [hcomment] at hcolumn
    obtain ⟨u', rfl⟩ := hopens.exists_of_cut hs hg hu hcontent hplace
    obtain rfl : w = u' ++ (g ++ '#' :: z) := by simpa using hcontent.symm
    have hz : '\n' ∉ z := fun hm => hn (by simp [hm])
    have hu' : '\n' ∉ u' := fun hm => hn (by simp [hm])
    rw [List.append_assoc, List.append_assoc, List.cons_append] at hread
    obtain ⟨ls₁, e₁, rfl, he₁, hls₁, htrimmed⟩ := hread.trims hg hz hu' (getLast?_rest done hb) hl' hk
      (by rw [hcomment]; simp)
    have hend : ls₀ = here ++ ls₁ ∧ e = e₁ := by
      rw [hrow, ← List.append_assoc] at hrow'
      obtain ⟨hfront, htail⟩ := List.append_inj' hrow' rfl
      exact ⟨hfront, (List.cons.inj (List.cons.inj htail).2).1⟩
    obtain ⟨rfl, rfl⟩ := hend
    have hshort := (hopens.cut rfl hu).scanLine htrimmed
    rwa [← List.append_assoc, ← List.length_append] at hshort

/-- A state in which a line break ends no statement. -/
def State.Clear (s : State) : Prop :=
  s.open? = none ∧ (0 < s.depth ∨ s.depth = 0 ∧ s.joined = false)

/-- A line that gives a comment behind blanks and nothing of the program is passed over. -/
theorem scanLine_silent (h : scanLine n s (content ++ ['\n']) = .ok (row, s')) (hs : s.Quoted)
    (hn : '\n' ∉ content) (hl : l ∈ row) (hk : l.kind = .comment)
    (hblank : ∀ c ∈ content.take l.column, isBlank c)
    (hsilent : ∀ x ∈ row, x.line = n → x.kind = .comment ∨ x.kind = .break) :
    s.Clear ∧ s' = { s with joined := false } ∧ ∀ x ∈ row, x.kind = .comment ∨ x.kind = .break := by
  rcases opens_of_comment h hn hl hk with
    ⟨hopen, hdepth, hjoined, rfl, g, z, -, -, rfl⟩ | ⟨done, w, here, ls, s₁, rfl, rfl, hhere, hopens, hread⟩
  · refine ⟨⟨hopen, .inr ⟨hdepth, hjoined⟩⟩, ?_, by simp⟩
    rw [← hjoined]
  · replace hl : l ∈ ls := (List.mem_append.1 hl).resolve_left fun hh => hhere l hh hk
    have hw : '\n' ∉ w := fun hm => hn (List.mem_append_right _ hm)
    obtain ⟨rfl, g, z, -, hls, -⟩ := hread.of_silent hw hl hk fun x hx =>
      hsilent x (List.mem_append_right _ hx) (hread.place x hx).1
    have hend := hsilent (lineEnd n (done.length + w.length) s') (by simp [hls]) rfl
    cases hopens with
    | fresh hopen hdepth => simp [lineEnd, hdepth] at hend
    | @string o _ _ hopen hends hlast =>
      -- The quote that ends the string is no blank.
      have hplace : done.length ≤ l.column := (hread.place l hl).2
      have hmem : o.quote ∈ (done ++ w).take l.column := by
        rw [List.take_append]
        refine List.mem_append_left _ ?_
        rw [List.take_of_length_le hplace]
        exact List.mem_of_getLast? hlast
      have hquote := hblank _ hmem
      obtain hq | hq := hs o hopen <;> rw [hq] at hquote <;> exact absurd hquote (by decide)
    | goesOn hopen hnot =>
      have hdepth : 0 < s.depth := by
        by_contra hnone
        simp [lineEnd, hnone] at hend
      exact ⟨⟨hopen, .inl hdepth⟩, rfl, fun x hx => hsilent x hx (hread.place x hx).1⟩

/-- An empty line is passed over where a line break ends no statement. -/
theorem scanLine_empty (hs : s.Clear) :
    scanLine n s ['\n'] = .ok ([⟨.break, "\n", n, 0⟩], { s with joined := false }) := by
  obtain ⟨hopen, hdepth | ⟨hdepth, hjoined⟩⟩ := hs
  · have hread : Reads n 0 { s with joined := false } ([] ++ ['\n']) _ _ := reads_end (by simp)
    rw [scanLine_of_none hopen, if_neg (by omega)]
    refine congrArg Except.ok ((hread.restOfLine_eq (Nat.lt_succ_self _)).trans ?_)
    simp [lineEnd, hdepth]
  · rw [scanLine_of_none hopen, if_pos (by simp [hdepth, hjoined]), ← hjoined]
    rfl

end Comment

/-! ## Lines that move -/

theorem restOfLine_onLine (n column : Nat) {s : State} (hs : s.open? = none) (cs : List Char)
    (k : Nat) : restOfLine k (cs.length + 1) column s cs =
      ((restOfLine n (cs.length + 1) column s cs).1.map (onLine k),
        (restOfLine n (cs.length + 1) column s cs).2.onLine k) :=
  ((reads_rest n column s cs).onLine hs k).restOfLine_eq (Nat.lt_succ_self _)

theorem freshLine_onLine {n : Nat} {s : State} (hs : s.open? = none) (cs : List Char) (k : Nat) :
    freshLine k s cs = (freshLine n s cs).map fun r => (r.1.map (onLine k), r.2.onLine k) := by
  unfold freshLine
  rcases indentation 0 cs with ⟨width, blanks⟩
  dsimp only
  generalize cs.drop blanks.length = rest
  have hrest (indents : List Nat) :
      restOfLine k (rest.length + 1) blanks.length { s with indents } rest = _ :=
    restOfLine_onLine n _ (s := { s with indents }) hs rest k
  split
  · simp [Except.map, onLine, State.onLine_of_none hs]
  · simp [Except.map, onLine, State.onLine_of_none hs]
  · split
    · rw [hrest]
      simp [Except.map, onLine]
    · split
      · rw [hrest]
        simp [Except.map, onLine]
      · rfl

/-- States that differ in the line where an open string started, and inside brackets also in a
backslash at the end of the line before. -/
structure State.Like (t s : State) : Prop where
  same : { t with joined := s.joined }.onLine 0 = s.onLine 0
  joined : t.joined = s.joined ∨ 0 < s.depth ∧ s.open? = none

theorem State.Like.refl (s : State) : s.Like s := ⟨rfl, .inl rfl⟩

theorem State.onLine_like (s : State) (k : Nat) : (s.onLine k).Like s := by
  obtain ⟨depth, joined, open?, needsJoin, indents⟩ := s
  cases open? <;> exact ⟨rfl, .inl rfl⟩

theorem State.Like.of_none {t s : State} (h : t.Like s) (hs : s.open? = none) :
    ∃ joined, t = { s with joined } ∧ (joined = s.joined ∨ 0 < s.depth) := by
  obtain ⟨depth, joined, open?, needsJoin, indents⟩ := s
  obtain ⟨depth', joined', open', needsJoin', indents'⟩ := t
  obtain ⟨hsame, hjoined⟩ := h
  simp only at hs
  subst hs
  simp only [State.onLine, Option.map_none, State.mk.injEq, Option.map_eq_none_iff] at hsame
  obtain ⟨rfl, -, rfl, rfl, rfl⟩ := hsame
  exact ⟨joined', rfl, hjoined.imp_right And.left⟩

theorem State.Clear.forget {s : State} (h : s.Clear) : State.Clear { s with joined := false } :=
  ⟨h.1, h.2.imp_right fun h => ⟨h.1, rfl⟩⟩

/-- A line that is passed over may have been there or not. -/
theorem State.Like.forget {t s : State} (h : t.Like s) (hs : s.Clear) :
    t.Like { s with joined := false } := by
  obtain ⟨hopen, hdepth | ⟨-, hjoined⟩⟩ := hs
  · refine ⟨?_, .inr ⟨hdepth, hopen⟩⟩
    obtain ⟨joined, rfl, -⟩ := h.of_none hopen
    rfl
  · rw [← hjoined]
    exact h

theorem State.Like.of_some {t s : State} (h : t.Like s) {o : OpenString} (hs : s.open? = some o) :
    ∃ line, t = { s with open? := some { o with line } } := by
  obtain ⟨depth, joined, open?, needsJoin, indents⟩ := s
  obtain ⟨depth', joined', open', needsJoin', indents'⟩ := t
  obtain ⟨hsame, hjoined⟩ := h
  simp only at hs
  subst hs
  simp only [reduceCtorEq, and_false, or_false] at hjoined
  subst hjoined
  simp only [State.onLine, Option.map_some, State.mk.injEq, Option.map_eq_some_iff] at hsame
  obtain ⟨rfl, -, ⟨o', rfl, ho⟩, rfl, rfl⟩ := hsame
  refine ⟨o'.line, ?_⟩
  obtain ⟨q, long, text, line, column⟩ := o
  obtain ⟨q', long', text', line', column'⟩ := o'
  simp only [OpenString.mk.injEq] at ho
  obtain ⟨rfl, rfl, rfl, -, rfl⟩ := ho
  rfl

/-- A lexeme wherever it stands. -/
def shape (l : Lexeme) : LexemeKind × String × Nat := (l.kind, l.text, l.column)

theorem map_shape_onLine (k : Nat) (ls : List Lexeme) : (ls.map (onLine k)).map shape = ls.map shape := by
  rw [List.map_map]
  rfl

/-- A line is scanned alike wherever it stands. -/
theorem scanLine_like {n : Nat} {t s s' : State} {cs : List Char} {row : List Lexeme}
    (h : scanLine n s cs = .ok (row, s')) (ht : t.Like s) (k : Nat) :
    ∃ row' t', scanLine k t cs = .ok (row', t') ∧ row'.map shape = row.map shape ∧ t'.Like s' := by
  cases hs : s.open? with
  | none =>
    obtain ⟨joined, rfl, hjoined⟩ := ht.of_none hs
    rw [scanLine_of_none hs] at h
    have hline := scanLine_of_none (n := k) (s := { s with joined }) hs cs
    rw [hline]
    split at h
    · next hfresh =>
      obtain rfl : joined = s.joined := hjoined.resolve_right (by omega)
      rw [if_pos hfresh]
      refine ⟨row.map (onLine k), s'.onLine k, ?_, map_shape_onLine k row, s'.onLine_like k⟩
      rw [freshLine_onLine hs cs k, h]
      rfl
    · next hfresh =>
      have hfresh' : ¬ (s.depth = 0 ∧ (!joined) = true) := by
        rintro ⟨hdepth, hj⟩
        rcases hjoined with rfl | hpos
        · exact hfresh ⟨hdepth, hj⟩
        · omega
      rw [if_neg hfresh']
      obtain ⟨rfl, rfl⟩ := Prod.mk.inj (Except.ok.inj h)
      refine ⟨_, _, congrArg Except.ok (restOfLine_onLine n 0 (s := { s with joined := false }) hs cs k),
        map_shape_onLine k _, State.onLine_like _ k⟩
  | some o =>
    obtain ⟨line, rfl⟩ := ht.of_some hs
    rw [scanLine_of_some hs] at h
    have hline := scanLine_of_some (n := k) (s := { s with open? := some { o with line } }) rfl cs
    rw [hline]
    rcases hends : stringEnd o.quote o.long [] cs with _ | ⟨taken, rest⟩
    · rw [stringLine_of_none hends] at h
      rw [stringLine_of_none (o := { o with line }) hends]
      have hbreaks : breaksOff { s with open? := some { o with line } } cs = breaksOff s cs := rfl
      rw [hbreaks]
      by_cases hbroken : breaksOff s cs = true
      · rw [if_pos hbroken] at h ⊢
        obtain ⟨rfl, rfl⟩ := Prod.mk.inj (Except.ok.inj h)
        exact ⟨_, _, rfl, rfl, .refl _⟩
      · rw [if_neg hbroken] at h ⊢
        obtain ⟨rfl, rfl⟩ := Prod.mk.inj (Except.ok.inj h)
        exact ⟨_, _, rfl, rfl, rfl, .inl rfl⟩
    · rw [stringLine_of_some hends] at h
      rw [stringLine_of_some (o := { o with line }) hends]
      obtain ⟨rfl, rfl⟩ := Prod.mk.inj (Except.ok.inj h)
      have hrest := restOfLine_onLine n taken.length
        (s := { s with open? := none, needsJoin := false }) rfl rest k
      refine ⟨_, _, rfl, ?_, ?_⟩
      · rw [hrest, List.map_cons, map_shape_onLine, List.map_cons]
        rfl
      · rw [hrest]
        exact State.onLine_like _ k

/-! ## Open strings -/

theorem Reads.quoted {line column : Nat} {s s' : State} {cs : List Char} {ls : List Lexeme}
    (h : Reads line column s cs ls s') (hs : s.Quoted) : s'.Quoted := by
  induction h with
  | blank => exact hs
  | error hp hne more ih => exact ih hs
  | piece hg hp he more ih =>
    refine ih fun o ho => hs o ?_
    rwa [← (Piece.emit_place he).2]
  | long hg hp he more ih => exact ih hs
  | openShort hg hp =>
    rintro o ⟨⟩
    simpa using piece?_kind hp
  | openLong hg hp =>
    rintro o ⟨⟩
    simpa using piece?_kind hp

theorem restOfLine_quoted (n column : Nat) {s : State} (hs : s.Quoted) (cs : List Char) :
    (restOfLine n (cs.length + 1) column s cs).2.Quoted :=
  (reads_rest n column s cs).quoted hs

theorem scanLine_quoted {n : Nat} {s s' : State} {cs : List Char} {row : List Lexeme}
    (h : scanLine n s cs = .ok (row, s')) (hs : s.Quoted) : s'.Quoted := by
  cases hopen : s.open? with
  | some o =>
    have hq := hs o hopen
    rw [scanLine_of_some hopen] at h
    rcases hends : stringEnd o.quote o.long [] cs with _ | ⟨taken, rest⟩
    · rw [stringLine_of_none hends] at h
      split at h
      · cases h
        rintro o' ⟨⟩
      · cases h
        rintro o' ⟨⟩
        exact hq
    · rw [stringLine_of_some hends] at h
      cases h
      exact restOfLine_quoted n _ (by rintro o' ⟨⟩) rest
  | none =>
    rw [scanLine_of_none hopen] at h
    split at h
    · unfold freshLine at h
      dsimp only at h
      have hrest (column : Nat) (indents : List Nat) (rest : List Char) :
          (restOfLine n (rest.length + 1) column { s with indents } rest).2.Quoted :=
        restOfLine_quoted n column (s := { s with indents }) hs rest
      split at h
      · cases h
        exact hs
      · cases h
        exact hs
      · split at h
        · cases h
          exact hrest _ _ _
        · split at h
          · cases h
            exact hrest _ _ _
          · cases h
    · have hquoted := restOfLine_quoted n 0 (s := { s with joined := false }) hs cs
      rwa [Except.ok.inj h] at hquoted

/-! ## Many lines -/

/-- The scan of some lines by what each of them gives. -/
inductive Scanned : Nat → State → List (List Char) → List (List Lexeme) → State → Prop
  | nil {n : Nat} {s : State} : Scanned n s [] [] s
  | cons {n : Nat} {s s₁ s₂ : State} {content : List Char} {contents : List (List Char)}
      {row : List Lexeme} {rows : List (List Lexeme)}
      (hrow : scanLine n s (content ++ ['\n']) = .ok (row, s₁))
      (hrows : Scanned (n + 1) s₁ contents rows s₂) :
      Scanned n s (content :: contents) (row :: rows) s₂

/-- A scan may end here. -/
structure State.Done (s : State) : Prop where
  closed : s.open? = none
  depth : s.depth = 0
  joined : s.joined = false

/-- The lexemes at the end of a text. -/
def ending (line : Nat) (s : State) : List Lexeme :=
  List.replicate (s.indents.length - 1) ⟨.dedent, "", line, 0⟩ ++ [⟨.endOfInput, "", line, 0⟩]

theorem scanLines_eq_ok {n : Nat} {s : State} {contents : List (List Char)} {found : List Lexeme} :
    scanLines n s (contents.map (· ++ ['\n'])) = .ok found ↔
      ∃ rows s', Scanned n s contents rows s' ∧ s'.Done ∧
        found = rows.flatten ++ ending (n + contents.length) s' := by
  induction contents generalizing n s found with
  | nil =>
    simp only [List.map_nil, scanLines, List.length_nil, Nat.add_zero]
    constructor
    · intro h
      split at h
      · cases h
      · next hclosed =>
        split at h
        · next hdone =>
          cases h
          exact ⟨[], s, .nil, ⟨by simpa using hclosed, hdone.1, by simpa using hdone.2⟩, rfl⟩
        · cases h
    · rintro ⟨rows, s', hrows, hdone, rfl⟩
      cases hrows
      rw [if_neg (by simp [hdone.closed]), if_pos ⟨hdone.depth, by simp [hdone.joined]⟩]
      rfl
  | cons content contents ih =>
    have hlen : n + 1 + contents.length = n + (contents.length + 1) := by omega
    simp only [List.map_cons, scanLines, bind, Except.bind, pure, Except.pure, List.length_cons]
    constructor
    · intro h
      split at h
      · cases h
      · next r hrow =>
        obtain ⟨row, s₁⟩ := r
        dsimp only at h
        split at h
        · cases h
        · next more hmore =>
          cases h
          obtain ⟨rows, s', hrows, hdone, rfl⟩ := ih.1 hmore
          refine ⟨row :: rows, s', .cons hrow hrows, hdone, ?_⟩
          rw [List.flatten_cons, List.append_assoc, hlen]
    · rintro ⟨rows, s', hrows, hdone, rfl⟩
      cases hrows with
      | @cons _ _ s₁ _ _ _ row rows hrow hrows =>
        have hmore := ih.2 ⟨rows, s', hrows, hdone, rfl⟩
        rw [hrow]
        dsimp only
        rw [hmore]
        rw [List.flatten_cons, List.append_assoc, hlen]

end Pseudonym.Python.Scan
