import Mathlib.Data.String.Basic
import Pseudonym.Extraction.Module
import Pseudonym.Proofs.Source.Line

/-!
# Byte columns and character columns agree

A text falls into lines in one way (`Lined.linesFrom_chars`), and on a line the byte column behind
some characters is turned into their count (`charsBefore_append`), however many bytes each of them
takes. So the span of a part of a line, given by the bytes in front of it and in it, is the span of
that part (`SourceModule.columns_exact`).
-/

namespace Pseudonym

namespace Source

theorem byteLength_eq (cs : List Char) : byteLength cs = (String.ofList cs).utf8ByteSize := by
  rw [String.utf8ByteSize_ofList]
  induction cs with
  | nil => rfl
  | cons c cs ih =>
    rw [String.utf8Len_cons, ← ih, Nat.add_comm]
    rfl

/-- As many characters stand in front as their bytes say. -/
theorem charsBefore_append (front behind : List Char) :
    charsBefore (front ++ behind) (byteLength front) = front.length := by
  induction front with
  | nil => cases behind <;> rfl
  | cons c front ih =>
    have hbytes : byteLength (c :: front) = c.utf8Size + byteLength front := rfl
    have hpos := c.utf8Size_pos
    rw [List.cons_append, charsBefore, if_neg (by omega), hbytes, Nat.add_sub_cancel_left, ih,
      List.length_cons, Nat.add_comm]

theorem charColumn_append (front behind : List Char) :
    charColumn (front ++ behind) ((String.ofList front).utf8ByteSize : Int) = front.length := by
  rw [charColumn, if_neg (by omega), Int.toNat_natCast, ← byteLength_eq, charsBefore_append]

end Source

namespace SourceModule

open Source

variable {m : SourceModule} {ls : List Line}

/-- The lines of a module are those that its text is made of. -/
theorem line?_eq (hls : Lined ls) (hsource : m.source.toList = ls.flatMap Line.chars) (n : Nat) :
    m.line? (n + 1) = ls[n]?.map (·.content) := by
  have hnumber : ((n : Int) + 1).toNat - 1 = n := by omega
  rw [line?, if_pos (by omega), hnumber, SourceModule.lines, Source.lines, hsource,
    hls.linesFrom_chars, List.getElem?_map]

/-- **Byte columns are converted exactly.** Take the lines that a text is made of. On each of them,
the column at the bytes of the first characters is their count, and the span between the bytes in
front of a part of the line and those up to its end selects that part. -/
theorem columns_exact (hls : Lined ls) (hsource : m.source.toList = ls.flatMap Line.chars)
    {n : Nat} {l : Line} (hl : ls[n]? = some l) :
    (∀ k ≤ l.content.length,
      m.charColumn (n + 1) ((String.ofList (l.content.take k)).utf8ByteSize : Int) = k) ∧
    ∀ front part behind, l.content = front ++ part ++ behind →
      ∃ s, m.span? (n + 1) (String.ofList front).utf8ByteSize
          (String.ofList (front ++ part)).utf8ByteSize = some s ∧
        s.line = n + 1 ∧ m.text? s = some (String.ofList part) := by
  have hline : m.line? (n + 1) = some l.content := by rw [line?_eq hls hsource, hl, Option.map_some]
  constructor
  · intro k hk
    have hcut := charColumn_append (l.content.take k) (l.content.drop k)
    rw [List.take_append_drop, List.length_take, Nat.min_eq_left hk] at hcut
    simp only [SourceModule.charColumn, hline, hcut]
  · intro front part behind hcontent
    have hstart := charColumn_append front (part ++ behind)
    have hstop := charColumn_append (front ++ part) behind
    rw [← List.append_assoc, ← hcontent] at hstart
    rw [← hcontent] at hstop
    have hgrows : ¬ ((String.ofList front).utf8ByteSize < (0 : Int) ∨
        ((String.ofList (front ++ part)).utf8ByteSize : Int) < (String.ofList front).utf8ByteSize) := by
      rw [String.ofList_append, String.utf8ByteSize_append]
      omega
    have hnumber : ((n : Int) + 1).toNat = n + 1 := by omega
    refine ⟨⟨m.path, n + 1, front.length, (front ++ part).length⟩, ?_, rfl, ?_⟩
    · simp only [span?, hline, if_neg hgrows, hnumber, hstart, hstop]
    · have hpart : (l.content.take (front ++ part).length).drop front.length = part := by
        rw [hcontent, List.take_left, List.drop_left]
      have hagain : m.line? ((n + 1 : Nat) : Int) = some l.content := by
        rw [Int.natCast_succ, hline]
      simp only [text?, hagain, Option.map_some, hpart]

/-- A module with characters of one, two and four bytes, and with all three endings. -/
def scale : SourceModule where
  name := "scale"
  path := ⟨"", ["scale.py"]⟩
  source := "é = 'π𝄞'\r\n\rx = é\n"
  tree := default

/-- Its lines. -/
def scaleLines : List Line :=
  [⟨"é = 'π𝄞'".toList, ['\r', '\n']⟩, ⟨[], ['\r']⟩, ⟨"x = é".toList, ['\n']⟩]

/-- Of the eight bytes in front of the clef, two letters take two each. -/
theorem columns_exact_scale :
    Lined scaleLines ∧ scale.source.toList = scaleLines.flatMap Line.chars ∧
      scaleLines[0]? = some ⟨"é = 'π𝄞'".toList, ['\r', '\n']⟩ ∧ scale.charColumn 1 8 = 6 ∧
      ∃ s, scale.span? 1 8 12 = some s ∧ s.line = 1 ∧ scale.text? s = some "𝄞" := by
  have hlined : Lined scaleLines :=
    .both ⟨by decide, by decide⟩ <| .return ⟨by decide, by decide⟩
      (.feed ⟨by decide, by decide⟩ .nil) (by decide)
  have hsource : scale.source.toList = scaleLines.flatMap Line.chars := by decide +kernel
  have hline : scaleLines[0]? = some ⟨"é = 'π𝄞'".toList, ['\r', '\n']⟩ := rfl
  obtain ⟨hcolumn, hspan⟩ := columns_exact hlined hsource hline
  refine ⟨hlined, hsource, hline, ?_, ?_⟩
  · exact hcolumn 6 (by decide +kernel)
  · exact hspan "é = 'π".toList "𝄞".toList "'".toList (by decide +kernel)

end SourceModule

end Pseudonym
