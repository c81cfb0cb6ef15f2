import LintServer.Proofs.Server.WholeDocument

/-!
# The lines of a document tile it

Three things are said of the lines of a document: which line there is under a
number, where a line begins and ends, and where the document ends. They are
found in different ways, and agree (`lines_tile_document`). There is a line
under each number up to that of the end; the lines with what was left out of
them are the document; and the range of each line is inside the range of the
document, behind the ranges of the lines before it.

The numbers agree because the pieces between newlines are one more than the
newlines. Only the last line needs an argument for its range: the place behind
the last character counts the `'\r'` that may end the line, and the range of
the line does not (`Range.stop_le_of_last`).
-/

namespace LintServer

structure Range.Within (r whole : Range) : Prop where
  start_le : whole.start ≤ r.start
  ordered : r.start ≤ r.stop
  le_stop : r.stop ≤ whole.stop

/-! ## Lines and what is left out of them -/

namespace Text

/-- A line, and the `'\r'` that was left out of it if there was one. -/
structure Line where
  body : String
  mark : List Char
  mark_eq : mark = ['\r'] ∨ mark = [] ∧ body.toList.getLast? ≠ some '\r'

namespace Line

def chars (line : Line) : List Char := line.body.toList ++ line.mark

def ofPiece (piece : List Char) : Line where
  body := String.ofList (dropReturn piece)
  mark := if piece.getLast? = some '\r' then ['\r'] else []
  mark_eq := by
    rw [String.toList_ofList]
    by_cases hr : piece.getLast? = some '\r'
    · exact Or.inl (if_pos hr)
    · exact Or.inr ⟨if_neg hr, by rwa [dropReturn, if_neg hr]⟩

@[simp] theorem chars_ofPiece (piece : List Char) : (ofPiece piece).chars = piece := by
  rw [chars, ofPiece, String.toList_ofList]
  exact LineCut.dropReturn_append piece

end Line

theorem unitLength_dropReturn_le (line : List Char) :
    unitLength (dropReturn line) ≤ unitLength line :=
  unitLength_mono ⟨_, LineCut.dropReturn_append line⟩

/-- The last line is what stands behind the last newline. -/
theorem lineAt?_last (content : String) :
    lineAt? content (lineCount content - 1) =
      some (String.ofList (dropReturn (lastLine content).toList)) := by
  rw [lineAt?, getElem?_lastLine, Option.map_some]

end Text

/-! ## Where lines stand -/

namespace Range

variable {content line : String} {i : Nat}

theorem toNat_index (hlines : Text.lineCount content ≤ UInt32.size)
    (hi : i < Text.lineCount content) : (UInt32.ofNat i).toNat = i :=
  UInt32.toNat_ofNat_of_lt' (Nat.lt_of_lt_of_le hi hlines)

theorem lt_lineCount (h : Text.lineAt? content i = some line) : i < Text.lineCount content :=
  Text.isSome_lineAt?_iff.mp (Option.isSome_of_eq_some h)

theorem ofLine_ordered (index : UInt32) (line : String) :
    (ofLine index line).start ≤ (ofLine index line).stop :=
  Or.inr ⟨rfl, UInt32.zero_le⟩

theorem full_start_le (content : String) (p : Position) : (full content).start ≤ p := by
  rcases Nat.eq_zero_or_pos p.line.toNat with hzero | hpos
  · exact Or.inr ⟨UInt32.toNat_inj.mp hzero.symm, UInt32.zero_le⟩
  · exact Or.inl (UInt32.lt_iff_toNat_lt.mpr hpos)

/-- The last line may lack a `'\r'` of what stands before the end. -/
theorem stop_le_of_last
    (hunits : Text.unitLength (Text.lastLine content).toList < UInt32.size)
    (h : Text.lineAt? content (Text.lineCount content - 1) = some line) :
    (ofLine (UInt32.ofNat (Text.lineCount content - 1)) line).stop ≤ (full content).stop := by
  rw [Text.lineAt?_last, Option.some_inj] at h
  have hle := Text.unitLength_dropReturn_le (Text.lastLine content).toList
  refine Or.inr ⟨rfl, ?_⟩
  change Text.units line ≤ Text.units (Text.lastLine content)
  rw [UInt32.le_iff_toNat_le, Text.toNat_units, Text.toNat_units, ← h, String.toList_ofList,
    Nat.mod_eq_of_lt hunits, Nat.mod_eq_of_lt (Nat.lt_of_le_of_lt hle hunits)]
  exact hle

theorem within_full (hlines : Text.lineCount content ≤ UInt32.size)
    (hunits : Text.unitLength (Text.lastLine content).toList < UInt32.size)
    (h : Text.lineAt? content i = some line) :
    (ofLine (UInt32.ofNat i) line).Within (full content) := by
  refine ⟨full_start_le content _, ofLine_ordered _ line, ?_⟩
  have hi := lt_lineCount h
  rcases Nat.lt_or_ge i (Text.lineCount content - 1) with hbefore | hlast
  · refine Or.inl (UInt32.lt_iff_toNat_lt.mpr ?_)
    change (UInt32.ofNat i).toNat < (Position.atEnd content).line.toNat
    rw [toNat_index hlines hi, Position.toNat_atEnd_line hlines]
    exact hbefore
  · obtain rfl : i = Text.lineCount content - 1 := by omega
    exact stop_le_of_last hunits h

theorem ofLine_stop_lt_start {other : String} {j : Nat}
    (hlines : Text.lineCount content ≤ UInt32.size) (hij : i < j)
    (hj : j < Text.lineCount content) :
    (ofLine (UInt32.ofNat i) line).stop < (ofLine (UInt32.ofNat j) other).start := by
  refine Or.inl (UInt32.lt_iff_toNat_lt.mpr ?_)
  change (UInt32.ofNat i).toNat < (UInt32.ofNat j).toNat
  rw [toNat_index hlines hj, toNat_index hlines (Nat.lt_trans hij hj)]
  exact hij

/-- What stands between the ends of the range of a line is the line. -/
theorem cut?_ofLine (hlines : Text.lineCount content ≤ UInt32.size)
    (h : Text.lineAt? content i = some line)
    (hunits : Text.unitLength line.toList < UInt32.size) :
    ∃ before after,
      (ofLine (UInt32.ofNat i) line).start.cut? content.toList =
          some (before, line.toList ++ after)
        ∧ (ofLine (UInt32.ofNat i) line).stop.cut? content.toList =
          some (before ++ line.toList, after) := by
  have hline : Text.lineAt? content (UInt32.ofNat i).toNat = some line := by
    rw [toNat_index hlines (lt_lineCount h), h]
  obtain ⟨cut, hbody⟩ := Text.LineCut.exists_of_lineAt? hline
  refine ⟨cut.before, cut.mark ++ cut.after, ?_, ?_⟩
  · rw [cut.cut?_start, hbody, List.append_assoc]
  · rw [cut.cut?_stop hbody (hbody ▸ hunits), hbody]

end Range

open Text in
/-- **The lines of a document tile it.** Let the document have at most 2³²
lines, and let the last of them have fewer than 2³² units. There is a line just
under the numbers up to that of the end. The lines, each with the `'\r'` that
was left out of it, and newlines between them are the document. No line has a
newline in it, and its range is inside that of the document, around just the
line. The range of a later line is behind that of an earlier one. -/
theorem lines_tile_document {content : String} (hlines : lineCount content ≤ UInt32.size)
    (hunits : unitLength (lastLine content).toList < UInt32.size) :
    (∀ i, (lineAt? content i).isSome ↔ i ≤ (Position.atEnd content).line.toNat)
      ∧ (∃ lines : List Line, (∀ i, lineAt? content i = lines[i]?.map Line.body)
          ∧ ['\n'].intercalate (lines.map Line.chars) = content.toList)
      ∧ (∀ i line, lineAt? content i = some line →
          let range := Range.ofLine (UInt32.ofNat i) line
          '\n' ∉ line.toList ∧ range.Within (.full content)
            ∧ (unitLength line.toList < UInt32.size → ∃ before after,
                range.start.cut? content.toList = some (before, line.toList ++ after)
                  ∧ range.stop.cut? content.toList = some (before ++ line.toList, after)))
      ∧ ∀ i j line other, i < j → lineAt? content i = some line →
          lineAt? content j = some other →
          (Range.ofLine (UInt32.ofNat i) line).stop
            < (Range.ofLine (UInt32.ofNat j) other).start := by
  refine ⟨fun i => ?_, ⟨(pieces '\n' content.toList).map Line.ofPiece, fun i => ?_, ?_⟩, ?_, ?_⟩
  · have hpos := lineCount_pos content
    rw [isSome_lineAt?_iff, Position.toNat_atEnd_line hlines]
    omega
  · rw [lineAt?, List.getElem?_map, Option.map_map]
    rfl
  · rw [List.map_map]
    simp [Function.comp_def, List.intercalate_splitOn]
  · intro i line h range
    obtain ⟨cut, hbody⟩ := LineCut.exists_of_lineAt? h
    exact ⟨hbody ▸ cut.newline_not_mem, Range.within_full hlines hunits h,
      Range.cut?_ofLine hlines h⟩
  · intro i j line other hij _ hother
    exact Range.ofLine_stop_lt_start hlines hij (Range.lt_lineCount hother)

/-- A note with both kinds of terminators, and with a `'\r'` at its end. -/
theorem lines_tile_document_of_mixed :
    let note := "a\r\n😀\n\r"
    (Position.atEnd note).line.toNat = 2
      ∧ (Text.lineAt? note 2).isSome ∧ ¬ (Text.lineAt? note 3).isSome
      ∧ (Range.ofLine 2 "").Within (.full note)
      ∧ (Range.ofLine 0 "a").stop < (Range.ofLine 1 "😀").start := by
  intro note
  have hend : (Position.atEnd note).line.toNat = 2 := by decide +kernel
  obtain ⟨hsome, -, hrange, horder⟩ :=
    @lines_tile_document note (by decide +kernel) (by decide +kernel)
  have hlast : Text.lineAt? note 2 = some "" := by decide +kernel
  refine ⟨hend, (hsome 2).mpr (Nat.le_of_eq hend.symm), fun h => ?_, (hrange 2 "" hlast).2.1, ?_⟩
  · exact absurd ((hsome 3).mp h) (by rw [hend]; decide)
  · exact horder 0 1 "a" "😀" (by decide) (by decide +kernel) (by decide +kernel)

end LintServer
