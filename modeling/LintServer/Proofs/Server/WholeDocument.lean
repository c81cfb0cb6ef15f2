import LintServer.Proofs.Text.Terminators
import LintServer.Server.QuickFix

/-!
# Replacing a whole document

The edit that fixes everything reaches from the start of the document to the
place behind its last character. That place is named by the number of newlines
and the length of what follows the last of them. For an editor that reads the
edit as the protocol has it, it is the end of the document just if no `'\r'`
stands alone; otherwise a part of the old text stays behind the new one
(`fixAll_replaces_document`).
-/

namespace LintServer

namespace Position

variable {content : String}

theorem cutClamped_start (text : List Char) : cutClamped ⟨0, 0⟩ text = ([], text) := by
  cases text with
  | nil => rfl
  | cons c cs =>
      have hpos : 0 < Text.unitWidth c := Text.unitWidth_pos c
      exact if_pos (.inr (.inr hpos))

theorem toNat_atEnd_line (h : Text.lineCount content ≤ UInt32.size) :
    (atEnd content).line.toNat = Text.lineCount content - 1 := by
  have hsize : 0 < UInt32.size := by decide
  exact UInt32.toNat_ofNat_of_lt' (by omega)

theorem cutClamped_atEnd_eq_nil_iff (hlines : Text.lineCount content ≤ UInt32.size)
    (hunits : Text.unitLength (Text.lastLine content).toList < UInt32.size) :
    ((atEnd content).cutClamped content.toList).2 = []
      ↔ ¬ Text.HasLoneReturn content.toList := by
  have hcolumn : (atEnd content).character.toNat = Text.unitLength (Text.lastLine content).toList :=
    UInt32.toNat_ofNat_of_lt' hunits
  rw [cutClamped, toNat_atEnd_line hlines, hcolumn]
  constructor
  · intro hnil hlone
    have hcount : Text.lineCount content - 1 = content.toList.count '\n' := by
      rw [Text.lineCount, Text.length_pieces, Nat.add_sub_cancel]
    exact Text.cutAtClamped_ne_nil
      (hcount ▸ Text.count_newline_lt_terminators_iff.mpr hlone) _ hnil
  · intro hlone
    rw [Text.cutAtClamped_atEnd hlone]

end Position

theorem TextEdit.applyClamped_full (content newText : String) :
    (TextEdit.mk (.full content) newText).applyClamped content =
      newText ++ String.ofList ((Position.atEnd content).cutClamped content.toList).2 := by
  rw [applyClamped, Range.full]
  dsimp only
  rw [Position.cutClamped_start, List.nil_append, String.ofList_append, String.ofList_toList]

/-- **The edit that fixes everything replaces the whole document** if every
`'\r'` of the document belongs to a `"\r\n"`, and the place behind the last
character is not too far for a position. If a `'\r'` stands alone, the fixed
text is followed by the rest of the old one. -/
theorem fixAll_replaces_document {content fixed : String}
    (hlines : Text.lineCount content ≤ UInt32.size)
    (hunits : Text.unitLength (Text.lastLine content).toList < UInt32.size)
    (hchanged : fixed ≠ content) :
    ∃ edit rest, TextEdit.replacing? content fixed = some edit
      ∧ edit.applyClamped content = fixed ++ String.ofList rest ∧ rest <:+ content.toList
      ∧ (edit.applyClamped content = fixed ↔ ¬ Text.HasLoneReturn content.toList) := by
  let rest := ((Position.atEnd content).cutClamped content.toList).2
  have happlied : (TextEdit.mk (.full content) fixed).applyClamped content =
      fixed ++ String.ofList rest := TextEdit.applyClamped_full content fixed
  refine ⟨⟨.full content, fixed⟩, rest, if_neg hchanged, happlied, ?_, ?_⟩
  · exact ⟨_, Text.cutAtClamped_append_eq ..⟩
  · rw [happlied, ← Position.cutClamped_atEnd_eq_nil_iff hlines hunits, ← String.toList_inj,
      String.toList_append, String.toList_ofList, List.append_right_eq_self]

theorem fixAll_replaces_document_of_crlf :
    ∃ edit, TextEdit.replacing? "a  \r\n\n😀b " "a\r\n\n😀b" = some edit
      ∧ edit.applyClamped "a  \r\n\n😀b " = "a\r\n\n😀b" := by
  have hlone : ¬ Text.HasLoneReturn "a  \r\n\n😀b ".toList := by decide +kernel
  obtain ⟨edit, -, hedit, -, -, happlied⟩ :=
    @fixAll_replaces_document "a  \r\n\n😀b " "a\r\n\n😀b" (by decide +kernel) (by decide +kernel)
      (by decide +kernel)
  exact ⟨edit, hedit, happlied.mpr hlone⟩

/-- A `'\r'` alone ends a line, so the place behind the last character is read
as the end of the first line. -/
theorem fixAll_leaves_rest_of_loneReturn :
    (TextEdit.replacing? "a\rb" "x").map (·.applyClamped "a\rb") = some "x\rb" := by
  decide +kernel

end LintServer
