import LintServer.Proofs.Text.Columns
import LintServer.Server.Report

/-!
# A violation is shown where it is

A violation names its place in bytes of a line, its diagnostic in UTF-16
units. Each end of the range is the column of the offset at that end
(`Text.isColumn_unitColumn`), and everything else that one asks of the range
follows from that: it is in order, cuts no character, and marks out the bytes
of the violation where these are whole characters (`Range.Designates`).

All numbers go through 32-bit words. A column is at most the offset that it
belongs to, so it is enough that the offsets fit.
-/

namespace LintServer

open Text (IsColumn SplitsPair utf8 utf16 isBoundary floorBoundary byteLength)

/-- A range designates the bytes from `a` to `b` of a line: it is on that
line, its ends are the columns of the two offsets, they cut no surrogate pair
and are in order, and between boundaries of characters the units of the range
encode what the bytes do. -/
structure Range.Designates (range : Range) (index : Nat) (line : List Char) (a b : Nat) :
    Prop where
  startLine : range.start.line.toNat = index
  stopLine : range.stop.line.toNat = index
  start : IsColumn line a range.start.character.toNat
  stop : IsColumn line b range.stop.character.toNat
  startWhole : ¬ SplitsPair (utf16 line) range.start.character.toNat
  stopWhole : ¬ SplitsPair (utf16 line) range.stop.character.toNat
  ordered : range.start.character ≤ range.stop.character
  encoded : isBoundary line a → isBoundary line b → ∃ part, (utf8 line).extract a b = utf8 part
    ∧ (utf16 line).extract range.start.character.toNat range.stop.character.toNat = utf16 part

theorem Range.designates_of_isColumn {range : Range} {index a b : Nat} {line : List Char}
    (hstartLine : range.start.line.toNat = index) (hstopLine : range.stop.line.toNat = index)
    (hstart : IsColumn line a range.start.character.toNat)
    (hstop : IsColumn line b range.stop.character.toNat) (hle : a ≤ b) :
    range.Designates index line a b where
  startLine := hstartLine
  stopLine := hstopLine
  start := hstart
  stop := hstop
  startWhole := hstart.not_splitsPair
  stopWhole := hstop.not_splitsPair
  ordered := UInt32.le_iff_toNat_le.mpr (hstart.mono hstop hle)
  encoded := hstart.exists_part hstop hle

namespace Span

/-- The offset of the first byte of a span in its line. -/
def startOffset (span : Span) : Nat := span.start.toNat - 1

/-- The offset behind the last byte of a span in its line. -/
def stopOffset (span : Span) : Nat :=
  min (span.startOffset + span.length.toNat) (UInt64.size - 1)

theorem startOffset_le_stopOffset (span : Span) : span.startOffset ≤ span.stopOffset := by
  have hstart : span.start.toNat < UInt64.size := span.start.toNat_lt
  unfold stopOffset startOffset
  omega

end Span

theorem Violation.range_of_span {v : Violation} {content text : String} {span : Span}
    (hspan : v.span = some span) (htext : Text.lineAt? content v.lineIndex = some text) :
    v.range content =
      ⟨⟨UInt32.ofNat v.lineIndex, Text.unitColumn text span.startOffset⟩,
        ⟨UInt32.ofNat v.lineIndex, Text.unitColumn text span.stopOffset⟩⟩ := by
  rw [range, hspan, htext]
  rfl

theorem Violation.range_eq {v : Violation} {content text : String} {span : Span}
    (hspan : v.span = some span) (htext : Text.lineAt? content v.lineIndex = some text)
    (hfits : span.start.toNat - 1 + span.length.toNat < UInt64.size) :
    v.range content =
      ⟨⟨UInt32.ofNat v.lineIndex, Text.unitColumn text (span.start.toNat - 1)⟩,
        ⟨UInt32.ofNat v.lineIndex,
          Text.unitColumn text (span.start.toNat - 1 + span.length.toNat)⟩⟩ := by
  have hstop : span.stopOffset = span.start.toNat - 1 + span.length.toNat :=
    Nat.min_eq_left (Nat.le_pred_of_lt hfits)
  rw [range_of_span hspan htext, hstop, Span.startOffset]

/-- **A diagnostic designates the bytes that its violation reports**, if the
line is there and the numbers fit into 32 bits. The step back to a boundary,
from any offset in the line, ends in the line and at the first boundary that
it meets. -/
theorem range_designates_span {content text : String} {v : Violation} {span : Span}
    (hspan : v.span = some span) (htext : Text.lineAt? content v.lineIndex = some text)
    (hline : v.line.toNat < UInt32.size)
    (hfits : span.start.toNat + span.length.toNat < UInt32.size) :
    (Diagnostic.ofViolation content v).range.Designates v.lineIndex text.toList
        (span.start.toNat - 1) (span.start.toNat - 1 + span.length.toNat)
      ∧ ∀ x < byteLength text.toList,
          floorBoundary text.toList x ≤ x ∧ isBoundary text.toList (floorBoundary text.toList x)
            ∧ ∀ k, isBoundary text.toList k → k ≤ x → k ≤ floorBoundary text.toList x := by
  have hsizes : UInt32.size < UInt64.size := by decide
  have hindex : (UInt32.ofNat v.lineIndex).toNat = v.lineIndex :=
    UInt32.toNat_ofNat_of_lt' (Nat.lt_of_le_of_lt (Nat.sub_le _ 1) hline)
  have hrange := Violation.range_eq hspan htext (by omega)
  constructor
  · rw [Diagnostic.ofViolation, hrange]
    exact Range.designates_of_isColumn hindex hindex (Text.isColumn_unitColumn text (by omega))
      (Text.isColumn_unitColumn text (by omega)) (Nat.le_add_right _ _)
  · intro x _
    exact ⟨Text.floorBoundary_le text.toList x, Text.isBoundary_floorBoundary text.toList x,
      fun _ hk hle => Text.le_floorBoundary hk hle⟩

def pairViolation : Violation where
  line := 2
  span := some ⟨2, 4⟩

theorem range_designates_span_of_pair :
    let range := (Diagnostic.ofViolation "x\na😀b\r\n" pairViolation).range
    range = ⟨⟨1, 1⟩, ⟨1, 3⟩⟩ ∧ range.Designates 1 "a😀b".toList 1 5 := by
  have hspan : pairViolation.span = some ⟨2, 4⟩ := rfl
  have htext : Text.lineAt? "x\na😀b\r\n" pairViolation.lineIndex = some "a😀b" := by
    decide +kernel
  exact ⟨by decide +kernel, (range_designates_span hspan htext (by decide) (by decide)).1⟩

end LintServer
