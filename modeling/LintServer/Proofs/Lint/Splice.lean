import LintServer.Proofs.Lint.SingleFix

/-!
# A fix of one line is a splice of its bytes

Where a fix deletes from one boundary of characters to another, the line is
three parts, and the fix puts the text that it inserts in the place of the
middle one (`Patch.splice?_parts`). The two offsets are the column and the
column moved on by the delete count, which stops at the end of the line. A
count is moved into 32 bits before it is used, and a line that is no longer
than the greatest such count does not show the difference (`Fix.stop_toPatch`).
-/

namespace LintServer

open Text (byteLength isBoundary replaceNewlines utf8)

namespace Patch

variable {patch : Patch} {before deleted after : List Char}

/-- Where the deleted bytes of a line end. -/
def stop (patch : Patch) (line : List Char) : Nat :=
  min (patch.offset + patch.deleteLength) (byteLength line)

theorem deleteFrom?_parts (hstart : byteLength before = patch.offset)
    (hstop : byteLength (before ++ deleted) = patch.stop (before ++ deleted ++ after)) :
    patch.deleteFrom? (before ++ deleted ++ after) = some (before ++ after) := by
  have hlength := Text.byteLength_append (before ++ deleted) after
  have hfront := Text.byteLength_append before deleted
  unfold stop at hstop
  unfold deleteFrom?
  dsimp only
  split
  · next hnone =>
      have hdeleted : deleted = [] := Text.eq_nil_of_byteLength_eq_zero (by omega)
      rw [hdeleted, List.append_nil]
  · have hbefore : Text.cutBytes? patch.offset (before ++ deleted ++ after) =
        some (before, deleted ++ after) :=
      Text.cutBytes?_eq_some_iff.mpr ⟨(List.append_assoc ..).symm, hstart⟩
    have hafter : Text.cutBytes? (min (patch.offset + patch.deleteLength)
        (byteLength (before ++ deleted ++ after))) (before ++ deleted ++ after) =
        some (before ++ deleted, after) :=
      Text.cutBytes?_eq_some_iff.mpr ⟨rfl, hstop⟩
    rw [hbefore, hafter]
    rfl

/-- A patch between two boundaries changes what is between them. -/
theorem splice?_parts (ending : Text.LineEnding) (hstart : byteLength before = patch.offset)
    (hstop : byteLength (before ++ deleted) = patch.stop (before ++ deleted ++ after)) :
    patch.splice? ending (before ++ deleted ++ after) =
      some (before ++ insertion ending (patch.insertText.getD "").toList ++ after) := by
  unfold splice?
  rw [deleteFrom?_parts hstart hstop]
  cases patch.insertText with
  | none => simp [insertion, replaceNewlines]
  | some text =>
      have hcut : Text.cutBytes? (min patch.offset (byteLength (before ++ after)))
          (before ++ after) = some (before, after) := by
        refine Text.cutBytes?_eq_some_iff.mpr ⟨rfl, ?_⟩
        rw [Text.byteLength_append, hstart, Nat.min_eq_left (Nat.le_add_right _ _)]
      simp only [Option.bind_eq_bind, Option.bind_some, hcut]
      rfl

end Patch

namespace Fix

variable {fix : Fix} {line : List Char}

/-- Where the deleted bytes of a line begin. -/
def start (fix : Fix) : Nat := (fix.column.getD 1).toNat - 1

/-- Where the deleted bytes of a line end. -/
def stop (fix : Fix) (line : List Char) : Nat :=
  min (fix.start + (fix.deleteCount.getD 0).toInt.toNat) (byteLength line)

theorem deleteLength_toPatch :
    fix.toPatch.deleteLength = min (fix.deleteCount.getD 0).toInt.toNat 0x7fffffff := by
  unfold Patch.deleteLength toPatch
  cases fix.deleteCount with
  | none => rfl
  | some count =>
      simp only [Option.map_some, Option.getD_some, toInt_clampCount]
      omega

/-- A count that is cut to 32 bits still reaches the end of a short line. -/
theorem stop_toPatch (hshort : byteLength line < 0x80000000) :
    fix.toPatch.stop line = fix.stop line := by
  have hoffset : fix.toPatch.offset = fix.start := rfl
  rw [Patch.stop, stop, deleteLength_toPatch, hoffset]
  omega

end Fix

namespace Repair

theorem rewritten_parts {fix : Fix} {before deleted after : List Char}
    (hshort : byteLength (before ++ deleted ++ after) < 0x80000000)
    (hstart : byteLength before = fix.start)
    (hstop : byteLength (before ++ deleted) = fix.stop (before ++ deleted ++ after)) :
    rewritten .lf fix (before ++ deleted ++ after) =
      before ++ (fix.insertText.getD "").toList ++ after := by
  have hinsertion : Patch.insertion .lf (fix.insertText.getD "").toList =
      (fix.insertText.getD "").toList := by simp [Patch.insertion]
  rw [rewritten, Patch.splice?_parts .lf hstart (hstop.trans (Fix.stop_toPatch hshort).symm),
    Option.getD_some]
  exact congrArg (before ++ · ++ after) hinsertion

/-- A line taken on its own is its only line, whatever line the fix names. -/
theorem line_with_number (text : String) (fix : Fix) (number : Option UInt64) (ending : String) :
    Repair.line text { fix with line := number } ending = Repair.line text fix ending := rfl

open Text in
/-- **A fix of one line is a splice of its bytes.** If no character is cut, the
line is kept, with the inserted text in place of the bytes from the column on,
as many as the fix counts and as there are, and newlines in it become the line
ending. A count that goes past the end of the line deletes all that is left,
however large it is, and the line that the fix names plays no part. -/
theorem line_splices {line : String} (hnewline : '\n' ∉ line.toList)
    (hreturn : '\r' ∉ line.toList) (hshort : byteLength line.toList < 0x80000000) {fix : Fix}
    (hcount : ∀ count, fix.deleteCount = some count → 0 ≤ count)
    (hstart : isBoundary line.toList fix.start)
    (hstop : isBoundary line.toList (fix.stop line.toList)) (ending : String) :
    ∃ before after,
      utf8 before = (utf8 line.toList).take fix.start
        ∧ utf8 after = (utf8 line.toList).drop (fix.stop line.toList)
        ∧ (byteLength line.toList ≤ fix.start + (fix.deleteCount.getD 0).toInt.toNat →
            after = [])
        ∧ ∀ number, Repair.line line { fix with line := number } ending =
            some (String.ofList (replaceNewlines ending.toList
              (before ++ (fix.insertText.getD "").toList ++ after))) := by
  have hle : fix.start ≤ fix.stop line.toList :=
    Nat.le_min.mpr ⟨Nat.le_add_right _ _, le_byteLength_of_isBoundary hstart⟩
  obtain ⟨before, deleted, after, hparts, hbefore, hdeleted⟩ := exists_parts hle hstart hstop
  have hbytes : utf8 line.toList = utf8 (before ++ deleted) ++ utf8 after := by
    rw [hparts, utf8_append]
  refine ⟨before, after, ?_, ?_, fun hpast => ?_, fun number => ?_⟩
  · rw [hbytes, utf8_append, List.append_assoc, ← hbefore, ← length_utf8, List.take_left]
  · rw [hbytes, ← hdeleted, ← length_utf8, List.drop_left]
  · have hlength := byteLength_append (before ++ deleted) after
    rw [Fix.stop, Nat.min_eq_right hpast, hparts] at hdeleted
    exact eq_nil_of_byteLength_eq_zero (by omega)
  · rw [line_with_number, line_eq_replaceNewlines ending hcount hnewline hreturn, hparts,
      rewritten_parts (hparts ▸ hshort) hbefore (hparts ▸ hdeleted)]

/-- A fix of the line `"héllo"` that deletes more bytes than 32 bits count. -/
def greedyFix : Fix where
  line := some 12
  column := some 4
  deleteCount := some 0x7fffffffffffffff
  insertText := some "!\n"

theorem line_splices_of_greedy :
    ∃ before after,
      Text.utf8 before = (Text.utf8 "héllo".toList).take 3
        ∧ after = []
        ∧ Repair.line "héllo" greedyFix "\r\n" =
            some (String.ofList (replaceNewlines "\r\n".toList
              (before ++ "!\n".toList ++ after))) := by
  have hcount : ∀ count, greedyFix.deleteCount = some count → 0 ≤ count := by
    rintro _ ⟨⟩
    decide
  have hstart : isBoundary "héllo".toList greedyFix.start := by decide +kernel
  have hstop : isBoundary "héllo".toList (greedyFix.stop "héllo".toList) := by decide +kernel
  obtain ⟨before, after, hbefore, -, hafter, hline⟩ :=
    line_splices (by decide) (by decide) (by decide) hcount hstart hstop "\r\n"
  exact ⟨before, after, hbefore, hafter (by decide +kernel), hline _⟩

example : Repair.line "héllo" greedyFix "\r\n" = some "hé!\r\n" := by decide +kernel

end Repair

end LintServer
