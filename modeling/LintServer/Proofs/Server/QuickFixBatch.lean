import LintServer.Proofs.Lint.SingleFix
import LintServer.Proofs.Server.QuickFix

/-!
# A quick fix does what the batch repair does

For a single violation there are two ways to repair a document: to apply the
edit of its quick fix, and to run the batch repair. Where the lines of the
document end alike, both rewrite the same line to the same text
(`quickFix_agrees_with_batch`). The line is the body of a cut for the editor
and a piece between endings for the batch (`Text.EndsAlike.exists_cut`), and
what becomes of it is `Repair.rewritten` in both.
-/

namespace LintServer

open Text.LineEnding (ofText)

namespace Text

theorem LineCut.lineAt?_eq {content : String} {index : Nat}
    (cut : LineCut content.toList index) :
    lineAt? content index = some (String.ofList cut.body) := by
  rw [lineAt?, cut.getElem?_pieces, Option.map_some, cut.dropReturn_line]

theorem FitsWords.units_lt {content : String} (h : FitsWords content) {index : Nat}
    (cut : LineCut content.toList index) : unitLength cut.body < UInt32.size := by
  have hpiece := h.units _ (List.mem_of_getElem? cut.getElem?_pieces)
  rwa [cut.dropReturn_line] at hpiece

end Text

namespace Diagnostic

theorem toNat_fixIndex_ofViolation {content : String} {v : Violation} {fix : Fix}
    {number : UInt64} (hfix : v.fix = some fix) (hnumber : v.fixLine? = some number)
    (h : number.toNat ≤ UInt32.size) :
    ((ofViolation content v).fixIndex fix).toNat = number.toNat - 1 := by
  rw [Violation.fixLine?, hfix, Option.map_some, Option.some_inj] at hnumber
  unfold fixIndex
  cases hline : fix.line with
  | some line =>
      rw [hline] at hnumber
      cases hnumber
      exact toNat_ofNat_pred h
  | none =>
      rw [hline] at hnumber
      cases hnumber
      rw [ofViolation, Violation.range_start_line]
      exact toNat_ofNat_pred h

theorem edit?_of_cut {d : Diagnostic} {fix : Fix} {engine : Engine} {content newText : String}
    (cut : Text.LineCut content.toList (d.fixIndex fix).toNat)
    (h : engine.fixLine (String.ofList cut.body) fix (ofText content.toList).toString =
      some newText) :
    d.edit? fix engine content =
      some ⟨.ofLine (d.fixIndex fix) (String.ofList cut.body), newText⟩ := by
  rw [edit?, cut.lineAt?_eq, Option.map_some, h]

end Diagnostic

/-- **A quick fix does what the batch repair does.** Let the lines of a
document end alike, and be neither too many nor too long to be counted. Take
a violation with a fix that keeps its line and inserts no `'\r'`, for a line
that the document has. There is one quick fix for it, with one edit, and to
apply the edit is to run the batch repair for that violation alone. -/
theorem quickFix_agrees_with_batch {engine : Engine} (hengine : engine.fixLine = Repair.line)
    (uri : Uri) {content : String} (hcontent : Text.FitsWords content)
    (hends : Text.EndsAlike content.toList) {v : Violation} {fix : Fix} (hv : v.fix = some fix)
    (hfix : fix.IsPlain) {number : UInt64} (hnumber : v.fixLine? = some number)
    (hfirst : 1 ≤ number.toNat) (hlast : number.toNat ≤ Text.closedLineCount content.toList) :
    ∃ action edit,
      CodeAction.quickFixes engine uri content [.ofViolation content v] = [action]
        ∧ action.edit = ⟨uri, [edit]⟩
        ∧ edit.applied? content = some (Repair.text content [v]) := by
  let d := Diagnostic.ofViolation content v
  have hindex : (d.fixIndex fix).toNat = number.toNat - 1 :=
    Diagnostic.toNat_fixIndex_ofViolation hv hnumber
      (Nat.le_of_lt (Nat.lt_of_le_of_lt hlast hcontent.lines))
  obtain ⟨hlt, line, hline⟩ := Batch.exists_line hends
    (show (d.fixIndex fix).toNat < Text.closedLineCount content.toList by omega)
  obtain ⟨hnewline, hreturn⟩ := hends.clean line (List.mem_of_getElem? hline)
  obtain ⟨cut, rfl, hcut⟩ := hends.exists_cut hline
  let newText := String.ofList (Repair.rewritten (ofText content.toList) fix cut.body)
  have hnew : engine.fixLine (String.ofList cut.body) fix (ofText content.toList).toString =
      some newText := by
    rw [← String.toList_ofList (l := cut.body)] at hnewline hreturn
    rw [hengine, Repair.line_eq _ hfix hnewline hreturn, String.toList_ofList]
  have hedit : d.edit? fix engine content = some _ := Diagnostic.edit?_of_cut cut hnew
  have hd : d.fix? = some fix := (Diagnostic.fix?_ofViolation ..).trans hv
  refine ⟨{
    title := d.ruleTitle
    kind := .quickFix
    diagnostics := some [d]
    edit := ⟨uri, [⟨.ofLine (d.fixIndex fix) (String.ofList cut.body), newText⟩]⟩ },
    _, ?_, rfl, ?_⟩
  · simp [CodeAction.quickFixes, CodeAction.quickFix?, hd, hedit, d]
  · rw [cut.applied?_of_units_lt String.toList_ofList (hcontent.units_lt cut), hcut,
      String.toList_ofList, Repair.text_eq hv hfix hnumber hindex hlt hline]

def brokenNote : String := "a\r\n😀b  \r\n\r\nc"

def breakingFix : Fix where
  line := some 2
  column := some 6
  deleteCount := some 2
  insertText := "\nx"

def breakingViolation : Violation where
  line := 1
  fix := some breakingFix

theorem quickFix_agrees_with_batch_of_broken :
    ∃ action edit, CodeAction.quickFixes .trailing noteUri brokenNote
        [.ofViolation brokenNote breakingViolation] = [action]
      ∧ action.edit = ⟨noteUri, [edit]⟩
      ∧ edit.applied? brokenNote = some "a\r\n😀b\r\nx\r\n\r\nc" := by
  have hcontent : Text.FitsWords brokenNote := ⟨by decide +kernel, by decide +kernel⟩
  have hends : Text.EndsAlike brokenNote.toList := by decide +kernel
  have hfix : breakingFix.IsPlain := ⟨by rintro _ ⟨⟩; decide, by rintro _ ⟨⟩; decide⟩
  have hengine : Engine.trailing.fixLine = Repair.line := rfl
  have hv : breakingViolation.fix = some breakingFix := rfl
  have hnumber : breakingViolation.fixLine? = some 2 := rfl
  obtain ⟨action, edit, hactions, hedit, happlied⟩ :=
    quickFix_agrees_with_batch hengine noteUri hcontent hends hv hfix hnumber (by decide)
      (by decide +kernel)
  refine ⟨action, edit, hactions, hedit, happlied.trans ?_⟩
  decide +kernel

end LintServer
