import LintServer.Lint.Engine.TrailingSpaces
import LintServer.Proofs.Lint.FixData
import LintServer.Proofs.Server.Run
import LintServer.Proofs.Text.LineCut
import LintServer.Server.QuickFix

/-!
# A quick fix rewrites one line

A quick fix looks up a line, has the engine fix it, and sends an edit of
the range of that line. The lookup drops the line's terminator, `'\r'`
included, and the range is measured in units; both are about the body of
the same `Text.LineCut`, so the edit changes the body and nothing else
(`quickFix_rewrites_line`).

The number of the line goes through a 32-bit word on its way. Below the
bound that the theorem asks for it is not cut
(`Diagnostic.toNat_fixIndex`), and for the diagnostic of a violation it is
the line that the violation has its fix on
(`Diagnostic.targetLine_ofViolation`).
-/

namespace LintServer

/-! ## The target line -/

/-- A line number of at most `UInt32.size` fits once it counts from zero. -/
theorem toNat_ofNat_pred {line : UInt64} (h : line.toNat ≤ UInt32.size) :
    (UInt32.ofNat (line.toNat - 1)).toNat = line.toNat - 1 := by
  rw [UInt32.size] at h
  rw [UInt32.toNat_ofNat', Nat.mod_eq_of_lt (by omega)]

theorem Violation.range_start_line (v : Violation) (content : String) :
    (v.range content).start.line = UInt32.ofNat v.lineIndex := by
  unfold range
  split <;> rfl

namespace Diagnostic

/-- The number from zero of the line that a fix of the diagnostic is for:
the line that the fix names, or else the first line of the diagnostic. -/
def targetLine (d : Diagnostic) (fix : Fix) : Nat :=
  match fix.line with
  | some line => line.toNat - 1
  | none => d.range.start.line.toNat

theorem toNat_fixIndex {fix : Fix} (d : Diagnostic)
    (h : ∀ line, fix.line = some line → line.toNat ≤ UInt32.size) :
    (d.fixIndex fix).toNat = d.targetLine fix := by
  unfold fixIndex targetLine
  cases hline : fix.line with
  | none => rfl
  | some line => exact toNat_ofNat_pred (h line hline)

theorem targetLine_ofViolation {content : String} {v : Violation} {fix : Fix}
    (hfix : v.fix = some fix) (h : v.line.toNat ≤ UInt32.size) :
    v.fixLine?.map (·.toNat - 1) = some ((ofViolation content v).targetLine fix) := by
  have hstart : (ofViolation content v).range.start.line.toNat = v.line.toNat - 1 := by
    rw [ofViolation, Violation.range_start_line]
    exact toNat_ofNat_pred h
  unfold Violation.fixLine? targetLine
  rw [hfix]
  cases hline : fix.line with
  | none => simp [hline, hstart]
  | some line => simp [hline]

/-- An edit is of a line that there is. If the engine leaves something of
the line, the edit puts that in the place of the line. -/
theorem exists_line_of_edit? {d : Diagnostic} {fix : Fix} {engine : Engine} {content : String}
    {edit : TextEdit} (h : d.edit? fix engine content = some edit) :
    ∃ line, Text.lineAt? content (d.fixIndex fix).toNat = some line
      ∧ ∀ newText, engine.fixLine line fix (Text.LineEnding.ofText content.toList).toString
          = some newText → edit = ⟨.ofLine (d.fixIndex fix) line, newText⟩ := by
  obtain ⟨line, hline, hedit⟩ := Option.map_eq_some_iff.mp h
  refine ⟨line, hline, fun newText hnew => ?_⟩
  rw [hnew] at hedit
  exact hedit.symm

end Diagnostic

/-! ## The action -/

namespace CodeAction

variable {engine : Engine} {uri : Uri} {content : String} {context : List Diagnostic}
  {d : Diagnostic} {action : CodeAction}

theorem exists_edit_of_quickFix? (h : quickFix? engine uri content context d = some action) :
    ∃ fix edit, d.fix? = some fix ∧ d.edit? fix engine content = some edit
      ∧ action.edit = ⟨uri, [edit]⟩ := by
  obtain ⟨fix, hfix, h⟩ := Option.bind_eq_some_iff.mp h
  obtain ⟨edit, hedit, h⟩ := Option.bind_eq_some_iff.mp h
  cases h
  exact ⟨fix, edit, hfix, hedit, rfl⟩

theorem mem_quickFixes (hd : d ∈ context)
    (h : quickFix? engine uri content context d = some action) :
    action ∈ quickFixes engine uri content context :=
  List.mem_filterMap.mpr ⟨d, hd, h⟩

end CodeAction

/-- **A quick fix rewrites its target line and nothing else.** The action
for a diagnostic of the request has one edit. The document has the target
line, and if the engine turns its body into a new text, the edit puts that
text in the place of the body: what stands before the line, the line's
terminator and what follows are the same as before. For the diagnostic of a
violation, the target line is the line of the violation's fix. -/
theorem quickFix_rewrites_line {engine : Engine} {uri : Uri} {content : String}
    {context : List Diagnostic} {d : Diagnostic} {action : CodeAction}
    (hcontent : Text.Addressable content) (hd : d ∈ context)
    (hline : ∀ fix line, d.fix? = some fix → fix.line = some line → line.toNat ≤ UInt32.size)
    (haction : CodeAction.quickFix? engine uri content context d = some action) :
    action ∈ CodeAction.quickFixes engine uri content context
      ∧ ∃ fix edit, d.fix? = some fix ∧ action.edit = ⟨uri, [edit]⟩
        ∧ (∃ cut : Text.LineCut content.toList (d.targetLine fix), ∀ newText,
            engine.fixLine (String.ofList cut.body) fix
                (Text.LineEnding.ofText content.toList).toString = some newText →
              edit.applied? content = some (String.ofList (cut.withBody newText.toList)))
        ∧ ∀ linted v, d = .ofViolation linted v → v.line.toNat ≤ UInt32.size →
            v.fixLine?.map (·.toNat - 1) = some (d.targetLine fix) := by
  obtain ⟨fix, edit, hfix, hedit, heq⟩ := CodeAction.exists_edit_of_quickFix? haction
  refine ⟨CodeAction.mem_quickFixes hd haction, fix, edit, hfix, heq, ?_, ?_⟩
  · have hindex : (d.fixIndex fix).toNat = d.targetLine fix :=
      d.toNat_fixIndex fun line => hline fix line hfix
    obtain ⟨text, htext, hnew⟩ := Diagnostic.exists_line_of_edit? hedit
    obtain ⟨cut, hcut⟩ := Text.LineCut.exists_of_lineAt? htext
    rw [← hindex]
    refine ⟨cut, fun newText h => ?_⟩
    rw [← hcut, String.ofList_toList] at h
    rw [hnew newText h]
    exact cut.applied?_ofLine hcontent hcut newText
  · rintro linted v rfl hv
    rw [Diagnostic.fix?_ofViolation] at hfix
    exact Diagnostic.targetLine_ofViolation hfix hv

/-- Two spaces behind a character of two units, on the second of three
lines. -/
def spacedNote : String := "a\r\n😀b  \r\n"

def spacedViolation : Violation where
  line := 2
  names := ["MD009"]
  fix := some { column := some 6, deleteCount := some 2 }

theorem quickFix_rewrites_spaced :
    ∃ action ∈ CodeAction.quickFixes .trailing noteUri spacedNote
        [.ofViolation spacedNote spacedViolation],
      ∃ edit, action.edit = ⟨noteUri, [edit]⟩
        ∧ edit.applied? spacedNote = some "a\r\n😀b\r\n" := by
  let d := Diagnostic.ofViolation spacedNote spacedViolation
  have hfound : (CodeAction.quickFix? .trailing noteUri spacedNote [d] d).isSome := by
    decide +kernel
  obtain ⟨action, haction⟩ := Option.isSome_iff_exists.mp hfound
  have hcontent : Text.Addressable spacedNote := ⟨by decide +kernel, by decide +kernel⟩
  have hline : ∀ fix line, d.fix? = some fix → fix.line = some line → line.toNat ≤ UInt32.size := by
    intro fix line hfix hl
    rw [Diagnostic.fix?_ofViolation] at hfix
    cases hfix
    cases hl
  obtain ⟨hmem, fix, edit, hfix, hedit, ⟨cut, hcut⟩, -⟩ :=
    quickFix_rewrites_line hcontent (List.mem_singleton_self d) hline haction
  rw [Diagnostic.fix?_ofViolation] at hfix
  cases hfix
  have hpiece : (Text.pieces '\n' spacedNote.toList)[1]? = some "😀b  \r".toList := by
    decide +kernel
  have hcuts : cut = .ofPiece hpiece := cut.unique (.ofPiece hpiece)
  have hbody : cut.body = Text.dropReturn "😀b  \r".toList := congrArg Text.LineCut.body hcuts
  have happlied : edit.applied? spacedNote = _ := hcut "😀b" (by rw [hbody]; decide +kernel)
  refine ⟨action, hmem, edit, hedit, happlied.trans ?_⟩
  rw [hcuts]
  rfl

end LintServer
