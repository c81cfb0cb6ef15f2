import LintServer.Proofs.Server.QuickFixBatch
import LintServer.Proofs.Text.TwoLines

/-!
# Quick fixes in any order

A user may take one quick fix and then another one, for a diagnostic that was
made before the first. If the two are for different lines, the order does not
matter, and both may be taken at once (`quickFixes_commute`).

A quick fix reads two things of a document: the body of its line, and the
ending that the lines have. The edit of another line changes neither of the two
(`Diagnostic.rewords_of_cut`), so the second fix comes to the same edit before
and after the first one, and what the two edits come to is said of the text
alone (`Text.LineCut.exists_pair`).
-/

namespace LintServer

open Text.LineEnding (ofText)

/-- The fix of a diagnostic is for the line with the number `index`, which the
document has, and makes of its body a text without a line break. -/
structure Diagnostic.Rewords (engine : Engine) (content : String) (d : Diagnostic) (index : Nat)
    (newText : String) : Prop where
  exists_fix : ∃ fix body, d.fix? = some fix
    ∧ (∀ line, fix.line = some line → line.toNat ≤ UInt32.size) ∧ d.targetLine fix = index
    ∧ Text.lineAt? content index = some body
    ∧ engine.fixLine body fix (ofText content.toList).toString = some newText
  newline_not_mem : '\n' ∉ newText.toList
  return_not_mem : '\r' ∉ newText.toList

/-- The quick fix for a diagnostic of the request is offered, and its one edit
turns the document into `result`. -/
def CodeAction.Rewrites (engine : Engine) (uri : Uri) (context : List Diagnostic) (d : Diagnostic)
    (content : String) (edit : TextEdit) (result : String) : Prop :=
  ∃ action ∈ quickFixes engine uri content context,
    quickFix? engine uri content context d = some action ∧ action.edit = ⟨uri, [edit]⟩
      ∧ edit.applied? content = some result

namespace CodeAction

/-- What a quick fix does is known from the cut around its line. -/
theorem rewrites_of_cut {engine : Engine} {uri : Uri} {context : List Diagnostic} {d : Diagnostic}
    {fix : Fix} {content newText : String} {text : List Char} (hd : d ∈ context)
    (hfix : d.fix? = some fix) (htext : content.toList = text)
    (cut : Text.LineCut text (d.fixIndex fix).toNat)
    (hunits : Text.unitLength cut.body < UInt32.size)
    (hnew : engine.fixLine (String.ofList cut.body) fix (ofText text).toString = some newText) :
    Rewrites engine uri context d content
      ⟨.ofLine (d.fixIndex fix) (String.ofList cut.body), newText⟩
      (String.ofList (cut.withBody newText.toList)) := by
  subst htext
  have hedit := Diagnostic.edit?_of_cut cut hnew
  have haction : (quickFix? engine uri content context d).map CodeAction.edit =
      some ⟨uri, [⟨.ofLine (d.fixIndex fix) (String.ofList cut.body), newText⟩]⟩ := by
    rw [quickFix?, hfix, Option.bind_eq_bind, Option.bind_some, hedit]
    rfl
  obtain ⟨action, hfound, heq⟩ := Option.map_eq_some_iff.mp haction
  exact ⟨action, mem_quickFixes hd hfound, hfound, heq,
    cut.applied?_of_units_lt String.toList_ofList hunits newText⟩

namespace Rewrites

variable {engine : Engine} {uri : Uri} {context : List Diagnostic} {d : Diagnostic}
  {content result : String} {edit : TextEdit}

theorem edit_eq (h : Rewrites engine uri context d content edit result) {other : TextEdit}
    (hother : (quickFix? engine uri content context d).map CodeAction.edit =
      some ⟨uri, [other]⟩) : edit = other := by
  obtain ⟨action, -, haction, hedit, -⟩ := h
  rw [haction, Option.map_some, hedit] at hother
  cases hother
  rfl

theorem result_eq (h : Rewrites engine uri context d content edit result) {other : String}
    (hother : edit.applied? content = some other) : result = other := by
  obtain ⟨action, -, -, -, happlied⟩ := h
  exact Option.some.inj (happlied.symm.trans hother)

end Rewrites

end CodeAction

/-- Of two quick fixes, the one for the earlier line being given first. -/
theorem quickFixes_commute_of_lt {engine : Engine} {uri : Uri} {content : String}
    {context : List Diagnostic} {d₁ d₂ : Diagnostic} {i j : Nat} {new₁ new₂ : String}
    (hcontent : Text.FitsWords content) (hd₁ : d₁ ∈ context) (hd₂ : d₂ ∈ context)
    (h₁ : d₁.Rewords engine content i new₁) (h₂ : d₂.Rewords engine content j new₂)
    (hij : i < j) :
    ∃ edit₁ edit₂ first second result,
      CodeAction.Rewrites engine uri context d₁ content edit₁ first
        ∧ CodeAction.Rewrites engine uri context d₂ first edit₂ result
        ∧ CodeAction.Rewrites engine uri context d₂ content edit₂ second
        ∧ CodeAction.Rewrites engine uri context d₁ second edit₁ result
        ∧ TextEdit.appliedAtOnce? [edit₁, edit₂] content = some result
        ∧ TextEdit.appliedAtOnce? [edit₂, edit₁] content = some result := by
  obtain ⟨fix₁, body₁, hfix₁, hnumber₁, rfl, hline₁, hnew₁⟩ := h₁.exists_fix
  obtain ⟨fix₂, body₂, hfix₂, hnumber₂, rfl, hline₂, hnew₂⟩ := h₂.exists_fix
  rw [← d₁.toNat_fixIndex hnumber₁] at hline₁ hij
  rw [← d₂.toNat_fixIndex hnumber₂] at hline₂ hij
  obtain ⟨a, ha⟩ := Text.LineCut.exists_of_lineAt? hline₁
  obtain ⟨b, hb⟩ := Text.LineCut.exists_of_lineAt? hline₂
  obtain rfl : body₁ = String.ofList a.body := String.toList_inj.mp (by simp [ha])
  obtain rfl : body₂ = String.ofList b.body := String.toList_inj.mp (by simp [hb])
  obtain ⟨⟨later, hlater, hresult₁⟩, ⟨earlier, hearlier, hresult₂⟩⟩ :=
    a.exists_pair b hij h₁.newline_not_mem new₂.toList
  have hunits₁ := hcontent.units_lt a
  have hunits₂ := hcontent.units_lt b
  obtain ⟨honce, hswapped⟩ :=
    Text.LineCut.appliedAtOnce?_pair a b hij String.toList_ofList String.toList_ofList hunits₁
      hunits₂ new₁ new₂
  have hending₁ := a.ofText_withBody h₁.newline_not_mem h₁.return_not_mem
  have hending₂ := b.ofText_withBody h₂.newline_not_mem h₂.return_not_mem
  have hfirst : CodeAction.Rewrites engine uri context d₁ content _ _ :=
    CodeAction.rewrites_of_cut hd₁ hfix₁ rfl a hunits₁ hnew₁
  have hsecond : CodeAction.Rewrites engine uri context d₂ content _ _ :=
    CodeAction.rewrites_of_cut hd₂ hfix₂ rfl b hunits₂ hnew₂
  have hthen₂ : CodeAction.Rewrites engine uri context d₂ _ _ _ :=
    CodeAction.rewrites_of_cut hd₂ hfix₂ String.toList_ofList later (hlater ▸ hunits₂)
      (by rw [hlater, hending₁, hnew₂])
  have hthen₁ : CodeAction.Rewrites engine uri context d₁ _ _ _ :=
    CodeAction.rewrites_of_cut hd₁ hfix₁ String.toList_ofList earlier (hearlier ▸ hunits₁)
      (by rw [hearlier, hending₂, hnew₁])
  rw [hlater, hresult₁] at hthen₂
  rw [hearlier, hresult₂] at hthen₁
  exact ⟨_, _, _, _, _, hfirst, hthen₂, hsecond, hthen₁, honce, hswapped⟩

/-- **Quick fixes for different lines commute,** also for diagnostics that were
made before either of them. Let two diagnostics of one request have fixes that
give two different lines of the document new bodies without line breaks.
Whichever quick fix is taken first, the other is still offered after it, with
the same edit as before, and the two edits come to the same document, as they
do if they are made at once. -/
theorem quickFixes_commute {engine : Engine} {uri : Uri} {content : String}
    {context : List Diagnostic} {d₁ d₂ : Diagnostic} {i j : Nat} {new₁ new₂ : String}
    (hcontent : Text.FitsWords content) (hd₁ : d₁ ∈ context) (hd₂ : d₂ ∈ context)
    (h₁ : d₁.Rewords engine content i new₁) (h₂ : d₂.Rewords engine content j new₂)
    (hij : i ≠ j) :
    ∃ edit₁ edit₂ first second result,
      CodeAction.Rewrites engine uri context d₁ content edit₁ first
        ∧ CodeAction.Rewrites engine uri context d₂ first edit₂ result
        ∧ CodeAction.Rewrites engine uri context d₂ content edit₂ second
        ∧ CodeAction.Rewrites engine uri context d₁ second edit₁ result
        ∧ TextEdit.appliedAtOnce? [edit₁, edit₂] content = some result := by
  rcases Nat.lt_or_gt_of_ne hij with hlt | hgt
  · obtain ⟨edit₁, edit₂, first, second, result, hfirst, hthen₂, hsecond, hthen₁, honce, -⟩ :=
      quickFixes_commute_of_lt hcontent hd₁ hd₂ h₁ h₂ hlt
    exact ⟨edit₁, edit₂, first, second, result, hfirst, hthen₂, hsecond, hthen₁, honce⟩
  · obtain ⟨edit₂, edit₁, second, first, result, hsecond, hthen₁, hfirst, hthen₂, -, honce⟩ :=
      quickFixes_commute_of_lt hcontent hd₂ hd₁ h₂ h₁ hgt
    exact ⟨edit₁, edit₂, first, second, result, hfirst, hthen₂, hsecond, hthen₁, honce⟩

/-- A note with spaces at the ends of two lines, and a character of two
units. -/
def paddedNote : String := "a \r\n😀  \r\n"

def paddingOn (line column : UInt64) (count : Int64) : Violation where
  line := line
  fix := some { column := some column, deleteCount := some count }

theorem quickFixes_commute_of_padded :
    let d₁ := Diagnostic.ofViolation paddedNote (paddingOn 1 2 1)
    let d₂ := Diagnostic.ofViolation paddedNote (paddingOn 2 5 2)
    ∃ edit₁ edit₂ first second,
      CodeAction.Rewrites .trailing noteUri [d₁, d₂] d₁ paddedNote edit₁ first
        ∧ CodeAction.Rewrites .trailing noteUri [d₁, d₂] d₂ first edit₂ "a\r\n😀\r\n"
        ∧ CodeAction.Rewrites .trailing noteUri [d₁, d₂] d₂ paddedNote edit₂ second
        ∧ CodeAction.Rewrites .trailing noteUri [d₁, d₂] d₁ second edit₁ "a\r\n😀\r\n"
        ∧ TextEdit.appliedAtOnce? [edit₁, edit₂] paddedNote = some "a\r\n😀\r\n" := by
  intro d₁ d₂
  have hfix₁ : d₁.fix? = (paddingOn 1 2 1).fix := Diagnostic.fix?_ofViolation ..
  have hfix₂ : d₂.fix? = (paddingOn 2 5 2).fix := Diagnostic.fix?_ofViolation ..
  have h₁ : d₁.Rewords .trailing paddedNote 0 "a" :=
    ⟨⟨_, "a ", hfix₁, fun _ h => (by cases h), by decide +kernel, by decide +kernel,
      by decide +kernel⟩, by decide, by decide⟩
  have h₂ : d₂.Rewords .trailing paddedNote 1 "😀" :=
    ⟨⟨_, "😀  ", hfix₂, fun _ h => (by cases h), by decide +kernel, by decide +kernel,
      by decide +kernel⟩, by decide, by decide⟩
  have hcontent : Text.FitsWords paddedNote := ⟨by decide +kernel, by decide +kernel⟩
  obtain ⟨edit₁, edit₂, first, second, result, hfirst, hthen₂, hsecond, hthen₁, honce⟩ :=
    @quickFixes_commute .trailing noteUri paddedNote [d₁, d₂] d₁ d₂ 0 1 "a" "😀" hcontent
      (by simp) (by simp) h₁ h₂ (by decide)
  obtain rfl : edit₁ = ⟨⟨⟨0, 0⟩, ⟨0, 2⟩⟩, "a"⟩ := hfirst.edit_eq (by decide +kernel)
  obtain rfl : edit₂ = ⟨⟨⟨1, 0⟩, ⟨1, 4⟩⟩, "😀"⟩ := hsecond.edit_eq (by decide +kernel)
  obtain rfl : first = "a\r\n😀  \r\n" := hfirst.result_eq (by decide +kernel)
  have hresult : result = "a\r\n😀\r\n" := hthen₂.result_eq (by decide +kernel)
  exact ⟨_, _, _, second, hfirst, hresult ▸ hthen₂, hsecond, hresult ▸ hthen₁,
    hresult ▸ honce⟩

end LintServer
