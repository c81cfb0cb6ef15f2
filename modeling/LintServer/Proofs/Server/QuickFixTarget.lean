import LintServer.Proofs.Server.QuickFix

/-!
# Where a quick fix lands

The line that a fix names is a 64-bit number that comes back from the editor,
and it may be out of date. Its distance from the first line goes through a
32-bit word, and then a line is looked up there. So a quick fix is offered just
if the document has a line under what is left of the number, and that is the
line it rewrites (`quickFix_lands_on_line`). A number of at most 2³² is left as
it is, so a line past the end of the document gets no quick fix. A greater one
is not, and may come out at the start of the document
(`quickFix_offered_of_wrapped`).
-/

namespace LintServer

namespace Diagnostic

theorem toNat_fixIndex_of_line {fix : Fix} {number : UInt64} (h : fix.line = some number)
    (d : Diagnostic) : (d.fixIndex fix).toNat = (number.toNat - 1) % UInt32.size := by
  rw [fixIndex, h]
  exact UInt32.toNat_ofNat'

theorem isSome_edit?_iff (d : Diagnostic) (fix : Fix) (engine : Engine) (content : String) :
    (d.edit? fix engine content).isSome ↔ (d.fixIndex fix).toNat < Text.lineCount content := by
  rw [edit?, Option.isSome_map, Text.isSome_lineAt?_iff]

end Diagnostic

namespace CodeAction

variable {engine : Engine} {uri : Uri} {content : String} {context : List Diagnostic}
  {d : Diagnostic} {fix : Fix}

theorem isSome_quickFix?_iff (hfix : d.fix? = some fix) :
    (quickFix? engine uri content context d).isSome
      ↔ (d.fixIndex fix).toNat < Text.lineCount content := by
  rw [← Diagnostic.isSome_edit?_iff d fix engine, quickFix?, hfix, Option.bind_eq_bind,
    Option.bind_some]
  cases d.edit? fix engine content <;> rfl

/-- The quick fix for a diagnostic of the request is among those that are
offered. -/
def Offers (engine : Engine) (uri : Uri) (content : String) (context : List Diagnostic)
    (d : Diagnostic) : Prop :=
  ∃ action ∈ quickFixes engine uri content context,
    quickFix? engine uri content context d = some action

theorem offers_iff (hd : d ∈ context) (hfix : d.fix? = some fix) :
    Offers engine uri content context d ↔ (d.fixIndex fix).toNat < Text.lineCount content := by
  have hsome : (quickFix? engine uri content context d).isSome ↔ _ := isSome_quickFix?_iff hfix
  rw [← hsome, Option.isSome_iff_exists]
  exact ⟨fun ⟨action, _, h⟩ => ⟨action, h⟩, fun ⟨action, h⟩ => ⟨action, mem_quickFixes hd h, h⟩⟩

end CodeAction

open CodeAction in
/-- **A quick fix lands on the line that its fix names**, if the number of that
line is at most 2³²: it is offered if and only if the document has that line,
and what the engine makes of the line is put there. A number of any size lands
on what is left of it in 32 bits, counted from zero. -/
theorem quickFix_lands_on_line {engine : Engine} {uri : Uri} {content : String}
    {context : List Diagnostic} {d : Diagnostic} {fix : Fix} {number : UInt64} (hd : d ∈ context)
    (hfix : d.fix? = some fix) (hnumber : fix.line = some number) (hpos : 1 ≤ number.toNat) :
    let index := (number.toNat - 1) % UInt32.size
    (Offers engine uri content context d ↔ index < Text.lineCount content)
      ∧ (∀ action, quickFix? engine uri content context d = some action →
          ∃ edit line, action.edit = ⟨uri, [edit]⟩ ∧ Text.lineAt? content index = some line
            ∧ ∀ newText,
              engine.fixLine line fix (Text.LineEnding.ofText content.toList).toString
                  = some newText →
                edit.range.start.line.toNat = index ∧ edit.range.stop.line.toNat = index)
      ∧ (number.toNat ≤ UInt32.size →
          index = number.toNat - 1
            ∧ (Offers engine uri content context d ↔ number.toNat ≤ Text.lineCount content)) := by
  intro index
  have hindex : (d.fixIndex fix).toNat = index := Diagnostic.toNat_fixIndex_of_line hnumber d
  have hoffers : Offers engine uri content context d ↔ index < Text.lineCount content :=
    hindex ▸ offers_iff hd hfix
  refine ⟨hoffers, fun action haction => ?_, fun hfits => ?_⟩
  · obtain ⟨fix', edit, hfix', hedit, haction⟩ := exists_edit_of_quickFix? haction
    obtain rfl : fix = fix' := Option.some.inj (hfix.symm.trans hfix')
    obtain ⟨line, hline, hnew⟩ := Diagnostic.exists_line_of_edit? hedit
    refine ⟨edit, line, haction, hindex ▸ hline, fun newText h => ?_⟩
    rw [hnew newText h]
    exact ⟨hindex, hindex⟩
  · have hwhole : index = number.toNat - 1 := Nat.mod_eq_of_lt (by omega)
    refine ⟨hwhole, hoffers.trans ?_⟩
    omega

def insertionOn (line : UInt64) : Violation where
  line := 1
  fix := some { line := some line, insertText := some "x" }

/-- The quick fixes for the last line of a note and for the line behind it. -/
theorem quickFix_lands_on_line_of_last :
    let second := Diagnostic.ofViolation "a\nb" (insertionOn 2)
    let third := Diagnostic.ofViolation "a\nb" (insertionOn 3)
    CodeAction.Offers .trailing noteUri "a\nb" [second, third] second
      ∧ ¬ CodeAction.Offers .trailing noteUri "a\nb" [second, third] third := by
  intro second third
  have hlines : Text.lineCount "a\nb" = 2 := by decide +kernel
  have hsecond : second.fix? = (insertionOn 2).fix := Diagnostic.fix?_ofViolation ..
  have hthird : third.fix? = (insertionOn 3).fix := Diagnostic.fix?_ofViolation ..
  obtain ⟨-, -, hlast⟩ := @quickFix_lands_on_line .trailing noteUri "a\nb" [second, third] second
    _ 2 (by simp) hsecond rfl (by decide)
  obtain ⟨-, -, hbehind⟩ := @quickFix_lands_on_line .trailing noteUri "a\nb" [second, third] third
    _ 3 (by simp) hthird rfl (by decide)
  rw [hlines] at hlast hbehind
  constructor
  · exact (hlast (by decide)).2.mpr (by decide)
  · exact fun hoffered => absurd ((hbehind (by decide)).2.mp hoffered) (by decide)

/-- A quick fix for a line 2³² lines past the first one of a short document is
offered, and it rewrites the first one. -/
theorem quickFix_offered_of_wrapped :
    let d := Diagnostic.ofViolation "short\n" (insertionOn 4294967297)
    ¬ 4294967297 ≤ Text.lineCount "short\n"
      ∧ ∃ action ∈ CodeAction.quickFixes .trailing noteUri "short\n" [d],
          action.edit = ⟨noteUri, [⟨⟨⟨0, 0⟩, ⟨0, 5⟩⟩, "xshort"⟩]⟩ := by
  decide +kernel

end LintServer
