import LintServer.Lint.Batch
import LintServer.Lint.Violation

/-!
# Repairing a text by its violations

A finding of the rule library becomes a violation of the server with the same content, and the fix
of a violation becomes a patch again when it is used (`Finding.toViolation`, `Fix.toPatch`). Both
ways to use a fix go through the batch repair: `Repair.line` applies one fix to a line taken
on its own, `Repair.text` applies the fixes of all violations to the document. Where the batch
repair fails the text stays as it is.
-/

namespace LintServer

namespace Fix

/-- A delete count moved into the 32-bit range. -/
def clampCount (count : Int64) : Int32 :=
  Int32.ofInt (max (-0x80000000) (min count.toInt 0x7fffffff))

def toPatch (fix : Fix) : Patch where
  line := fix.line
  column := fix.column
  deleteCount := fix.deleteCount.map clampCount
  insertText := fix.insertText

end Fix

def Patch.toFix (patch : Patch) : Fix where
  line := patch.line
  column := patch.column
  deleteCount := patch.deleteCount.map Int32.toInt64
  insertText := patch.insertText

def Finding.toViolation (finding : Finding) : Violation where
  line := finding.line
  names := finding.names
  description := finding.description
  detail := finding.detail
  span := finding.span.map fun (start, length) => ⟨start, length⟩
  fix := finding.patch.map Patch.toFix

namespace Repair

/-- The violation as a finding with nothing but its place and its repair. -/
def finding (v : Violation) : Finding where
  line := v.line
  patch := v.fix.map Fix.toPatch

/-- The text with the patches of the findings applied, or as it was if one would cut a
character. -/
def run (text : String) (findings : List Finding) : String :=
  (Batch.applied? text findings).getD text

/-- A line with a fix applied, whatever line the fix names; none if the fix removes the line.
Newlines in the outcome become `ending`. -/
def line (text : String) (fix : Fix) (ending : String) : Option String :=
  if fix.deletesLine then none
  else
    let fixed := run text [{ line := 1, patch := some { fix.toPatch with line := some 1 } }]
    if ending = "\n" then some fixed
    else some (String.ofList (Text.replaceNewlines ending.toList fixed.toList))

/-- The document with the fixes of all violations applied in one pass. -/
def text (content : String) (violations : List Violation) : String :=
  let fixable := violations.filter fun v => v.fix.isSome
  if fixable.isEmpty then content else run content (fixable.map finding)

end Repair

end LintServer
