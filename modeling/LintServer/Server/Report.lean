import LintServer.Lint.Violation
import LintServer.Protocol.Diagnostic

/-!
# Violations as diagnostics

A violation is shown as a warning on the range it concerns. Its fix goes along as data, which the
editor hands back, so that a later request for code actions finds the fix in the diagnostic
(`Diagnostic.fix?`).
-/

namespace LintServer

namespace Violation

/-- The line that the violation is on, counted from zero; there is none before the first. -/
def lineIndex (v : Violation) : Nat := v.line.toNat - 1

/-- The range of the violation in the text that was linted: the characters that its bytes belong
to, or as many units as bytes if the text has no such line. A violation without a span is shown at
the start of its line. -/
def range (v : Violation) (content : String) : Range :=
  let line := UInt32.ofNat v.lineIndex
  match v.span, Text.lineAt? content v.lineIndex with
  | some span, some text =>
    let start := span.start.toNat - 1
    let stop := min (start + span.length.toNat) (UInt64.size - 1)
    ⟨⟨line, Text.unitColumn text start⟩, ⟨line, Text.unitColumn text stop⟩⟩
  | some span, none => .ofOneBased v.line span.start span.length
  | none, _ => ⟨⟨line, 0⟩, ⟨line, 0⟩⟩

/-- The names of the rule, a colon and a space, and what is wrong. -/
def message (v : Violation) : String :=
  v.joinedNames ++ ": " ++ v.description ++ v.detailSuffix

end Violation

namespace Diagnostic

/-- The source of the diagnostics of this server. -/
def ownSource : String := "mkdlint"

/-- The data of a diagnostic with a fix. -/
def dataOf (fix : Fix) : Json := .obj [("fix", fix.toJson)]

def ofViolation (content : String) (v : Violation) : Diagnostic where
  range := v.range content
  severity := some warning
  code := v.primaryName?.map .name
  source := some ownSource
  message := v.message
  data := v.fix.map dataOf

/-- A fix from the data of a diagnostic. -/
def fixOfData : Json → Except Json.DecodeError Fix :=
  Json.toRecord "DiagnosticData" (fun fields => Json.required fields "fix" Fix.ofJson)
    (fun items =>
      match items with
      | [] => .error (.tooFewItems 0 "struct DiagnosticData with 1 element")
      | first :: _ => do
        let fix ← Fix.ofJson first
        Json.atMost 1 items
        return fix)

/-- The fix that a diagnostic of this server carries. -/
def fix? (d : Diagnostic) : Option Fix :=
  if d.source = some ownSource then d.data.bind fun data => (fixOfData data).toOption else none

end Diagnostic

end LintServer
