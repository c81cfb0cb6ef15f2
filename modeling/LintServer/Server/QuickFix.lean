import LintServer.Lint.Engine
import LintServer.Protocol.CodeAction
import LintServer.Server.Report

/-!
# Fixes as edits

A quick fix rewrites the line that a diagnostic's fix concerns, as that line reads now. Fixing
everything replaces the whole document.
-/

namespace LintServer

namespace Diagnostic

/-- The number from zero of the line that a fix of the diagnostic rewrites. -/
def fixIndex (d : Diagnostic) (fix : Fix) : UInt32 :=
  match fix.line with
  | some line => UInt32.ofNat (line.toNat - 1)
  | none => d.range.start.line

/-- The names in front of the first colon and space of the message, or all of it. -/
def ruleTitle (d : Diagnostic) : String :=
  String.ofList (beforeSeparator d.message.toList)
where
  /-- The characters in front of the first colon with a space behind it. -/
  beforeSeparator : List Char → List Char
    | [] => []
    | [c] => [c]
    | c :: x :: rest => if c = ':' ∧ x = ' ' then [] else c :: beforeSeparator (x :: rest)

/-- The edit that a fix comes to. One that leaves no line deletes the range of the diagnostic; one
for a line that does not exist comes to nothing. -/
def edit? (d : Diagnostic) (fix : Fix) (engine : Engine) (content : String) : Option TextEdit :=
  let index := d.fixIndex fix
  (Text.lineAt? content index.toNat).map fun line =>
    match engine.fixLine line fix (Text.LineEnding.ofText content.toList).toString with
    | some text => ⟨.ofLine index line, text⟩
    | none => ⟨d.range, ""⟩

end Diagnostic

namespace CodeAction

/-- The quick fix for a diagnostic that has one. It refers to all diagnostics of the request. -/
def quickFix? (engine : Engine) (uri : Uri) (content : String) (context : List Diagnostic)
    (d : Diagnostic) : Option CodeAction := do
  let fix ← d.fix?
  let edit ← d.edit? fix engine content
  return {
    title := d.ruleTitle
    kind := .quickFix
    diagnostics := some context
    edit := ⟨uri, [edit]⟩ }

/-- A quick fix for each diagnostic that has one. -/
def quickFixes (engine : Engine) (uri : Uri) (content : String) (context : List Diagnostic) :
    List CodeAction :=
  context.filterMap (quickFix? engine uri content context)

/-- The action that replaces the whole document. -/
def fixAll (uri : Uri) (edit : TextEdit) : CodeAction where
  title := "Fix all supported mkdlint violations"
  kind := .fixAll
  edit := ⟨uri, [edit]⟩

end CodeAction

/-- The edit that replaces the whole document by its fixed text, unless nothing changes. -/
def TextEdit.replacing? (content fixed : String) : Option TextEdit :=
  if fixed = content then none else some ⟨.full content, fixed⟩

end LintServer
