import LintServer.Protocol.Diagnostic
import LintServer.Protocol.TextEdit

/-!
# Code actions

A code action offers the user a workspace edit. The edits of this server all touch one document.
-/

namespace LintServer

/-- Edits of one document. -/
structure WorkspaceEdit where
  uri : Uri
  edits : List TextEdit
  deriving Repr, DecidableEq

def WorkspaceEdit.toJson (e : WorkspaceEdit) : Json :=
  .obj [("changes", .obj [(e.uri.text, .arr (e.edits.map TextEdit.toJson))])]

/-- The kinds of code action that this server knows. -/
inductive ActionKind where
  | quickFix
  | fixAll
  deriving Repr, DecidableEq

def ActionKind.text : ActionKind → String
  | .quickFix => "quickfix"
  | .fixAll => "source.fixAll"

structure CodeAction where
  title : String
  kind : ActionKind
  diagnostics : Option (List Diagnostic) := none
  edit : WorkspaceEdit
  deriving Repr, DecidableEq

def CodeAction.toJson (a : CodeAction) : Json :=
  .obj <|
    Json.field? "diagnostics"
      (a.diagnostics.map fun diagnostics => .arr (diagnostics.map Diagnostic.toJson)) ++
    [("edit", a.edit.toJson), ("kind", .str a.kind.text), ("title", .str a.title)]

end LintServer
