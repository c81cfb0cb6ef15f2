import LintServer.Config.Rules
import LintServer.Json.Decode

/-!
# Editor settings

An editor may send settings of its own when it starts the server. Only its section on Markdown
linting counts, and of that only the rule settings, which may be left out at every level.
-/

namespace LintServer

/-- The section on Markdown linting. -/
structure LintSettings where
  config : Option Rules := none

/-- All settings of an editor. -/
structure EditorSettings where
  markdownlint : LintSettings := {}

namespace LintSettings

open Json in
def ofJson : Json → Except DecodeError LintSettings :=
  let rules (v : Json) : Except DecodeError Rules := (toFields v).map Rules.ofFields
  toRecord "MarkdownlintSettings"
    (fun fields => return ⟨← field fields "config" rules⟩)
    (fun items => do
      let config ← item items 0 rules
      atMost 1 items
      return ⟨config⟩)

end LintSettings

namespace EditorSettings

open Json in
/-- Settings from a value. A null stands for no settings, but only as a whole. -/
def ofJson : Json → Except DecodeError EditorSettings
  | .null => .ok {}
  | v =>
    let lint (v : Option Json) : Except DecodeError LintSettings :=
      v.elim (.ok {}) LintSettings.ofJson
    toRecord "EditorSettings"
      (fun fields => return ⟨← lint (fields.lookup "markdownlint")⟩)
      (fun items => do
        let markdownlint ← lint items.head?
        atMost 1 items
        return ⟨markdownlint⟩) v

/-- The rule settings among them. -/
def rules? (settings : EditorSettings) : Option Rules := settings.markdownlint.config

end EditorSettings

end LintServer
