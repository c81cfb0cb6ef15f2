import LintServer.Lint.Engine
import LintServer.Markdown.Rules

/-!
# The Markdown engine

Runs the Markdown rules that the settings turn on, and reports their findings in the order of
their lines. The settings have to make sense first: `default` is a switch, `extends` and `preset`
are names, and every other entry turns a rule on or off, sets its severity or holds its options.
-/

namespace LintServer.Markdown

/-! ## Checking the settings -/

/-- An entry for a rule: a switch, a severity or options. -/
def isRuleEntry : Json → Bool
  | .bool _ | .str _ | .obj _ => true
  | _ => false

def reservedKeys : List String := ["default", "extends", "preset"]

/-- What the settings say besides the rule entries. -/
structure Options where
  byDefault : Option Bool
  extending : Option String
  deriving Repr, DecidableEq

/-- The options of settings that make sense. -/
def optionsOf (settings : Fields) : Except Json.DecodeError Options := do
  let byDefault ← Json.field settings "default" Json.toBool
  let extending ← Json.field settings "extends" Json.toStr
  let _preset ← Json.field settings "preset" Json.toStr
  let entries := settings.filter fun field => !reservedKeys.contains field.1
  if entries.all fun field => isRuleEntry field.2 then return { byDefault, extending }
  else throw (.described "data did not match any variant of untagged enum RuleConfig")

/-- Whether a rule runs: its own entry decides, and without one the default. -/
def isOn (settings : Fields) (options : Options) (id : String) : Bool :=
  match settings.lookup id with
  | some (.bool on) => on
  | some (.str _) => true
  | some (.obj fields) => fields.lookup "enabled" != some (.bool false)
  | _ => options.byDefault.getD true

/-! ## The engine -/

/-- The findings as violations, in the order of their lines; those of one line keep theirs. -/
def toViolations (findings : List Finding) : List Violation :=
  (findings.map Finding.toViolation).mergeSort fun a b => a.line ≤ b.line

def findings (isOn : String → Bool) (text : String) : List Finding :=
  let lines := numbered 1 (terminatedLines text.toList)
  (rules.filter fun rule => isOn rule.id).flatMap fun rule => rule.findings lines

def lint (_name text : String) (settings : Rules) : LintOutcome :=
  match optionsOf settings.fields with
  | .error reason => .failed (.engine ("invalid rule configuration: " ++ reason.message))
  | .ok options =>
    if options.extending.isSome then
      .failed (.engine ("IO error: " ++ ReadFailure.notFound.message))
    else .found (toViolations (findings (isOn settings.fields options) text))

def engine : Engine := .steady lint

end LintServer.Markdown
