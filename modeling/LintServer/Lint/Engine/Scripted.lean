import LintServer.Lint.Engine

/-!
# Engines that do not look at the text

`scripted` answers the calls from a list of outcomes, the last of which repeats. `echo` reports
what it was called with.
-/

namespace LintServer.Engine

def scripted (outcomes : List LintOutcome) : Engine where
  lint call _ _ _ :=
    match outcomes[call]? with
    | some outcome => outcome
    | none => outcomes.getLast?.getD (.found [])

def echo : Engine :=
  steady fun name text rules =>
    .found [{
      line := 1
      names := ["ECHO", name]
      description := rules.toJson.compact
      detail := some text }]

/-- The engine with one answer for every line fix. -/
def withFixedLine (engine : Engine) (answer : Option String) : Engine :=
  { engine with fixLine := fun _ _ _ => answer }

end LintServer.Engine
