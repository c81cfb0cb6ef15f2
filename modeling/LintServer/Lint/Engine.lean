import LintServer.Config.Rules
import LintServer.Error
import LintServer.Lint.Repair

/-!
# Lint engines

The server never looks into a document itself. All it knows comes from an engine: the violations
of a text, the text of a line after a fix, and the text of the document after all fixes. A lint
call may fail or crash; `Engine.violations` turns both into an error of the server. An engine may
answer differently from call to call, so a call carries its number; `Engine.steady` makes an
engine that does not.

`Engine.fixUntilStable` repairs a text again and again until a pass changes nothing, ten passes at
most.
-/

namespace LintServer

/-- What a lint call comes to. -/
inductive LintOutcome where
  | found (violations : List Violation)
  | failed (error : Error)
  | crashed (message : Option String)
  deriving Repr, DecidableEq

/-- A lint engine. `lint` takes the number of lint calls made before, the name and text of the
document and the rule settings. -/
structure Engine where
  lint : (call : Nat) → (name text : String) → Rules → LintOutcome
  fixLine : (line : String) → Fix → (ending : String) → Option String := Repair.line
  fixText : (text : String) → List Violation → String := Repair.text

namespace Engine

/-- The engine that lints by a function of name, text and settings. -/
def steady (lint : (name text : String) → Rules → LintOutcome) : Engine where
  lint _ := lint

/-- Whether the lint outcome does not depend on the number of the call. -/
def IsSteady (engine : Engine) : Prop :=
  ∀ call name text rules, engine.lint call name text rules = engine.lint 0 name text rules

/-! ## One lint call -/

/-- The error that a failed or crashed lint call is reported as. -/
def errorOf : Error → Error
  | .engine reason => .engine reason
  | other => .engine other.message

def crashText : Option String → String
  | some message => "engine panicked: " ++ message
  | none => "engine panicked"

/-- The violations of a text, or the error that the call ended in. -/
def violations (engine : Engine) (call : Nat) (name text : String) (rules : Rules) :
    Except Error (List Violation) :=
  match engine.lint call name text rules with
  | .found vs => .ok vs
  | .failed error => .error (errorOf error)
  | .crashed message => .error (.engine (crashText message))

/-! ## Repairing until nothing changes -/

def maxPasses : Nat := 10

/-- At most `passes` passes of lint and repair, and the number of lint calls made by then. -/
def fixPasses (engine : Engine) (name : String) (rules : Rules) :
    (passes call : Nat) → String → Except Error String × Nat
  | 0, call, text => (.ok text, call)
  | passes + 1, call, text =>
    match engine.violations call name text rules with
    | .error error => (.error error, call + 1)
    | .ok vs =>
      let next := engine.fixText text vs
      if next = text then (.ok text, call + 1)
      else fixPasses engine name rules passes (call + 1) next

/-- The text after repeated repair, and the number of lint calls made by then. -/
def fixUntilStable (engine : Engine) (name : String) (rules : Rules) (call : Nat)
    (text : String) : Except Error String × Nat :=
  engine.fixPasses name rules maxPasses call text

end Engine

end LintServer
