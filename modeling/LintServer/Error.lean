import LintServer.Files.FileSystem
import LintServer.Json.Decode
import LintServer.Json.Reader

/-!
# Errors

What can go wrong while the server works. None of these errors makes a request fail: a
configuration error is collected and logged while the load goes on, and an engine error means
that a document has no violations for now.
-/

namespace LintServer

/-- The kind of value, as a message about a configuration file names it. -/
def Json.Kind.description : Json.Kind → String
  | .null => "null"
  | .bool => "a boolean"
  | .num => "a number"
  | .str => "a string"
  | .arr => "a sequence"
  | .obj => "a mapping"

/-- Why the text of a configuration file is refused. -/
inductive Malformed where
  | json (e : Json.SyntaxError)
  | yaml
  | notAMapping (found : Json.Kind)
  | other (text : String)
  deriving Repr, DecidableEq

def Malformed.message : Malformed → String
  | .json e => e.message
  | .yaml => "<yaml error>"
  | .notAMapping found =>
    "expected a mapping of rule names to settings, found " ++ found.description
  | .other text => text

inductive Error where
  | missingRoot
  | unreadable (path : Path) (reason : ReadFailure)
  | malformed (path : Path) (reason : Malformed)
  | settings (reason : Json.DecodeError)
  | engine (reason : String)
  deriving Repr, DecidableEq

namespace Error

def message : Error → String
  | .missingRoot => "No workspace root folder; skipping project config discovery"
  | .unreadable path reason =>
    "Failed to read config file " ++ path.display ++ ": " ++ reason.message
  | .malformed path reason =>
    "Failed to parse config file " ++ path.display ++ ": " ++ reason.message
  | .settings reason => "Invalid editor settings: " ++ reason.message
  | .engine reason => "Lint engine failure: " ++ reason

/-- The message of the failure behind an error, where another one caused it. -/
def cause? : Error → Option String
  | .unreadable _ reason => some reason.message
  | _ => none

end Error

end LintServer
