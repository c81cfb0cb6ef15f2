import LintServer.Lint.Engine.TrailingSpaces

/-!
# The replacement engine

A rule is a text to find and a text to put in its place. On each line every rule that finds its
text reports the first place where it stands.
-/

namespace LintServer.Engine

/-- The byte offset at which a text first occurs. -/
def firstOffset? (find : List Char) : List Char → Option Nat
  | [] => if find.isEmpty then some 0 else none
  | c :: cs =>
    if find.isPrefixOf (c :: cs) then some 0
    else (firstOffset? find cs).map (· + c.utf8Size)

def replacementViolation? (find replacement : String) (number : Nat) (line : List Char) :
    Option Violation :=
  (firstOffset? find.toList line).map fun offset =>
    let column := UInt64.ofNat (offset + 1)
    let length := Text.byteLength find.toList
    { line := UInt64.ofNat number
      names := ["REPLACE"]
      description := "found"
      span := some ⟨column, UInt64.ofNat length⟩
      fix := some
        { column := some column
          deleteCount := some (Int64.ofNat length)
          insertText := some replacement } }

def replacementLint (rules : List (String × String)) (_name text : String) (_settings : Rules) :
    LintOutcome :=
  .found (overLines
    (fun number line => rules.filterMap fun (find, replacement) =>
      replacementViolation? find replacement number line)
    1 (Text.pieces '\n' text.toList))

def replacement (rules : List (String × String)) : Engine := steady (replacementLint rules)

end LintServer.Engine
