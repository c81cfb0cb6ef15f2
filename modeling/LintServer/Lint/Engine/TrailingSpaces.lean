import LintServer.Lint.Engine

/-!
# The trailing-space engine

One rule: a line must not end in spaces. Lines end at `'\n'`, so a `'\r'` before that hides the
spaces in front of it. The column of the fix is one more than the measure of the text that stays:
`trailing` measures it in characters.
-/

namespace LintServer.Engine

/-- How many spaces end a line. -/
def trailingSpaces (line : List Char) : Nat :=
  (line.reverse.takeWhile (· == ' ')).length

/-- The violation of a line, given its number from one. -/
def trailingViolation? (measure : List Char → Nat) (number : Nat) (line : List Char) :
    Option Violation :=
  let count := trailingSpaces line
  if count = 0 then none
  else
    let column := UInt64.ofNat (measure (line.take (line.length - count)) + 1)
    some
      { line := UInt64.ofNat number
        names := ["MD009", "no-trailing-spaces"]
        description := "Trailing spaces"
        detail := some ("Expected: 0; Actual: " ++ toString count)
        span := some ⟨column, UInt64.ofNat count⟩
        fix := some { column := some column, deleteCount := some (Int64.ofNat count) } }

/-- The outcomes of a function of the lines, each given its number from `number` on. -/
def overLines {α : Type} (f : Nat → List Char → List α) (number : Nat) :
    List (List Char) → List α
  | [] => []
  | line :: lines => f number line ++ overLines f (number + 1) lines

def trailingSpacesLint (measure : List Char → Nat) (_name text : String) (_rules : Rules) :
    LintOutcome :=
  .found (overLines (fun number line => (trailingViolation? measure number line).toList) 1
    (Text.pieces '\n' text.toList))

def trailing : Engine := steady (trailingSpacesLint List.length)

end LintServer.Engine
