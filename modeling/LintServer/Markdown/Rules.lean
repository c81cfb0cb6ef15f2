import LintServer.Lint.Batch

/-!
# Markdown rules

Five rules that look at one line at a time, or at runs of blank lines. They see a document as its
lines with their terminators, numbered from one, and answer findings.
-/

namespace LintServer.Markdown

/-! ## Lines with terminators -/

/-- The lines of a text, each with its `'\n'`; the last may lack it, and is never empty. -/
def terminatedLines : List Char → List (List Char)
  | [] => []
  | '\n' :: cs => ['\n'] :: terminatedLines cs
  | c :: cs =>
    match terminatedLines cs with
    | [] => [[c]]
    | line :: lines => (c :: line) :: lines

abbrev NumberedLine := Nat × List Char

/-- Lines with their numbers from `number` on. -/
def numbered (number : Nat) : List (List Char) → List NumberedLine
  | [] => []
  | line :: lines => (number, line) :: numbered (number + 1) lines

/-! ## The rules -/

/-- A rule: its names and what it finds in the lines of a document. -/
structure Rule where
  id : String
  findings : List NumberedLine → List Finding

/-- Shared by the rules that report a count. -/
def countDetail (expected actual : Nat) : String :=
  "Expected: " ++ toString expected ++ "; Actual: " ++ toString actual

/-- The line without its terminator ends in a space or a tab. -/
def trailingSpaces (number : Nat) (line : List Char) : List Finding :=
  let body := Text.dropEndWhile (· == '\r') (Text.dropEndWhile (· == '\n') line)
  if body.getLast? = some ' ' ∨ body.getLast? = some '\t' then
    let start := Text.byteLength (Text.trimEnd body)
    let count := Text.byteLength body - start
    [{ line := UInt64.ofNat number
       names := ["MD009", "no-trailing-spaces"]
       description := "Trailing spaces"
       detail := some (countDetail 0 count)
       span := some (UInt64.ofNat (start + 1), UInt64.ofNat count)
       patch := some
        { column := some (UInt64.ofNat (start + 1)), deleteCount := some (Int32.ofNat count) } }]
  else []

/-- The columns, from `column` on, at which a character stands. -/
def columnsOf (c : Char) (column : Nat) : List Char → List Nat
  | [] => []
  | x :: xs => if x = c then column :: columnsOf c (column + 1) xs else columnsOf c (column + 1) xs

/-- Every tab of the line becomes four spaces. -/
def hardTabs (number : Nat) (line : List Char) : List Finding :=
  let body := line.takeWhile fun c => c != '\n' && c != '\r'
  (columnsOf '\t' 1 body).map fun column =>
    { line := UInt64.ofNat number
      names := ["MD010", "no-hard-tabs"]
      description := "Hard tabs"
      detail := some ("Column: " ++ toString column)
      span := some (UInt64.ofNat column, 1)
      patch := some
        { column := some (UInt64.ofNat column)
          deleteCount := some 1
          insertText := some "    " } }

/-- A run of `count` blank lines, the first of them line `first`. -/
def blankRun (first count : Nat) : List Finding :=
  if count ≤ 1 then []
  else
    [{ line := UInt64.ofNat (first + 1)
       names := ["MD012", "no-multiple-blanks"]
       description := "Multiple consecutive blank lines"
       detail := some (countDetail 1 count)
       patch := some
        { line := some (UInt64.ofNat (first + 1)), column := some 1, deleteCount := some (-1) } }]

/-- The runs of blank lines, the last `run` lines read being blank. -/
def blankRuns (run : Nat) : List NumberedLine → (next : Nat) → List Finding
  | [], next => blankRun (next - run) run
  | (number, line) :: lines, _ =>
    if Text.isBlank line then blankRuns (run + 1) lines (number + 1)
    else blankRun (number - run) run ++ blankRuns 0 lines (number + 1)

/-- A heading mark with no space after it. -/
def missingSpace (number : Nat) (line : List Char) : List Finding :=
  let trimmed := Text.trimStart line
  let level := (trimmed.takeWhile (· == '#')).length
  let rest := trimmed.drop level
  if 1 ≤ level ∧ level ≤ 6 ∧ !Text.isBlank rest ∧ !rest.head?.any (· ∈ [' ', '\t']) then
    let column := UInt64.ofNat (level + 1)
    [{ line := UInt64.ofNat number
       names := ["MD018", "no-missing-space-atx"]
       description := "No space after hash on atx style heading"
       span := some (column, 1)
       patch := some { column := some column, insertText := some " " } }]
  else []

/-- The last line has no terminator. -/
def missingNewline (lines : List NumberedLine) : List Finding :=
  match lines.getLast? with
  | none => []
  | some (number, line) =>
    if line.getLast? = some '\n' then []
    else
      [{ line := UInt64.ofNat number
         names := ["MD047", "single-trailing-newline"]
         description := "Files should end with a single newline character"
         patch := some
          { line := some (UInt64.ofNat number)
            column := some (UInt64.ofNat (Text.byteLength line + 1))
            insertText := some "\n" } }]

def eachLine (f : Nat → List Char → List Finding) (lines : List NumberedLine) : List Finding :=
  lines.flatMap fun (number, line) => f number line

/-- All rules, in the order in which they run. -/
def rules : List Rule :=
  [⟨"MD009", eachLine trailingSpaces⟩, ⟨"MD010", eachLine hardTabs⟩,
    ⟨"MD012", fun lines => blankRuns 0 lines 1⟩, ⟨"MD018", eachLine missingSpace⟩,
    ⟨"MD047", missingNewline⟩]

end LintServer.Markdown
