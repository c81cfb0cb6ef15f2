import LintServer.Lint.Patch

/-!
# Batch repair

The findings of one lint run are repaired in one pass over the lines of the document, from the
last line to the first and within a line from right to left, so that no patch moves the place of
one that is still to come. A line that a patch has removed, or broken into several, takes no
further patch. `Batch.applied?` fails where a patch would cut a character in two.
-/

namespace LintServer

/-- What a rule reports for a line: the rule broken, the bytes concerned and the repair. -/
structure Finding where
  line : UInt64
  names : List String := []
  description : String := ""
  detail : Option String := none
  span : Option (UInt64 × UInt64) := none
  patch : Option Patch := none
  deriving Repr, DecidableEq

namespace Batch

/-! ## The patches in order -/

/-- A patch and the line it applies to. -/
structure Job where
  line : UInt64
  patch : Patch
  deriving Repr, DecidableEq

/-- A patch names its line, or applies to the line of its finding. -/
def jobs (findings : List Finding) : List Job :=
  findings.filterMap fun finding =>
    finding.patch.map fun patch => ⟨patch.line.getD finding.line, patch⟩

def Job.column (job : Job) : UInt64 := job.patch.column.getD 1

/-- Whether a job may be done before another: a later line, or the same line and a column that is
no less. -/
def Job.before (a b : Job) : Bool :=
  b.line < a.line || (a.line == b.line && b.column ≤ a.column)

/-- The jobs from the end of the document to its start; equal places keep their order. -/
def inOrder (jobs : List Job) : List Job := jobs.mergeSort Job.before

/-! ## Lines under repair -/

/-- A line under repair, and whether it was removed or broken into several. -/
structure Slot where
  text : List Char
  removed : Bool := false
  broken : Bool := false
  deriving Repr, DecidableEq

/-- A line after a patch. -/
def Slot.patched? (ending : Text.LineEnding) (patch : Patch) (slot : Slot) : Option Slot :=
  if patch.deletesLine then some { slot with removed := true }
  else if slot.removed || slot.broken then some slot
  else (patch.splice? ending slot.text).map fun text =>
    { slot with text := text, broken := patch.addsLines }

/-- The lines after a job; a job for a line that is not there does nothing. -/
def runJob? (ending : Text.LineEnding) (slots : List Slot) (job : Job) : Option (List Slot) :=
  let index := job.line.toNat - 1
  match slots[index]? with
  | none => some slots
  | some slot => (slot.patched? ending job.patch).map (slots.set index)

/-! ## Documents -/

/-- The lines of a document, and whether the last of them is terminated. -/
def splitLines (ending : Text.LineEnding) (text : List Char) : List (List Char) × Bool :=
  let pieces := ending.pieces text
  if 1 < pieces.length ∧ pieces.getLast? = some [] then (pieces.dropLast, true)
  else (pieces, false)

/-- The document made of lines. -/
def joinLines (ending : Text.LineEnding) (terminated : Bool) (lines : List (List Char)) :
    List Char :=
  ending.chars.intercalate lines ++ if terminated then ending.chars else []

/-- The document with every job done. -/
def runJobs? (text : List Char) (jobs : List Job) : Option (List Char) := do
  let ending := Text.LineEnding.ofText text
  let (lines, terminated) := splitLines ending text
  let slots ← jobs.foldlM (runJob? ending) (lines.map fun line => { text := line })
  return joinLines ending terminated ((slots.filter fun slot => !slot.removed).map Slot.text)

/-- The text with every patch of the findings applied; none if one would cut a character. -/
def applied? (text : String) (findings : List Finding) : Option String :=
  let jobs := jobs findings
  if jobs.isEmpty then some text
  else (runJobs? text.toList (inOrder jobs)).map String.ofList

end Batch

end LintServer
