import LintServer.Text.Lines
import LintServer.Text.Units

/-!
# Patches

A patch is the repair of a finding as the rule library carries it: like a fix, with the delete
count in 32 bits. `Patch.splice?` is what a patch that keeps its line does to it: delete some
bytes at a column, then insert a text there.
-/

namespace LintServer

/-- The repair of one finding. -/
structure Patch where
  line : Option UInt64 := none
  column : Option UInt64 := none
  deleteCount : Option Int32 := none
  insertText : Option String := none
  deriving Repr, DecidableEq

namespace Patch

def deletesLine (patch : Patch) : Bool :=
  patch.deleteCount == some (-1)

/-- The zero-based byte offset at which the patch applies. -/
def offset (patch : Patch) : Nat :=
  (patch.column.getD 1).toNat - 1

/-- How many bytes the patch deletes; a negative count deletes none. -/
def deleteLength (patch : Patch) : Nat :=
  (patch.deleteCount.getD 0).toInt.toNat

/-- The line without the bytes that the patch deletes. -/
def deleteFrom? (patch : Patch) (line : List Char) : Option (List Char) :=
  let length := Text.byteLength line
  if patch.deleteLength = 0 ∨ length ≤ patch.offset then some line
  else do
    let (before, _) ← Text.cutBytes? patch.offset line
    let (_, after) ← Text.cutBytes? (min (patch.offset + patch.deleteLength) length) line
    return before ++ after

/-- The text to insert, with the line ending of the document if it has bare newlines only. -/
def insertion (ending : Text.LineEnding) (text : List Char) : List Char :=
  if ending = .crlf ∧ !Text.LineEnding.hasCrlf text then
    Text.replaceNewlines ending.chars text
  else text

/-- The line with the patch applied; none if an offset lies inside a character. -/
def splice? (patch : Patch) (ending : Text.LineEnding) (line : List Char) :
    Option (List Char) := do
  let line ← patch.deleteFrom? line
  match patch.insertText with
  | none => return line
  | some text =>
    let (before, after) ← Text.cutBytes? (min patch.offset (Text.byteLength line)) line
    return before ++ insertion ending text.toList ++ after

/-- Whether the patch makes several lines of one. -/
def addsLines (patch : Patch) : Bool :=
  match patch.insertText with
  | none => false
  | some text => text.toList.contains '\n'

end Patch

end LintServer
