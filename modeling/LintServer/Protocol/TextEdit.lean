import LintServer.Protocol.Position

/-!
# Text edits

A text edit replaces a range of a document by a text. The server only makes edits; what an editor
does with one is defined here as well, in two readings of a position. In the first a line is what
stands between two `'\n'` and a position outside the text is refused (`TextEdit.applied?`). In the
second, which the protocol lays down, a line also ends at a lone `'\r'`, and a column past the end
of its line means that end (`TextEdit.applyClamped`).
-/

namespace LintServer

structure TextEdit where
  range : Range
  newText : String
  deriving Repr, DecidableEq

def TextEdit.toJson (e : TextEdit) : Json :=
  .obj [("newText", .str e.newText), ("range", e.range.toJson)]

/-! ## Lines between newlines -/

namespace Text

/-- The text before and after a number of units, all on the first line. -/
def cutUnits? (units : Nat) : List Char → Option (List Char × List Char)
  | [] => if units = 0 then some ([], []) else none
  | c :: cs =>
    if units = 0 then some ([], c :: cs)
    else if c = '\n' then none
    else if unitWidth c ≤ units then
      (cutUnits? (units - unitWidth c) cs).map fun (before, after) => (c :: before, after)
    else none

/-- The text before and after a column of a line. -/
def cutAt? (line column : Nat) : List Char → Option (List Char × List Char)
  | [] => if line = 0 ∧ column = 0 then some ([], []) else none
  | c :: cs =>
    if line = 0 then cutUnits? column (c :: cs)
    else
      (cutAt? (if c = '\n' then line - 1 else line) column cs).map fun (before, after) =>
        (c :: before, after)

/-! ## Lines with every terminator -/

/-- The text before and after a number of units, or before the end of the first line. -/
def cutUnitsClamped (units : Nat) : List Char → List Char × List Char
  | [] => ([], [])
  | c :: cs =>
    if c = '\n' ∨ c = '\r' ∨ units < unitWidth c then ([], c :: cs)
    else
      let (before, after) := cutUnitsClamped (units - unitWidth c) cs
      (c :: before, after)

/-- The text before and after a column of a line. Past the last line stands the end of the
text. -/
def cutAtClamped : (line column : Nat) → List Char → List Char × List Char
  | 0, column, cs => cutUnitsClamped column cs
  | _ + 1, _, [] => ([], [])
  | line + 1, column, '\r' :: '\n' :: cs =>
    let (before, after) := cutAtClamped line column cs
    ('\r' :: '\n' :: before, after)
  | line + 1, column, c :: cs =>
    let (before, after) := cutAtClamped (if c = '\n' ∨ c = '\r' then line else line + 1) column cs
    (c :: before, after)

end Text

/-! ## Applying an edit -/

namespace Position

/-- The text before and after a position, with lines between newlines. -/
def cut? (p : Position) (text : List Char) : Option (List Char × List Char) :=
  Text.cutAt? p.line.toNat p.character.toNat text

/-- The text before and after a position, as the protocol reads it. -/
def cutClamped (p : Position) (text : List Char) : List Char × List Char :=
  Text.cutAtClamped p.line.toNat p.character.toNat text

end Position

namespace TextEdit

/-- The text with the range replaced, if both its ends lie in the text. -/
def applied? (e : TextEdit) (text : String) : Option String := do
  let (before, _) ← e.range.start.cut? text.toList
  let (_, after) ← e.range.stop.cut? text.toList
  return String.ofList (before ++ e.newText.toList ++ after)

/-- The text from the offset `done` on, with edits made in it. The edits are in the order of their
ranges, which are ranges of the whole text, and no range begins before another one has ended. -/
def appliedFrom? (text : List Char) (done : Nat) : List TextEdit → Option (List Char)
  | [] => some (text.drop done)
  | e :: edits => do
    let (before, _) ← e.range.start.cut? text
    let (front, _) ← e.range.stop.cut? text
    if done ≤ before.length ∧ before.length ≤ front.length then
      let rest ← appliedFrom? text front.length edits
      return before.drop done ++ e.newText.toList ++ rest
    else none

/-- The text with several edits made at once. All their ranges are ranges of the text as it is, and
they may come in any order. -/
def appliedAtOnce? (edits : List TextEdit) (text : String) : Option String :=
  let inOrder := edits.mergeSort fun a b => a.range.start ≤ b.range.start
  (appliedFrom? text.toList 0 inOrder).map String.ofList

/-- The text with the range replaced, as the protocol reads positions. -/
def applyClamped (e : TextEdit) (text : String) : String :=
  let (before, _) := e.range.start.cutClamped text.toList
  let (_, after) := e.range.stop.cutClamped text.toList
  String.ofList (before ++ e.newText.toList ++ after)

end TextEdit

end LintServer
