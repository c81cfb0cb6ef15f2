import LintServer.Unicode.Composition
import LintServer.Unicode.Direction
import LintServer.Unicode.Joining
import LintServer.Uri.Domain.Characters
import LintServer.Uri.Domain.Label

/-!
# Domains

A domain is a list of labels between full stops. In its normal form every character is what it
stands for, the text is composed, and every label is in ASCII. A label in ASCII that stands for
one with other characters has to be the normal form of that, so a domain has one normal form
(`ascii?`). Not every text is a domain: some characters may not stand in one, a label does not
begin with a mark, joiners stand only where letters join, and where text runs from right to left
no label may look as if it were another one.
-/

namespace LintServer.Uri.Domain

open Unicode (Direction)

/-! ## Normal form of a text -/

/-- The text that a text stands for, composed. -/
def normal? (text : List Char) : Option (List Char) := do
  return Unicode.composed (← text.mapM meaning?).flatten

/-! ## Labels -/

/-- The pieces of a text between full stops. -/
def labels (domain : List Char) : List (List Char) := Text.pieces '.' domain

def joinLabels (ls : List (List Char)) : List Char :=
  ['.'].intercalate ls

def isForbidden (c : Char) : Bool :=
  c.toNat ≤ 0x20 || c.toNat == 0x7F ||
    ['#', '%', '/', ':', '<', '>', '?', '@', '[', '\\', ']', '^', '|'].contains c

def nonJoiner : Char := Char.ofNat 0x200C

def joiner : Char := Char.ofNat 0x200D

/-- Whether the nearest character that is not transparent joins in some way. -/
def nearestJoins (joins : Char → Bool) (text : List Char) : Bool :=
  ((text.dropWhile Unicode.isTransparent).head?).any joins

/-- Whether a joiner may stand between the characters `before`, which are in reverse, and `after`:
behind a mark that takes away a vowel, or, if it keeps letters from joining, where they would. -/
def joinerFits (c : Char) (before after : List Char) : Bool :=
  before.head?.any (Unicode.combiningClass · == Unicode.viramaClass) ||
    (c == nonJoiner && nearestJoins Unicode.joinsNext before &&
      nearestJoins Unicode.joinsPrevious after)

/-- Whether all joiners in a text behind `before`, which is in reverse, may stand there. -/
def joinersFit (before : List Char) : List Char → Bool
  | [] => true
  | c :: after =>
    ((c != nonJoiner && c != joiner) || joinerFits c before after) && joinersFit (c :: before) after

/-- Whether a text in normal form may be a label. -/
def isLabel (text : List Char) : Bool :=
  !text.any isForbidden && !text.head?.any Unicode.isMark && joinersFit [] text

/-- The label that a text in normal form is. A text with the mark of ASCII forms is the label that
it stands for. -/
def labelOf? (text : List Char) : Option (List Char) := do
  let label ←
    if Domain.asciiMark.isPrefixOf text then do
      if text.getLast? = some '-' then none
      let label ← decodeLabel? (text.drop Domain.asciiMark.length)
      if normal? label = some label then some label else none
    else some text
  if isLabel label then some label else none

/-! ## Text in both directions -/

/-- Whether a label may stand beside text from right to left. It begins with a letter, ends in a
letter or a digit, marks aside, has no letter of the other direction, and has only one kind of
digit if it is from right to left itself. -/
def isDirected (label : List Char) : Bool :=
  match label.map Unicode.directionOf with
  | [] => true
  | first :: rest =>
    let body := Text.dropEndWhile (· == .mark) rest
    match first with
    | .left =>
      body.getLast?.all [.left, .digit].contains &&
        body.all [.left, .digit, .neutral, .mark].contains
    | .right =>
      body.getLast?.all [.right, .digit, .arabicDigit].contains &&
        body.all [.right, .digit, .arabicDigit, .neutral, .mark].contains &&
        !(body.contains .digit && body.contains .arabicDigit)
    | _ => false

/-- Whether there is text from right to left in a label. -/
def runsLeft (label : List Char) : Bool :=
  label.any fun c => [Direction.right, .arabicDigit].contains (Unicode.directionOf c)

/-! ## Normal form of a domain -/

/-- The normal form of a domain. -/
def ascii? (domain : List Char) : Option (List Char) := do
  let found ← (labels (← normal? domain)).mapM labelOf?
  if found.any runsLeft && !found.all isDirected then none
  return joinLabels (found.map encodeLabel)

end LintServer.Uri.Domain
