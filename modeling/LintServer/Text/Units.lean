/-!
# Measures of a text: bytes and UTF-16 units

Lint engines count columns in bytes of UTF-8, editors in units of UTF-16: one unit for a
character of the basic plane and two for any other. `cutBytes?` splits a text at a byte offset,
which fails inside a character, and `unitColumn` maps a byte offset to the column an editor
shows.
-/

namespace LintServer.Text

/-! ## Bytes -/

/-- The number of bytes of a text in UTF-8. -/
def byteLength : List Char → Nat
  | [] => 0
  | c :: cs => c.utf8Size + byteLength cs

/-- The text before and after the byte offset, unless that lies inside a character or past the
end. -/
def cutBytes? (offset : Nat) : List Char → Option (List Char × List Char)
  | [] => if offset = 0 then some ([], []) else none
  | c :: cs =>
    if offset = 0 then some ([], c :: cs)
    else if c.utf8Size ≤ offset then
      (cutBytes? (offset - c.utf8Size) cs).map fun (before, after) => (c :: before, after)
    else none

/-- Whether a byte offset lies between two characters, or at either end. -/
def isBoundary (text : List Char) (offset : Nat) : Bool :=
  (cutBytes? offset text).isSome

/-- The last boundary at or before an offset, found by stepping back. -/
def floorBoundary (text : List Char) : Nat → Nat
  | 0 => 0
  | offset + 1 =>
    if isBoundary text (offset + 1) then offset + 1 else floorBoundary text offset

/-! ## UTF-16 units -/

def unitWidth (c : Char) : Nat :=
  if c.toNat < 0x10000 then 1 else 2

/-- The number of UTF-16 units of a text. -/
def unitLength : List Char → Nat
  | [] => 0
  | c :: cs => unitWidth c + unitLength cs

/-- The sum of two words, or the greatest word where that does not hold it. -/
def addClamped (a b : UInt32) : UInt32 :=
  if a.toNat + b.toNat < UInt32.size then a + b else UInt32.ofNat (UInt32.size - 1)

/-- The length of a text as an editor counts it. -/
def units (text : String) : UInt32 :=
  UInt32.ofNat (unitLength text.toList)

/-- The column of the byte offset `offset` in a line. An offset inside a character counts as the
start of that character, and past the end of the line every byte is a column of its own. -/
def unitColumn (line : String) (offset : Nat) : UInt32 :=
  let cs := line.toList
  let length := byteLength cs
  if length ≤ offset then
    addClamped (units line) (UInt32.ofNat (offset - length))
  else
    match cutBytes? (floorBoundary cs offset) cs with
    | some (before, _) => UInt32.ofNat (unitLength before)
    | none => 0

end LintServer.Text
