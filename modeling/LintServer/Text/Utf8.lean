/-!
# Text as bytes

File names and file contents are bytes. `bytesOf` is the UTF-8 form of a text, `textOf?` reads it
back where the bytes are well-formed, and `textOfLossy` shows any bytes at all, with U+FFFD for
every part that is not well-formed.
-/

namespace LintServer.Text

def bytesOf (text : String) : List UInt8 :=
  text.toUTF8.toList

/-- The text of well-formed bytes. -/
def textOf? (bytes : List UInt8) : Option String :=
  String.fromUTF8? ⟨bytes.toArray⟩

/-! ## Bytes that are not well-formed -/

/-- What the first byte of a character announces: how many bytes follow it, and the range of the
first of them. -/
def leadOf (b : UInt8) : Option (Nat × UInt8 × UInt8) :=
  if b < 0x80 then some (0, 0x80, 0xBF)
  else if 0xC2 ≤ b ∧ b ≤ 0xDF then some (1, 0x80, 0xBF)
  else if b = 0xE0 then some (2, 0xA0, 0xBF)
  else if b = 0xED then some (2, 0x80, 0x9F)
  else if 0xE1 ≤ b ∧ b ≤ 0xEF then some (2, 0x80, 0xBF)
  else if b = 0xF0 then some (3, 0x90, 0xBF)
  else if 0xF1 ≤ b ∧ b ≤ 0xF3 then some (3, 0x80, 0xBF)
  else if b = 0xF4 then some (3, 0x80, 0x8F)
  else none

/-- How many of the next bytes continue a character of which `wanted` are to come. -/
def continuing (wanted : Nat) (low high : UInt8) : List UInt8 → Nat
  | [] => 0
  | b :: bs =>
    match wanted with
    | 0 => 0
    | wanted + 1 => if low ≤ b ∧ b ≤ high then 1 + continuing wanted 0x80 0xBF bs else 0

/-- The longest start of the bytes that is a character or the beginning of one, and whether it is
a whole character. -/
def nextPart : List UInt8 → Nat × Bool
  | [] => (0, false)
  | b :: bs =>
    match leadOf b with
    | none => (1, false)
    | some (wanted, low, high) =>
      let found := continuing wanted low high bs
      (1 + found, found == wanted)

def textOfLossyFrom : (fuel : Nat) → List UInt8 → String
  | 0, _ => ""
  | _, [] => ""
  | fuel + 1, bytes =>
    let (length, whole) := nextPart bytes
    let shown := if whole then (textOf? (bytes.take length)).getD "\uFFFD" else "\uFFFD"
    shown ++ textOfLossyFrom fuel (bytes.drop length)

/-- The text of any bytes. -/
def textOfLossy (bytes : List UInt8) : String :=
  (textOf? bytes).getD (textOfLossyFrom bytes.length bytes)

end LintServer.Text
