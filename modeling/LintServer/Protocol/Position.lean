import LintServer.Json.Shape
import LintServer.Text.Lines
import LintServer.Text.Units

/-!
# Positions and ranges

An editor names a place in a document by a line, counted from zero, and a column in UTF-16 units.
Both are 32-bit words: a larger number loses its upper half, and a sum that does not fit becomes
the greatest word.
-/

namespace LintServer

structure Position where
  line : UInt32
  character : UInt32
  deriving Repr, DecidableEq

/-- The text from `start` up to `stop`. -/
structure Range where
  start : Position
  stop : Position
  deriving Repr, DecidableEq

namespace Position

/-- The position of a line and column that count from one; zero counts as one. -/
def ofOneBased (line column : UInt64) : Position where
  line := UInt32.ofNat (line.toNat - 1)
  character := UInt32.ofNat (column.toNat - 1)

def toJson (p : Position) : Json :=
  .obj [("character", .ofNat p.character.toNat), ("line", .ofNat p.line.toNat)]

def shape : Shape := .record "Position" [("line", .uint32), ("character", .uint32)]

def ofConformed (v : Json) : Except Json.DecodeError Position := do
  let fields ← v.toFields
  return {
    line := ← Json.required fields "line" Json.toUInt32
    character := ← Json.required fields "character" Json.toUInt32 }

/-- The place just past the last character of a text. -/
def atEnd (text : String) : Position where
  line := UInt32.ofNat (Text.lineCount text - 1)
  character := Text.units (Text.lastLine text)

/-! ### Their order -/

/-- Positions are in the order of their lines, and on one line in that of their columns. -/
instance : LE Position where
  le p q := p.line < q.line ∨ p.line = q.line ∧ p.character ≤ q.character

instance : LT Position where
  lt p q := p.line < q.line ∨ p.line = q.line ∧ p.character < q.character

instance (p q : Position) : Decidable (p ≤ q) :=
  inferInstanceAs (Decidable (p.line < q.line ∨ p.line = q.line ∧ p.character ≤ q.character))

instance (p q : Position) : Decidable (p < q) :=
  inferInstanceAs (Decidable (p.line < q.line ∨ p.line = q.line ∧ p.character < q.character))

end Position

namespace Range

/-- A range on one line, from a line, column and length that count from one. -/
def ofOneBased (line column length : UInt64) : Range :=
  let start := Position.ofOneBased line column
  ⟨start, ⟨start.line, Text.addClamped start.character (UInt32.ofNat length.toNat)⟩⟩

/-- The whole of the line `text`, whose number from zero is `index`. -/
def ofLine (index : UInt32) (text : String) : Range :=
  ⟨⟨index, 0⟩, ⟨index, Text.units text⟩⟩

/-- The whole of a text. -/
def full (text : String) : Range :=
  ⟨⟨0, 0⟩, Position.atEnd text⟩

def toJson (r : Range) : Json :=
  .obj [("end", r.stop.toJson), ("start", r.start.toJson)]

def shape : Shape := .record "Range" [("start", Position.shape), ("end", Position.shape)]

def ofConformed (v : Json) : Except Json.DecodeError Range := do
  let fields ← v.toFields
  return {
    start := ← Json.required fields "start" Position.ofConformed
    stop := ← Json.required fields "end" Position.ofConformed }

end Range

end LintServer
