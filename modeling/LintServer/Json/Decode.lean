import LintServer.Json.Printer
import LintServer.Text.Printable

/-!
# Typed decoding of JSON values

Structured data that arrives as JSON is decoded field by field. A record is accepted as an object,
whose unknown fields are ignored, or as an array of its fields in their order, whose missing tail
stands for absent fields; `null` stands for an absent optional field.
-/

namespace LintServer.Json

/-! ## Why a value is refused -/

inductive DecodeError where
  | wrongType (found : Json) (expected : String)
  | outOfRange (found : Int) (expected : String)
  | tooManyItems (count : Nat)
  | tooFewItems (count : Nat) (expected : String)
  | missingField (name : String)
  | described (text : String)
  deriving Repr, DecidableEq

/-- A value as a message names it: scalars with their text, containers by kind. -/
def describe : Json → String
  | .null => "null"
  | .bool true => "boolean \x60true\x60"
  | .bool false => "boolean \x60false\x60"
  | .num (.int i) => "integer \x60" ++ toString i ++ "\x60"
  | .num (.float x) => "floating point \x60" ++ Decimal.text x ++ "\x60"
  | .str s => "string " ++ Text.quoted s
  | .arr _ => "sequence"
  | .obj _ => "map"

def DecodeError.message : DecodeError → String
  | .wrongType found expected => s!"invalid type: {describe found}, expected {expected}"
  | .outOfRange found expected =>
    "invalid value: integer \x60" ++ toString found ++ "\x60, expected " ++ expected
  | .tooManyItems count => s!"invalid length {count}, expected fewer elements in array"
  | .tooFewItems count expected => s!"invalid length {count}, expected {expected}"
  | .missingField name => "missing field \x60" ++ name ++ "\x60"
  | .described text => text

/-! ## Scalars -/

def toBool : Json → Except DecodeError Bool
  | .bool b => .ok b
  | v => .error (.wrongType v "a boolean")

def toStr : Json → Except DecodeError String
  | .str s => .ok s
  | v => .error (.wrongType v "a string")

/-- An integer from `low` up to but not including `high`. -/
def toIntIn (low high : Int) (expected : String) : Json → Except DecodeError Int
  | .num (.int i) => if low ≤ i ∧ i < high then .ok i else .error (.outOfRange i expected)
  | v => .error (.wrongType v expected)

def toUInt64 (v : Json) : Except DecodeError UInt64 :=
  (toIntIn 0 0x10000000000000000 "usize" v).map fun i => UInt64.ofNat i.toNat

def toInt64 (v : Json) : Except DecodeError Int64 :=
  (toIntIn (-0x8000000000000000) 0x8000000000000000 "i64" v).map Int64.ofInt

def toUInt32 (v : Json) : Except DecodeError UInt32 :=
  (toIntIn 0 0x100000000 "u32" v).map fun i => UInt32.ofNat i.toNat

def toInt32 (v : Json) : Except DecodeError Int32 :=
  (toIntIn (-0x80000000) 0x80000000 "i32" v).map Int32.ofInt

/-! ## Containers -/

def toFields : Json → Except DecodeError Fields
  | .obj fields => .ok fields
  | v => .error (.wrongType v "a map")

def toItems : Json → Except DecodeError (List Json)
  | .arr items => .ok items
  | v => .error (.wrongType v "a sequence")

/-- Every item decoded, in order. -/
def toList {α : Type} (decode : Json → Except DecodeError α) (v : Json) :
    Except DecodeError (List α) := do
  (← toItems v).mapM decode

/-! ## Fields of a record -/

/-- `null` for absence. -/
def optional {α : Type} (decode : Json → Except DecodeError α) :
    Json → Except DecodeError (Option α)
  | .null => .ok none
  | v => (decode v).map some

/-- The optional field `key` of an object. -/
def field {α : Type} (fields : Fields) (key : String) (decode : Json → Except DecodeError α) :
    Except DecodeError (Option α) :=
  match fields.lookup key with
  | none => .ok none
  | some v => optional decode v

/-- The field `key` of an object, which has to be there. -/
def required {α : Type} (fields : Fields) (key : String) (decode : Json → Except DecodeError α) :
    Except DecodeError α :=
  match fields.lookup key with
  | none => .error (.missingField key)
  | some v => decode v

/-- The optional item at a place of an array. -/
def item {α : Type} (items : List Json) (place : Nat) (decode : Json → Except DecodeError α) :
    Except DecodeError (Option α) :=
  match items[place]? with
  | none => .ok none
  | some v => optional decode v

/-- Refuses an array with more items than a record has fields. -/
def atMost (count : Nat) (items : List Json) : Except DecodeError Unit :=
  if count < items.length then .error (.tooManyItems items.length) else .ok ()

/-- A record, by the names of its fields or by their places. -/
def toRecord {α : Type} (name : String) (named : Fields → Except DecodeError α)
    (placed : List Json → Except DecodeError α) : Json → Except DecodeError α
  | .obj fields => named fields
  | .arr items => placed items
  | v => .error (.wrongType v s!"struct {name}")

end LintServer.Json
