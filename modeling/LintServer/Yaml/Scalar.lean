import LintServer.Json.Basic
import LintServer.Yaml.Node

/-!
# Values of YAML scalars

A plain scalar without a tag is a null, a boolean, an integer, a floating-point number or a text,
whichever of these forms it has first (`Scalar.ofForm?`). A tag of the core schema demands one
of the forms; any other scalar is a text. Numbers that JSON cannot hold, the infinities and those
that are no number, are null.
-/

namespace LintServer.Yaml.Scalar

/-! ## Nulls and booleans -/

def nullWords : List String := ["null", "Null", "NULL", "~"]

def bool? (text : String) : Option Bool :=
  if ["true", "True", "TRUE"].contains text then some true
  else if ["false", "False", "FALSE"].contains text then some false
  else none

/-! ## Integers -/

/-- A number in digits of a base, of which there is at least one. -/
def natural? (base : Nat) (digits : List Char) : Option Nat :=
  if digits.isEmpty then none
  else
    digits.foldlM (fun value c =>
      (Scanner.hexDigit? c).bind fun digit =>
        if digit < base then some (base * value + digit) else none) 0

/-- A sign and what it stands before. -/
def signed (text : List Char) : Bool × List Char :=
  match text with
  | '-' :: rest => (true, rest)
  | '+' :: rest => (false, rest)
  | _ => (false, text)

/-- Digits that begin with a zero they do not need; they are a text. -/
def hasLeadingZero (digits : List Char) : Bool :=
  1 < digits.length && digits.head? == some '0' && digits.all Char.isDigit

/-- A natural number, after a mark of its base unless that is ten. -/
def magnitude? (text : List Char) : Option Nat :=
  match text with
  | '0' :: 'x' :: digits => natural? 16 digits
  | '0' :: 'o' :: digits => natural? 8 digits
  | '0' :: 'b' :: digits => natural? 2 digits
  | _ => if hasLeadingZero text then none else natural? 10 text

def integer? (text : List Char) : Option Int :=
  let (negative, rest) := signed text
  (magnitude? rest).map fun n => if negative then -(n : Int) else n

/-- The integers that have a place among JSON's: those of 64 bits, with or without a sign. -/
def fitsWord (i : Int) : Bool := -0x8000000000000000 ≤ i && i < 0x10000000000000000

/-- The integers of 128 bits; those that are wider still count as floating-point numbers. -/
def fitsTwoWords (i : Int) : Bool :=
  -0x80000000000000000000000000000000 ≤ i && i < 0x100000000000000000000000000000000

/-! ## Floating-point numbers -/

/-- The exponent behind the digits of a number: nothing, or a mark, a sign and digits. -/
def exponent? (text : List Char) : Option Int :=
  match text with
  | [] => some 0
  | c :: rest =>
    if c == 'e' || c == 'E' then
      let (negative, digits) := signed rest
      (natural? 10 digits).map fun n => if negative then -(n : Int) else n
    else none

/-- The number with digits, a point among them or not, and an exponent. -/
def decimal? (negative : Bool) (text : List Char) : Option Binary64 := do
  let whole := text.takeWhile Char.isDigit
  let rest := text.dropWhile Char.isDigit
  let behind := if rest.head? == some '.' then rest.tail else rest
  let places := if rest.head? == some '.' then behind.takeWhile Char.isDigit else []
  let digits ← natural? 10 (whole ++ places)
  let exponent ← exponent? (behind.drop places.length)
  Binary64.ofDecimal? negative digits (exponent - places.length)

/-- A floating-point number. The infinities and what is no number are null. -/
def float? (text : String) : Option Json :=
  let (negative, rest) := signed text.toList
  if [".inf", ".Inf", ".INF"].contains (String.ofList rest) then some .null
  else if [".nan", ".NaN", ".NAN"].contains text then some .null
  else (decimal? negative rest).map fun x => .num (.float x)

/-! ## Values -/

/-- The value of a plain scalar by its form; integers of more than 64 and up to 128 bits have
none. -/
def ofForm? (text : String) : Option Json :=
  if text.isEmpty || nullWords.contains text then some .null
  else if let some b := bool? text then some (.bool b)
  else
    let asNumber :=
      if hasLeadingZero (signed text.toList).2 then .str text else (float? text).getD (.str text)
    match integer? text.toList with
    | none => some asNumber
    | some i =>
      if fitsWord i then some (Json.ofInt i)
      else if fitsTwoWords i then none
      else some asNumber

/-- The tag of the core schema with this name. -/
def coreTag (name : String) : Tag := Text.bytesOf ("tag:yaml.org,2002:" ++ name)

/-- A tag of the document's own; a node may not have one. What stands behind the mark is its name,
so it has to be a text. -/
def isLocal : Option Tag → Bool
  | some (mark :: name) => mark == localMark && (Text.textOf? name).isSome
  | _ => false

/-- The tag as it counts for a scalar: the mark of the document's own tags in front of what is no
text counts as no tag. -/
def effectiveTag (s : Scalar) : Option Tag :=
  s.tag.filter fun tag => isLocal (some tag) || tag.head? != some localMark

/-- The value of a scalar, if its tag admits one. -/
def toJson? (s : Scalar) : Option Json :=
  match s.effectiveTag with
  | none => if s.isPlain then ofForm? s.text else some (.str s.text)
  | some tag =>
    if tag == coreTag "bool" then (bool? s.text).map .bool
    else if tag == coreTag "int" then ((integer? s.text.toList).filter fitsWord).map Json.ofInt
    else if tag == coreTag "float" then float? s.text
    else if tag == coreTag "null" then if nullWords.contains s.text then some .null else none
    else if isLocal (some tag) then none
    else some (.str s.text)

end LintServer.Yaml.Scalar
