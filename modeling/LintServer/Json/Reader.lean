import LintServer.Json.Basic
import LintServer.Text.Units

/-!
# Reading JSON text

The reader accepts strict JSON of at most 127 nested arrays and objects. Integers keep their exact
value as long as they fit 64 bits; every other number is read as a floating-point number from
the leading digits that fit 64 bits, scaled by one rounded power of ten. A rejected text is
reported by what is wrong with it and where: the line, and the bytes of that line up to and with
the offending one.
-/

namespace LintServer.Json

/-! ## What can be wrong with a text -/

inductive Fault where
  | endInValue
  | endInList
  | endInObject
  | endInString
  | expectedValue
  | expectedIdent
  | expectedColon
  | expectedListEnd
  | expectedObjectEnd
  | trailingComma
  | trailingCharacters
  | keyNotString
  | invalidNumber
  | numberOutOfRange
  | invalidEscape
  | controlCharacter
  | loneSurrogate
  | endInSurrogate
  | tooDeep
  deriving Repr, DecidableEq

def Fault.message : Fault → String
  | .endInValue => "EOF while parsing a value"
  | .endInList => "EOF while parsing a list"
  | .endInObject => "EOF while parsing an object"
  | .endInString => "EOF while parsing a string"
  | .expectedValue => "expected value"
  | .expectedIdent => "expected ident"
  | .expectedColon => "expected \x60:\x60"
  | .expectedListEnd => "expected \x60,\x60 or \x60]\x60"
  | .expectedObjectEnd => "expected \x60,\x60 or \x60\x7d\x60"
  | .trailingComma => "trailing comma"
  | .trailingCharacters => "trailing characters"
  | .keyNotString => "key must be a string"
  | .invalidNumber => "invalid number"
  | .numberOutOfRange => "number out of range"
  | .invalidEscape => "invalid escape"
  | .controlCharacter => "control character (\\u0000-\\u001F) found while parsing a string"
  | .loneSurrogate => "lone leading surrogate in hex escape"
  | .endInSurrogate => "unexpected end of hex escape"
  | .tooDeep => "recursion limit exceeded"

/-- A rejected text: the fault, and the line and byte column at which it was found. -/
structure SyntaxError where
  fault : Fault
  line : Nat
  column : Nat
  deriving Repr, DecidableEq

def SyntaxError.message (e : SyntaxError) : String :=
  s!"{e.fault.message} at line {e.line} column {e.column}"

/-- The line, and the bytes in it, after the first `offset` bytes of a text. -/
def locate (offset line column : Nat) : List Char → Nat × Nat
  | [] => (line, column)
  | c :: cs =>
    if offset = 0 then (line, column)
    else if c = '\n' then locate (offset - 1) (line + 1) 0 cs
    else locate (offset - c.utf8Size) line (column + min c.utf8Size offset) cs

/-! ## The cursor -/

/-- What is left of a text, and how many bytes came before it. -/
structure Cursor where
  rest : List Char
  offset : Nat
  deriving Repr

/-- A step of the reader, which fails with a fault and the bytes read until then. -/
abbrev Reader (α : Type) := StateT Cursor (Except (Fault × Nat)) α

namespace Reader

def peek : Reader (Option Char) := do
  return (← get).rest.head?

/-- Steps over the next character. -/
def advance : Reader Unit :=
  modify fun c =>
    match c.rest with
    | [] => c
    | x :: xs => ⟨xs, c.offset + x.utf8Size⟩

/-- Fails after what has been read. -/
def failBehind {α : Type} (fault : Fault) : Reader α := do
  throw (fault, (← get).offset)

/-- Fails at the next byte, if there is one. -/
def failAt {α : Type} (fault : Fault) : Reader α := do
  let c ← get
  throw (fault, if c.rest.isEmpty then c.offset else c.offset + 1)

/-- Steps over the characters of a class, and returns them. -/
def takeWhile (p : Char → Bool) : Reader (List Char) := do
  let c ← get
  let taken := c.rest.takeWhile p
  set (Cursor.mk (c.rest.dropWhile p) (c.offset + Text.byteLength taken))
  return taken

def isSpace (c : Char) : Bool :=
  c == ' ' || c == '\n' || c == '\t' || c == '\r'

/-- The next character that is not a space. -/
def peekToken : Reader (Option Char) := do
  let _ ← takeWhile isSpace
  peek

/-! ## Words -/

/-- The rest of a literal word. -/
def word : List Char → Reader Unit
  | [] => pure ()
  | w :: ws => do
    match ← peek with
    | none => failAt .endInValue
    | some c =>
      if c = w then
        advance
        word ws
      else failAt .expectedIdent

/-! ## Numbers -/

def digitValue (c : Char) : Nat := c.toNat - '0'.toNat

def maxWord : Nat := UInt64.size - 1

/-- Appends digits to a number as long as it fits 64 bits; also returns how many. -/
def fitDigits (significand count : Nat) : List Char → Nat × Nat
  | [] => (significand, count)
  | d :: ds =>
    if maxWord < significand * 10 + digitValue d then (significand, count)
    else fitDigits (significand * 10 + digitValue d) (count + 1) ds

/-- The value of the digits of an exponent, or the number of digits after which it no longer fits
31 bits. -/
def exponentValue (value count : Nat) : List Char → Nat ⊕ Nat
  | [] => .inl value
  | d :: ds =>
    if 0x7fffffff < value * 10 + digitValue d then .inr (count + 1)
    else exponentValue (value * 10 + digitValue d) (count + 1) ds

def signed (negative : Bool) (x : Binary64) : Number :=
  .float (if negative then x.neg else x)

/-- The floating-point number `significand * 10 ^ exponent`. -/
def scaled (negative : Bool) (significand : Nat) (exponent : Int) : Reader Number := do
  match (Binary64.ofNat? significand).bind (·.scaleByTen? exponent) with
  | some x => return signed negative x
  | none => failBehind .numberOutOfRange

/-- The exponent part of a number, from its mark on. -/
def exponentPart (negative : Bool) (significand : Nat) (start : Int) : Reader Number := do
  advance
  let sign ← peek
  if sign == some '+' || sign == some '-' then advance
  match ← peek with
  | none => failAt .endInValue
  | some c => if !c.isDigit then failAt .invalidNumber
  let before ← get
  let digits ← takeWhile Char.isDigit
  match exponentValue 0 0 digits with
  | .inl e => scaled negative significand (if sign == some '-' then start - e else start + e)
  | .inr read =>
    if significand ≠ 0 ∧ sign ≠ some '-' then
      throw (.numberOutOfRange, before.offset + read)
    else return signed negative (Binary64.zero false)

/-- What follows the whole digits and the fraction of a number. -/
def afterFraction (negative : Bool) (significand : Nat) (exponent : Int) : Reader Number := do
  let next ← peek
  if next == some 'e' || next == some 'E' then exponentPart negative significand exponent
  else scaled negative significand exponent

/-- The fraction of a number, from its point on. -/
def fractionPart (negative : Bool) (significand : Nat) (exponent : Int) : Reader Number := do
  advance
  let digits ← takeWhile Char.isDigit
  if digits.isEmpty then
    if (← peek).isNone then failAt .endInValue else failAt .invalidNumber
  let (significand, count) := fitDigits significand 0 digits
  afterFraction negative significand (exponent - count)

/-- A number without its sign. -/
def number (negative : Bool) : Reader Number := do
  match ← peek with
  | none => failAt .endInValue
  | some c => if !c.isDigit then failAt .invalidNumber
  let before ← get
  let digits ← takeWhile Char.isDigit
  if digits.head? == some '0' && 1 < digits.length then
    throw (.invalidNumber, before.offset + 2)
  let (significand, count) := fitDigits 0 0 digits
  let dropped := digits.length - count
  let next ← peek
  if next == some '.' then fractionPart negative significand dropped
  else if next == some 'e' || next == some 'E' then exponentPart negative significand dropped
  else if 0 < dropped then scaled negative significand dropped
  else if !negative then return .int significand
  else if significand = 0 ∨ 0x8000000000000000 < significand then scaled true significand 0
  else return .int (-(significand : Int))

/-! ## Strings -/

def hexValue? (c : Char) : Option Nat :=
  if c.isDigit then some (c.toNat - '0'.toNat)
  else if 'a' ≤ c ∧ c ≤ 'f' then some (c.toNat - 'a'.toNat + 10)
  else if 'A' ≤ c ∧ c ≤ 'F' then some (c.toNat - 'A'.toNat + 10)
  else none

/-- Four digits of base sixteen. -/
def hexUnit : Reader Nat := do
  let c ← get
  if Text.byteLength (c.rest.take 4) < 4 then
    throw (.endInString, c.offset + Text.byteLength c.rest)
  match c.rest with
  | a :: b :: x :: y :: rest =>
    match hexValue? a, hexValue? b, hexValue? x, hexValue? y with
    | some a, some b, some x, some y =>
      set (Cursor.mk rest (c.offset + 4))
      return ((a * 16 + b) * 16 + x) * 16 + y
    | _, _, _, _ => throw (.invalidEscape, c.offset + 4)
  | _ => throw (.invalidEscape, c.offset + 4)

/-- Steps over a character of a surrogate pair. -/
def pairMark (mark : Char) : Reader Unit := do
  match ← peek with
  | none => failAt .endInString
  | some c => if c = mark then advance else failAt .endInSurrogate

/-- The character of a numeric escape, which may take two UTF-16 units. -/
def unicodeEscape : Reader Char := do
  let high ← hexUnit
  if 0xDC00 ≤ high ∧ high ≤ 0xDFFF then failBehind .loneSurrogate
  else if high < 0xD800 ∨ 0xDBFF < high then return Char.ofNat high
  else
    pairMark '\\'
    pairMark 'u'
    let low ← hexUnit
    if low < 0xDC00 ∨ 0xDFFF < low then failBehind .loneSurrogate
    else return Char.ofNat ((high - 0xD800) * 0x400 + (low - 0xDC00) + 0x10000)

/-- The character after a backslash. -/
def escape : Reader Char := do
  match ← peek with
  | none => failAt .endInString
  | some c =>
    match c with
    | '"' | '\\' | '/' =>
      advance
      return c
    | 'b' =>
      advance
      return '\x08'
    | 'f' =>
      advance
      return '\x0c'
    | 'n' =>
      advance
      return '\n'
    | 'r' =>
      advance
      return '\r'
    | 't' =>
      advance
      return '\t'
    | 'u' =>
      advance
      unicodeEscape
    | _ => failAt .invalidEscape

/-- The characters up to the closing quote, which is stepped over. -/
def stringTail : (fuel : Nat) → List Char → Reader String
  | 0, _ => failAt .endInString
  | fuel + 1, done => do
    match ← peek with
    | none => failAt .endInString
    | some '"' =>
      advance
      return String.ofList done.reverse
    | some '\\' =>
      advance
      let c ← escape
      stringTail fuel (c :: done)
    | some c =>
      if c.toNat < 0x20 then failAt .controlCharacter
      else
        advance
        stringTail fuel (c :: done)

/-- A string, from its opening quote on. -/
def string : Reader String := do
  advance
  stringTail ((← get).rest.length + 1) []

/-! ## Values -/

mutual

/-- A value, with its objects' fields as they stand. `depth` bounds the nesting. -/
def value : (fuel : Nat) → (depth : Nat) → Reader Json
  | 0, _ => failAt .endInValue
  | fuel + 1, depth => do
    match ← peekToken with
    | none => failAt .endInValue
    | some 'n' =>
      advance
      word ['u', 'l', 'l']
      return .null
    | some 't' =>
      advance
      word ['r', 'u', 'e']
      return .bool true
    | some 'f' =>
      advance
      word ['a', 'l', 's', 'e']
      return .bool false
    | some '-' =>
      advance
      return .num (← number true)
    | some '"' => return .str (← string)
    | some '[' =>
      if depth ≤ 1 then failAt .tooDeep
      else
        advance
        return .arr (← items fuel (depth - 1) true)
    | some '\x7b' =>
      if depth ≤ 1 then failAt .tooDeep
      else
        advance
        return .obj (← fields fuel (depth - 1) true)
    | some c => if c.isDigit then return .num (← number false) else failAt .expectedValue

/-- The items up to the closing bracket. -/
def items : (fuel : Nat) → (depth : Nat) → (first : Bool) → Reader (List Json)
  | 0, _, _ => failAt .endInList
  | fuel + 1, depth, first => do
    match ← peekToken with
    | none => failAt .endInList
    | some ']' =>
      advance
      return []
    | some c =>
      if !first then
        if c = ',' then
          advance
          match ← peekToken with
          | none => failAt .endInValue
          | some ']' => failAt .trailingComma
          | some _ => pure ()
        else failAt .expectedListEnd
      let v ← value fuel depth
      let vs ← items fuel depth false
      return v :: vs

/-- The fields up to the closing brace. -/
def fields : (fuel : Nat) → (depth : Nat) → (first : Bool) → Reader Fields
  | 0, _, _ => failAt .endInObject
  | fuel + 1, depth, first => do
    match ← peekToken with
    | none => failAt .endInObject
    | some '\x7d' =>
      advance
      return []
    | some c =>
      if first then
        if c ≠ '"' then failAt .keyNotString
      else if c = ',' then
        advance
        match ← peekToken with
        | none => failAt .endInValue
        | some '\x7d' => failAt .trailingComma
        | some '"' => pure ()
        | some _ => failAt .keyNotString
      else failAt .expectedObjectEnd
      let key ← string
      match ← peekToken with
      | none => failAt .endInObject
      | some ':' => advance
      | some _ => failAt .expectedColon
      let v ← value fuel depth
      let rest ← fields fuel depth false
      return (key, v) :: rest

end

/-- A value and nothing after it. -/
def document (fuel : Nat) : Reader Json := do
  let v ← value fuel 128
  if (← peekToken).isSome then failAt .trailingCharacters else return v

end Reader

/-- The value of a JSON text, in normal form. -/
def parse (text : String) : Except SyntaxError Json :=
  let cs := text.toList
  match (Reader.document (2 * cs.length + 4)).run ⟨cs, 0⟩ with
  | .ok (v, _) => .ok v.normal
  | .error (fault, offset) =>
    let (line, column) := locate offset 1 0 cs
    .error ⟨fault, line, column⟩

end LintServer.Json
