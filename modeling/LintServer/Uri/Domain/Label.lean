import LintServer.Text.Lines

/-!
# Labels in ASCII

A label of a domain that has characters outside ASCII is written in ASCII behind the mark `xn--`:
first its ASCII characters, and then, behind a hyphen, where which of the others belong. These come
in the order of their code points, as the number of places that are stepped over up to each. The
numbers are written in digits whose bases follow the numbers before (`adaptBias`).
-/

namespace LintServer.Uri.Domain

/-! ## Digits -/

/-- A digit of base 36: letters first. -/
def digitOf (n : Nat) : Char :=
  if n < 26 then Char.ofNat ('a'.toNat + n) else Char.ofNat ('0'.toNat + (n - 26))

def digitValue? (c : Char) : Option Nat :=
  if 'a' ≤ c ∧ c ≤ 'z' then some (c.toNat - 'a'.toNat)
  else if 'A' ≤ c ∧ c ≤ 'Z' then some (c.toNat - 'A'.toNat)
  else if '0' ≤ c ∧ c ≤ '9' then some (26 + (c.toNat - '0'.toNat))
  else none

/-- The bias at the beginning. -/
def firstBias : Nat := 72

/-- The bias after a number was written. -/
def adaptBias (delta points : Nat) (first : Bool) : Nat :=
  let start := if first then delta / 700 else delta / 2
  shrink 16 (start + start / points) 0
where
  shrink : (steps delta k : Nat) → Nat
    | 0, delta, k => k + 36 * delta / (delta + 38)
    | steps + 1, delta, k =>
      if 455 < delta then shrink steps (delta / 35) (k + 36)
      else k + 36 * delta / (delta + 38)

/-- A digit less than this is the last of its number. -/
def threshold (bias k : Nat) : Nat :=
  if k ≤ bias then 1 else if bias + 26 ≤ k then 26 else k - bias

/-- A number in digits whose bases follow the bias. -/
def digitsOf (bias : Nat) : (steps k q : Nat) → List Char
  | 0, _, _ => []
  | steps + 1, k, q =>
    let t := threshold bias k
    if q < t then [digitOf q]
    else digitOf (t + (q - t) % (36 - t)) :: digitsOf bias steps (k + 36) ((q - t) / (36 - t))

/-! ## Writing -/

def isAscii (label : List Char) : Bool := label.all fun c => c.toNat < 0x80

/-- The mark of a label that is written in ASCII. -/
def asciiMark : List Char := ['x', 'n', '-', '-']

/-- The state while the characters of a label outside ASCII are written in order. -/
structure Writing where
  next : Nat
  delta : Nat
  bias : Nat
  done : Nat
  out : List Char

/-- One character of the label, while those with the code point `next` are written. -/
def Writing.step (basic : Nat) (s : Writing) (c : Char) : Writing :=
  if c.toNat < s.next then { s with delta := s.delta + 1 }
  else if c.toNat = s.next then
    { s with
      delta := 0
      bias := adaptBias s.delta (s.done + 1) (s.done == basic)
      done := s.done + 1
      out := s.out ++ digitsOf s.bias 32 36 s.delta }
  else s

/-- The ASCII form of a label. -/
def encodeLabel (label : List Char) : List Char :=
  if isAscii label then label
  else
    let basic := label.filter fun c => c.toNat < 0x80
    let points := ((label.map Char.toNat).filter fun n => 0x80 ≤ n).mergeSort.eraseReps
    let start : Writing :=
      ⟨0x80, 0, firstBias, basic.length, if basic.isEmpty then [] else basic ++ ['-']⟩
    let final := points.foldl
      (fun s point =>
        let s := { s with delta := s.delta + (point - s.next) * (s.done + 1), next := point }
        let s := label.foldl (Writing.step basic.length) s
        { s with delta := s.delta + 1, next := point + 1 })
      start
    asciiMark ++ final.out

/-! ## Reading -/

/-- The state while the characters outside ASCII are put where they belong: the code point and the
place that have been reached, the number that is being read, with the weight of its next digit and
the place of that among its digits, and the label so far. -/
structure Reading where
  point : Nat := 0x80
  place : Nat := 0
  value : Nat := 0
  weight : Nat := 1
  k : Nat := 36
  bias : Nat := firstBias
  first : Bool := true
  label : List Char

/-- One more digit. The last one of a number brings a character. -/
def Reading.step (s : Reading) (c : Char) : Option Reading := do
  let digit ← digitValue? c
  let t := threshold s.bias s.k
  let value := s.value + digit * s.weight
  if t ≤ digit then return { s with value := value, weight := s.weight * (36 - t), k := s.k + 36 }
  let count := s.label.length + 1
  let point := s.point + (s.place + value) / count
  let place := (s.place + value) % count
  if !point.isValidChar then none
  return {
    point := point
    place := place + 1
    bias := adaptBias value count s.first
    first := false
    label := s.label.take place ++ Char.ofNat point :: s.label.drop place }

/-- The text before and after the last hyphen, which does not count in the first place. -/
def cutLastHyphen (text : List Char) : List Char × List Char :=
  let after := (text.reverse.takeWhile (· != '-')).reverse
  let before := text.take (text.length - after.length - 1)
  if before.isEmpty then ([], text) else (before, after)

/-- The label whose ASCII form this is behind its mark. -/
def decodeLabel? (text : List Char) : Option (List Char) := do
  let (basic, digits) := cutLastHyphen text
  if !isAscii basic then none
  let final ← digits.foldlM Reading.step { label := basic }
  if final.k = 36 then some final.label else none

end LintServer.Uri.Domain
