import LintServer.Decimal.Binary64

/-!
# Shortest decimal digits

The decimal digits written for a binary floating-point number are the fewest that read back to
it, and of those the nearest to it. The reals that read back to `m * 2 ^ e` form an interval that
ends half way to the neighbours of the number, ends included when `m` is even. A decimal grid of
`n` digits has a point in that interval only if one of the two grid points beside the number
lies in it, so the search tries those two for `n = 1, 2, …, 17`.

The digits are written positionally when the leading one stands between the places `10 ^ -5` and
`10 ^ 15`, and otherwise as one digit, the fraction and a signed exponent. A positional number
always shows a fraction, so that it reads back as a floating-point number.
-/

namespace LintServer.Decimal

/-- `digits * 10 ^ exponent`. -/
structure Digits where
  digits : Nat
  exponent : Int
  deriving Repr, DecidableEq

/-! ## The interval that reads back -/

/-- A real interval around `value / den`, by the numerators of its ends. -/
structure Interval where
  low : Nat
  value : Nat
  high : Nat
  den : Nat
  closed : Bool
  deriving Repr

/-- The reals that round to the magnitude of a number other than zero. Below a power of two the
neighbour is only half as far away. -/
def Interval.of (x : Binary64) : Interval :=
  let (n, d) := x.ratio
  -- Four times the number and the gap above it, over a common denominator.
  let gap := if 0 ≤ x.exponent then Nat.pow 2 x.exponent.toNat else 1
  let lowGap :=
    if x.mantissa = Binary64.leastNormal ∧ Binary64.minExponent < x.exponent then gap else 2 * gap
  { low := 4 * n - lowGap, value := 4 * n, high := 4 * n + 2 * gap, den := 4 * d,
    closed := x.mantissa % 2 == 0 }

/-- Whether `num / den` lies in the interval. -/
def Interval.contains (i : Interval) (num den : Nat) : Bool :=
  if i.closed then i.low * den ≤ num * i.den && num * i.den ≤ i.high * den
  else i.low * den < num * i.den && num * i.den < i.high * den

/-! ## The search -/

/-- The greatest `k` with `10 ^ k ≤ num / den`, for a quotient of the format. -/
def decimalExponent (num den : Nat) : Int :=
  if den ≤ num then ((Nat.toDigits 10 (num / den)).length : Int) - 1
  else
    -- `den / num > 1`: the least `k` with `num * 10 ^ k ≥ den`.
    let k := (Nat.toDigits 10 ((den - 1) / num)).length
    Int.negOfNat k

/-- `digits * 10 ^ exponent` as numerator and denominator. -/
def Digits.ratio (x : Digits) : Nat × Nat :=
  if 0 ≤ x.exponent then (x.digits * Nat.pow 10 x.exponent.toNat, 1)
  else (x.digits, Nat.pow 10 (-x.exponent).toNat)

/-- Of the two points of the grid `10 ^ exponent` beside the number, the nearest that reads
back; from half way, the even one. -/
def nearestOnGrid? (i : Interval) (exponent : Int) : Option Digits :=
  let (n, d) := if 0 ≤ exponent then (i.value, i.den * Nat.pow 10 exponent.toNat)
    else (i.value * Nat.pow 10 (-exponent).toNat, i.den)
  let q := n / d
  let r := n % d
  let fits (k : Nat) : Bool :=
    let (a, b) := (Digits.mk k exponent).ratio
    i.contains a b
  let belowFirst := 2 * r < d || (2 * r == d && q % 2 == 0)
  let (first, second) := if belowFirst then (q, q + 1) else (q + 1, q)
  if fits first then some ⟨first, exponent⟩
  else if fits second then some ⟨second, exponent⟩
  else none

/-- Tries grids of `n`, `n + 1`, … digits, `more` of them. -/
def searchGrids (i : Interval) (leading : Int) : (more : Nat) → (n : Nat) → Digits
  | 0, _ => ⟨0, 0⟩
  | more + 1, n =>
    match nearestOnGrid? i (leading - (n : Int) + 1) with
    | some found => found
    | none => searchGrids i leading more (n + 1)

/-- The shortest digits that read back to the magnitude of a number. -/
def shortest (x : Binary64) : Digits :=
  if x.isZero then ⟨0, 0⟩
  else
    let i := Interval.of x
    searchGrids i (decimalExponent i.value i.den) 17 1

/-! ## The text -/

/-- Digits without zeros at the end. -/
def trimZeros : (more : Nat) → Digits → Digits
  | 0, x => x
  | more + 1, x =>
    if x.digits ≠ 0 ∧ x.digits % 10 = 0 then trimZeros more ⟨x.digits / 10, x.exponent + 1⟩ else x

def zeros (n : Nat) : List Char := List.replicate n '0'

/-- The exponent with its sign. -/
def exponentText (e : Int) : List Char :=
  (if 0 ≤ e then '+' else '-') :: Nat.toDigits 10 e.natAbs

/-- The magnitude whose leading digit stands at the place `10 ^ place`. -/
def magnitudeText (digits : List Char) (place : Int) : List Char :=
  if 0 ≤ place ∧ place ≤ 15 then
    let whole := place.toNat + 1
    let fraction := digits.drop whole
    digits.take whole ++ zeros (whole - digits.length) ++ ['.'] ++
      (if fraction.isEmpty then ['0'] else fraction)
  else if -5 ≤ place ∧ place < 0 then
    ['0', '.'] ++ zeros ((-place).toNat - 1) ++ digits
  else
    match digits with
    | [] => []
    | [d] => d :: 'e' :: exponentText place
    | d :: fraction => d :: '.' :: fraction ++ 'e' :: exponentText place

def text (x : Binary64) : String :=
  let shortest := trimZeros 17 (shortest x)
  let digits := Nat.toDigits 10 shortest.digits
  let place := shortest.exponent + (digits.length : Int) - 1
  String.ofList ((if x.negative then ['-'] else []) ++ magnitudeText digits place)

end LintServer.Decimal
