/-!
# Finite binary floating-point numbers

A number of the 64-bit binary format is `± mantissa * 2 ^ exponent` with a mantissa below
`2 ^ 53`. Every operation here is computed exactly as a quotient of natural numbers and rounded
once, to the nearest number of the format and from half way to the even mantissa
(`Binary64.ofRatio?`); a quotient too great for the format has no value.
-/

namespace LintServer

/-- A finite number of the 64-bit binary format. -/
structure Binary64 where
  negative : Bool
  mantissa : Nat
  exponent : Int
  deriving Repr, DecidableEq

namespace Binary64

/-- The exponent of the numbers nearest to zero. -/
def minExponent : Int := -1074

def maxExponent : Int := 971

/-- The least mantissa of 53 bits. -/
def leastNormal : Nat := 0x10000000000000

def zero (negative : Bool) : Binary64 := ⟨negative, 0, minExponent⟩

def isZero (x : Binary64) : Bool := x.mantissa == 0

/-! ## Rounding -/

/-- The natural number nearest to `num / den`; from half way, the even one. -/
def roundDiv (num den : Nat) : Nat :=
  let q := num / den
  let r := num % den
  if 2 * r < den then q
  else if den < 2 * r then q + 1
  else q + q % 2

/-- `num / den` divided by `2 ^ e`, as numerator and denominator. -/
def shiftRatio (num den : Nat) (e : Int) : Nat × Nat :=
  if 0 ≤ e then (num, den * Nat.pow 2 e.toNat) else (num * Nat.pow 2 (-e).toNat, den)

/-- The exponent at which `num / den` has a mantissa of 53 bits, or the least exponent. -/
def scaleOf (num den : Nat) : Int :=
  let e : Int := (num.log2 : Int) - (den.log2 : Int) - 52
  let (n, d) := shiftRatio num den e
  max minExponent (if n < d * leastNormal then e - 1 else e)

/-- The number nearest to `num / den`. -/
def ofRatio? (negative : Bool) (num den : Nat) : Option Binary64 :=
  if num = 0 then some (zero negative)
  else
    let e := scaleOf num den
    let (n, d) := shiftRatio num den e
    let m := roundDiv n d
    let (m, e) := if m = 2 * leastNormal then (leastNormal, e + 1) else (m, e)
    if maxExponent < e then none else some ⟨negative, m, e⟩

/-! ## Values -/

/-- The magnitude as numerator and denominator. -/
def ratio (x : Binary64) : Nat × Nat :=
  if 0 ≤ x.exponent then (x.mantissa * Nat.pow 2 x.exponent.toNat, 1)
  else (x.mantissa, Nat.pow 2 (-x.exponent).toNat)

def neg (x : Binary64) : Binary64 := { x with negative := !x.negative }

def ofNat? (n : Nat) : Option Binary64 := ofRatio? false n 1

def mul? (x y : Binary64) : Option Binary64 :=
  let (a, b) := x.ratio
  let (c, d) := y.ratio
  ofRatio? (x.negative != y.negative) (a * c) (b * d)

/-- The quotient by a number that is not zero. -/
def div? (x y : Binary64) : Option Binary64 :=
  let (a, b) := x.ratio
  let (c, d) := y.ratio
  if c = 0 then none else ofRatio? (x.negative != y.negative) (a * d) (b * c)

/-- The number nearest to `digits * 10 ^ exponent`. Exponents far outside the format are settled
by the number of digits alone. -/
def ofDecimal? (negative : Bool) (digits : Nat) (exponent : Int) : Option Binary64 :=
  let magnitude : Int := exponent + (Nat.toDigits 10 digits).length
  if digits = 0 || magnitude < -330 then some (zero negative)
  else if 310 < magnitude then none
  else if 0 ≤ exponent then ofRatio? negative (digits * Nat.pow 10 exponent.toNat) 1
  else ofRatio? negative digits (Nat.pow 10 (-exponent).toNat)

/-- `10 ^ n` rounded, for `n` up to 308. -/
def powerOfTen (n : Nat) : Binary64 :=
  (ofDecimal? false 1 n).getD (zero false)

/-- `x` divided by `10 ^ 308` as often as `times` says, or until it vanishes. -/
def divideOut? : (times : Nat) → Binary64 → Option Binary64
  | 0, x => some x
  | times + 1, x =>
    if x.isZero then some x else (x.div? (powerOfTen 308)).bind (divideOut? times)

/-- `x * 10 ^ exponent` computed in the format itself: one product or quotient with a rounded
power of ten, after as many divisions by `10 ^ 308` as bring the exponent into reach. -/
def scaleByTen? (x : Binary64) (exponent : Int) : Option Binary64 :=
  if 308 < exponent then if x.isZero then some x else none
  else if 0 ≤ exponent then x.mul? (powerOfTen exponent.toNat)
  else
    let places := (-exponent).toNat
    let rounds := (places - 1) / 308
    (divideOut? rounds x).bind fun y => y.div? (powerOfTen (places - 308 * rounds))

end Binary64

end LintServer
