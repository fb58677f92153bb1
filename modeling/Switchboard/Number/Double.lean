/-!
# Binary floating-point numbers

`Double` is a finite number of 53 significant bits with exponents down to `2 ^ -1074`, kept exactly as
`mantissa · 2 ^ exponent`. `nearest` rounds a quotient of natural numbers to the closest such number, ties to the
even mantissa; decimals and integers come in through it. `scaledDecimal` rounds a decimal in two steps and may so miss
the closest number. `compare` orders by value, so the two zeros are equal.
-/

namespace Switchboard

/-- A finite binary floating-point number. -/
structure Double where
  /-- Whether the number carries a minus sign; zero may. -/
  negative : Bool
  /-- The significant bits. -/
  mantissa : Nat
  /-- The power of two the mantissa is scaled by. -/
  exponent : Int
  deriving DecidableEq, Repr

namespace Double

/-! ## Rounding -/

/-- The smallest exponent. -/
def minExponent : Int := -1074

/-- The largest exponent. -/
def maxExponent : Int := 971

/-- The quotient rounded to the nearest natural number, a half to the even one. -/
def roundHalfEven (num den : Nat) : Nat :=
  let q := num / den
  let r := num % den
  if 2 * r < den then q else if den < 2 * r then q + 1 else q + q % 2

/-- `num / den` in units of `2 ^ e`, as a quotient. -/
def inUnits (num den : Nat) (e : Int) : Nat × Nat :=
  if e < 0 then (num * Nat.pow 2 (-e).toNat, den) else (num, den * Nat.pow 2 e.toNat)

/-- The exponent at which `num / den` has 53 significant bits, or the smallest one. -/
def exponentFor (num den : Nat) : Int :=
  let guess : Int := (Nat.log2 num : Int) - Nat.log2 den - 52
  let (n, d) := inUnits num den guess
  max minExponent (if n / d < Nat.pow 2 52 then guess - 1 else guess)

/-- Zero with the given sign. -/
def zero (negative : Bool) : Double := ⟨negative, 0, minExponent⟩

/-- The number closest to `± num / den`; none if that exceeds every number. -/
def nearest (negative : Bool) (num den : Nat) : Option Double :=
  if num = 0 then some (zero negative)
  else
    let e := exponentFor num den
    let (n, d) := inUnits num den e
    let m := roundHalfEven n d
    let (m, e) := if m = Nat.pow 2 53 then (Nat.pow 2 52, e + 1) else (m, e)
    if maxExponent < e then none else some ⟨negative, m, e⟩

/-- The number closest to `± digits · 10 ^ scale`. -/
def ofDecimal (negative : Bool) (digits : Nat) (scale : Int) : Option Double :=
  if digits = 0 then some (zero negative)
  -- beyond these scales the value is out of every range, and the powers of ten need not be computed
  else if scale + (Nat.log2 digits : Int) < -1200 then some (zero negative)
  else if 400 < scale then none
  else if scale < 0 then nearest negative digits (Nat.pow 10 (-scale).toNat)
  else nearest negative (digits * Nat.pow 10 scale.toNat) 1

/-! ## Products and quotients -/

/-- The magnitude as a quotient of natural numbers. -/
def ratio (x : Double) : Nat × Nat := inUnits x.mantissa 1 (-x.exponent)

/-- The number closest to the product; none if that exceeds every number. -/
def mul (x y : Double) : Option Double :=
  nearest (x.negative != y.negative) (x.ratio.1 * y.ratio.1) (x.ratio.2 * y.ratio.2)

/-- The number closest to the quotient; none if that exceeds every number. -/
def div (x y : Double) : Option Double :=
  nearest (x.negative != y.negative) (x.ratio.1 * y.ratio.2) (x.ratio.2 * y.ratio.1)

/-- The largest power of ten in reach. -/
def maxPower : Nat := 308

/-- The number closest to a power of ten in reach. -/
def powerOfTen (n : Nat) : Double := (nearest false (Nat.pow 10 n) 1).getD (zero false)

/-- The decimal `± digits · 10 ^ scale`, rounded in two steps: the number closest to the digits, for which 64 bits are
enough, is multiplied or divided by the one closest to the power of ten. A divisor out of reach is split in two, beyond
which nothing is left; none if the product exceeds every number. -/
def scaledDecimal (negative : Bool) (digits : Nat) (scale : Int) : Option Double :=
  (nearest negative digits 1).bind fun x =>
    let n := scale.natAbs
    if digits = 0 then some x
    else if 0 ≤ scale then (if n ≤ maxPower then x.mul (powerOfTen n) else none)
    else if n ≤ maxPower then x.div (powerOfTen n)
    else if n ≤ 2 * maxPower then (x.div (powerOfTen maxPower)).bind fun y => y.div (powerOfTen (n - maxPower))
    else some (zero negative)

/-- The number closest to an integer of at most 64 bits. -/
def ofInt (i : Int) : Double := (nearest (decide (i < 0)) i.natAbs 1).getD (zero false)

/-! ## Order -/

/-- The value in units of `2 ^ e`, exact when `e` is at most the exponent. -/
def scaled (x : Double) (e : Int) : Int :=
  let v : Int := x.mantissa * Nat.pow 2 (x.exponent - e).toNat
  if x.negative then -v else v

/-- Orders by value. -/
def compare (x y : Double) : Ordering :=
  let e := min x.exponent y.exponent
  Ord.compare (x.scaled e) (y.scaled e)

/-- Equality of values: the two zeros are equal. -/
def same (x y : Double) : Bool := compare x y == .eq

end Double

end Switchboard
