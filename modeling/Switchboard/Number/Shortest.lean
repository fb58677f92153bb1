import Switchboard.Number.Double

/-!
# Shortest decimal text

`Double.shortest` is the decimal with the fewest digits that reads back as the same number, of those the closest; if
two are as close, a `Tie` says which. `Double.text` writes it: positional while the decimal point stands near the
digits, else with an exponent. `Double.positional` never uses an exponent. The two take different sides in a tie.
-/

namespace Switchboard.Double

/-! ## Digits -/

/-- The number of decimal digits of `n`, at least one. -/
def decimalLength (n : Nat) : Nat := (Nat.toDigits 10 n).length

/-- The power of ten of the leading digit of `num / den`. -/
def magnitude (num den : Nat) : Int :=
  if den ≤ num then (decimalLength (num / den) : Int) - 1
  else
    let k := decimalLength (den / num)
    if num * Nat.pow 10 (k - 1) ≥ den then 1 - (k : Int) else -(k : Int)

/-- Which of two neighbours goes first for a value half way between them. -/
inductive Tie where
  /-- The one whose last digit is even. -/
  | toEven
  /-- The one farther from zero. -/
  | away
  deriving DecidableEq, Repr

/-- The two natural numbers around `n / d`, the closer one first. -/
def Tie.neighbours (tie : Tie) (n d : Nat) : List Nat :=
  let low := n / d
  if 2 * (n % d) < d ∨ (2 * (n % d) = d ∧ tie = .toEven ∧ low % 2 = 0) then [low, low + 1]
  else [low + 1, low]

/-- The decimal of scale `scale` that reads back as `x`: of the two around its value the closer one first. -/
def decimalAt (tie : Tie) (x : Double) (scale : Int) : Option (Nat × Int) :=
  let (num, den) := x.ratio
  let (n, d) := if scale < 0 then (num * Nat.pow 10 (-scale).toNat, den) else (num, den * Nat.pow 10 scale.toNat)
  ((tie.neighbours n d).find? fun c => ofDecimal x.negative c scale == some x).map fun c => (c, scale)

/-- Drops the zeros at the end of a decimal. -/
def stripZeros : Nat → Nat × Int → Nat × Int
  | 0, d => d
  | fuel + 1, (c, s) => if c ≠ 0 ∧ c % 10 = 0 then stripZeros fuel (c / 10, s + 1) else (c, s)

/-- The shortest decimal `digits · 10 ^ scale` that reads back as `x`. -/
def shortest (tie : Tie) (x : Double) : Nat × Int :=
  if x.mantissa = 0 then (0, 0)
  else
    let (num, den) := x.ratio
    let top := magnitude num den
    let found := (List.range 18).findSome? fun (k : Nat) => decimalAt tie x (top - (k : Int))
    stripZeros 20 (found.getD (0, 0))

/-! ## Text -/

/-- The digits of `digits · 10 ^ scale` before and after the point, all of them; at least one before it. -/
def places (digits : Nat) (scale : Int) : List Char × List Char :=
  let ds := Nat.toDigits 10 digits
  let point : Int := ds.length + scale
  if 0 ≤ scale then (ds ++ List.replicate scale.toNat '0', [])
  else if 0 < point then (ds.take point.toNat, ds.drop point.toNat)
  else (['0'], List.replicate (-point).toNat '0' ++ ds)

/-- The minus sign of a negative number. -/
def sign (x : Double) : List Char := if x.negative then ['-'] else []

/-- The text of a number without an exponent; a whole number has no point. A tie goes away from zero. -/
def positional (x : Double) : String :=
  let (c, s) := shortest .away x
  let (whole, fraction) := places c s
  String.ofList (x.sign ++ whole ++ if fraction.isEmpty then [] else '.' :: fraction)

/-- A power of ten, with its sign. -/
def exponentText (e : Int) : List Char := if 0 ≤ e then '+' :: (toString e).toList else (toString e).toList

/-- The text of a number: positional from `10 ^ -5` up to `10 ^ 16`, with at least one digit after the point, and with
an exponent beyond. A tie goes to the even digit. -/
def text (x : Double) : String :=
  let (c, s) := shortest .toEven x
  let digits := Nat.toDigits 10 c
  let point : Int := digits.length + s
  let body : List Char :=
    if -5 < point ∧ point ≤ 16 then
      let (whole, fraction) := places c s
      whole ++ '.' :: if fraction.isEmpty then ['0'] else fraction
    else
      let e := 'e' :: exponentText (point - 1)
      match digits with
      | [d] => d :: e
      | d :: rest => d :: '.' :: (rest ++ e)
      | [] => []
  String.ofList (x.sign ++ body)

end Switchboard.Double
