import Switchboard.Configuration.LogFilter.Pattern
import Switchboard.Number.Shortest
import Switchboard.Text.Literal

/-!
# Values of fields

The value that a directive asks of a field: a truth value, a number, or a pattern. A text is taken for the first of
these that it spells. Numbers of different kinds are different, however they compare.
-/

namespace Switchboard.LogFilter

/-- The value asked of a field. -/
inductive Value where
  | flag (value : Bool)
  /-- A natural number of 64 bits. -/
  | natural (value : Nat)
  /-- An integer of 64 bits that is written with a minus sign. -/
  | integer (value : Int)
  | real (value : Double)
  /-- A number beyond all others. -/
  | infinite (negative : Bool)
  /-- No number. -/
  | undefined
  /-- A text that matches a pattern. -/
  | pattern (text : String)
  deriving DecidableEq, Repr

namespace Value

/-! ## Reading -/

/-- The digits and the scale of a decimal: digits, a point among them or at an end, and an exponent. -/
def decimal? (cs : List Char) : Option (Nat × Int) :=
  let whole := cs.takeWhile Char.isDigit
  let (fraction, rest) := match cs.dropWhile Char.isDigit with
    | '.' :: tail => (tail.takeWhile Char.isDigit, tail.dropWhile Char.isDigit)
    | tail => ([], tail)
  let places : Int := fraction.length
  (Text.digits? (whole ++ fraction)).bind fun digits =>
    match rest with
    | [] => some (digits, -places)
    | c :: tail => if c = 'e' ∨ c = 'E' then (Text.signed? tail).map fun e => (digits, e - places) else none

/-- A number without its sign, also by name. -/
def magnitude? (negative : Bool) (cs : List Char) : Option Value :=
  let name := String.ofList (cs.map Char.toLower)
  if name = "inf" ∨ name = "infinity" then some (.infinite negative)
  else if name = "nan" then some .undefined
  else (decimal? cs).map fun (digits, scale) =>
    match Double.ofDecimal negative digits scale with
    | some d => .real d
    | none => .infinite negative

/-- A number, perhaps after a sign. -/
def real? : List Char → Option Value
  | '-' :: rest => magnitude? true rest
  | cs => magnitude? false (Text.withoutPlus cs)

/-- The number of a text: as a natural number, as an integer, or else as a real number. -/
def number? (s : String) : Option Value :=
  ((Text.natural? UInt64.size s).map natural).orElse fun _ =>
    ((Text.integer? (Nat.pow 2 63) s).map integer).orElse fun _ => real? s.toList

/-- The value of a text; none if it is not even a pattern. -/
def parse? (s : String) : Option Value :=
  if s = "true" then some (.flag true)
  else if s = "false" then some (.flag false)
  else (number? s).orElse fun _ => if Pattern.isPattern s then some (.pattern s) else none

/-! ## Writing -/

/-- The text of a value; numbers are written without exponents. -/
def text : Value → String
  | flag b => if b then "true" else "false"
  | natural n => toString n
  | integer i => toString i
  | real d => d.positional
  | infinite negative => if negative then "-inf" else "inf"
  | undefined => "NaN"
  | pattern s => s

/-! ## Equality -/

/-- Equality of values of one kind: the two zeros among real numbers are equal. -/
def same : Value → Value → Bool
  | real a, real b => a.same b
  | a, b => a == b

end Value

end Switchboard.LogFilter
