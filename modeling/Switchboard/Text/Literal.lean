import Switchboard.Text.Case
import Switchboard.Text.ClassTable

/-!
# Blanks, numerals and quoted texts

`isBlank` is the property White_Space; `trim` removes blanks at both ends of a text.

`natural?` reads a numeral of ASCII digits, perhaps after a plus sign, that stays below a bound; `integer?` also reads
one with a minus sign. `hexValue?` is the value of a hexadecimal digit, in either case; `hexValue?_digitChar` says that
it reads back what is written.

`quote` shows a text inside a message: between double quotes, with the quote, the backslash and the common controls
escaped by a letter, and every other character without a visible form by its number.
-/

namespace Switchboard.Text

/-! ## Blanks -/

/-- Whether a character is white space. -/
def isBlank (c : Char) : Bool :=
  let n := c.toNat
  (9 ≤ n && n ≤ 13) || n == 0x20 || n == 0x85 || n == 0xa0 || n == 0x1680 || (0x2000 ≤ n && n ≤ 0x200a)
    || n == 0x2028 || n == 0x2029 || n == 0x202f || n == 0x205f || n == 0x3000

/-- The characters from the first that is not blank. -/
def trimStart (cs : List Char) : List Char := cs.dropWhile isBlank

/-- The characters up to the last that is not blank. -/
def trimEnd (cs : List Char) : List Char := (cs.reverse.dropWhile isBlank).reverse

/-- A text without the blanks at its ends. -/
def trim (s : String) : String := String.ofList (trimEnd (trimStart s.toList))

/-- Whether a text has a character that is not blank. -/
def hasInk (s : String) : Bool := s.toList.any fun c => !isBlank c

/-! ## Decimal numerals -/

/-- The value of a run of decimal digits. -/
def digitsValue (cs : List Char) : Nat := cs.foldl (fun n c => 10 * n + (c.toNat - '0'.toNat)) 0

/-- The number that digits spell, at least one of them. -/
def digits? (cs : List Char) : Option Nat :=
  if cs.isEmpty || !cs.all Char.isDigit then none else some (digitsValue cs)

/-- A text without a plus sign in front. -/
def withoutPlus : List Char → List Char
  | '+' :: rest => rest
  | cs => cs

/-- The number of a numeral, if it is below `bound`. -/
def natural? (bound : Nat) (s : String) : Option Nat := (digits? (withoutPlus s.toList)).filter fun n => n < bound

/-- An integer: a sign, perhaps, and digits. -/
def signed? : List Char → Option Int
  | '-' :: rest => (digits? rest).map fun n => -(n : Int)
  | cs => (digits? (withoutPlus cs)).map fun n => (n : Int)

/-- The integer of a numeral, if it is at least `-bound` and below `bound`. -/
def integer? (bound : Nat) (s : String) : Option Int :=
  (signed? s.toList).filter fun i => -(bound : Int) ≤ i ∧ i < bound

/-! ## Hexadecimal digits -/

/-- The value of a hexadecimal digit. -/
def hexValue? (c : Char) : Option Nat :=
  if '0' ≤ c ∧ c ≤ '9' then some (c.toNat - '0'.toNat)
  else if 'a' ≤ c ∧ c ≤ 'f' then some (c.toNat - 'a'.toNat + 10)
  else if 'A' ≤ c ∧ c ≤ 'F' then some (c.toNat - 'A'.toNat + 10)
  else none

theorem hexValue?_digitChar {n : Nat} (h : n < 16) : hexValue? (Nat.digitChar n) = some n := by
  revert n
  decide

/-! ## Quoted texts -/

/-- The hexadecimal digits of `n`, lower case. -/
def hexDigits (n : Nat) : List Char := Nat.toDigits 16 n

/-- One character of a quoted text. -/
def quoteChar (c : Char) : List Char :=
  match c with
  | '\x00' => ['\\', '0']
  | '\t' => ['\\', 't']
  | '\r' => ['\\', 'r']
  | '\n' => ['\\', 'n']
  | '"' => ['\\', '"']
  | '\\' => ['\\', '\\']
  | c => if inRuns unprintableRuns c.toNat then ['\\', 'u', '\x7b'] ++ hexDigits c.toNat ++ ['\x7d'] else [c]

/-- A text between double quotes. -/
def quote (s : String) : String :=
  String.ofList (['"'] ++ s.toList.flatMap quoteChar ++ ['"'])

end Switchboard.Text
