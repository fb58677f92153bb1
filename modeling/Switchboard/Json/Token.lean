import Switchboard.Json.Basic
import Switchboard.Text.Literal

/-!
# Tokens of a JSON text

`Token.ofText?` cuts a text into tokens, one character at a time: a state says what the characters so far leave open
(a word, a number, a string, an escape inside a string), and every character either extends it or closes it.

A string whose escapes name half of a surrogate pair is a token without a text, and a number beyond every
floating-point number is a token without a value; both are well formed.
-/

namespace Switchboard.Json

/-- A piece of a JSON text. -/
inductive Token where
  | openArr
  | closeArr
  | openObj
  | closeObj
  | comma
  | colon
  /-- A string; none if it is no text. -/
  | text (value : Option String)
  /-- Null, a truth value or a number. -/
  | scalar (value : Json)

namespace Token

/-! ## Numbers -/

/-- The number that the digits continue, as far as it stays within 64 bits, and how many of them it takes. -/
def fitting (n : Nat) : List Char → Nat × Nat
  | [] => (n, 0)
  | c :: rest =>
    let next := 10 * n + (c.toNat - '0'.toNat)
    if next < UInt64.size then
      let (m, taken) := fitting next rest
      (m, taken + 1)
    else (n, 0)

/-- A decimal as a floating-point number. Whole digits that do not fit into 64 bits are left out and only shift the
scale; the digits of the fraction are taken from the first one on, as far as they fit. -/
def decimal (negative : Bool) (whole fraction : List Char) (exponent : Int) : Json :=
  let (n, taken) := fitting 0 whole
  let (digits, places) := fitting n fraction
  let scale : Int := (whole.length : Int) - taken - places + exponent
  match Double.scaledDecimal negative digits scale with
  | some d => .num (.double d)
  | none => .unreadable

/-- An integer, or a floating-point number if it needs more than 64 bits; minus zero is no integer. -/
def integer (negative : Bool) (whole : List Char) : Json :=
  let n := Text.digitsValue whole
  if negative then
    if n ≠ 0 ∧ n ≤ Nat.pow 2 63 then .num (.int (-(n : Int))) else decimal true whole [] 0
  else if n < UInt64.size then .num (.int n) else decimal false whole [] 0

/-- The value of a number's characters: whole digits without a leading zero, a fraction, an exponent. -/
def number? (cs : List Char) : Option Json :=
  let (negative, cs) := match cs with
    | '-' :: rest => (true, rest)
    | rest => (false, rest)
  let whole := cs.takeWhile Char.isDigit
  let rest := cs.dropWhile Char.isDigit
  if whole.isEmpty || (whole.head? == some '0' && whole.length != 1) then none
  else
    let (fraction, rest) := match rest with
      | '.' :: tail => (some (tail.takeWhile Char.isDigit), tail.dropWhile Char.isDigit)
      | tail => (none, tail)
    if fraction == some [] then none
    else match fraction, rest with
      | none, [] => some (integer negative whole)
      | some fraction, [] => some (decimal negative whole fraction 0)
      | _, c :: tail =>
        if c = 'e' ∨ c = 'E' then (Text.signed? tail).map fun e => decimal negative whole (fraction.getD []) e
        else none

/-! ## States -/

/-- What the characters read so far leave open. -/
inductive Open where
  /-- Nothing. -/
  | nothing
  /-- A word; its letters, last first. -/
  | word (letters : List Char)
  /-- A number; its characters, last first. -/
  | number (chars : List Char)
  /-- A string: its characters, last first; whether it is a text so far; the first half of a pair just read. -/
  | string (chars : List Char) (sound : Bool) (half : Option Nat)
  /-- A string, after a backslash. -/
  | escape (chars : List Char) (sound : Bool) (half : Option Nat)
  /-- A string, after the `u` of an escape and some digits: their number and value. -/
  | code (chars : List Char) (sound : Bool) (half : Option Nat) (count value : Nat)

/-- The token of a word. -/
def word? (letters : List Char) : Option Token :=
  if letters = ['n', 'u', 'l', 'l'] then some (.scalar .null)
  else if letters = ['t', 'r', 'u', 'e'] then some (.scalar (.bool true))
  else if letters = ['f', 'a', 'l', 's', 'e'] then some (.scalar (.bool false))
  else none

/-- A character where nothing is open. -/
def begin (c : Char) : Option (List Token × Open) :=
  if c = ' ' ∨ c = '\n' ∨ c = '\t' ∨ c = '\r' then some ([], .nothing)
  else if c = '[' then some ([.openArr], .nothing)
  else if c = ']' then some ([.closeArr], .nothing)
  else if c = '\x7b' then some ([.openObj], .nothing)
  else if c = '\x7d' then some ([.closeObj], .nothing)
  else if c = ',' then some ([.comma], .nothing)
  else if c = ':' then some ([.colon], .nothing)
  else if c = '"' then some ([], .string [] true none)
  else if c = '-' ∨ c.isDigit then some ([], .number [c])
  else if c.isLower then some ([], .word [c])
  else none

/-- A character after an escape's backslash. -/
def unescape? (c : Char) : Option Char :=
  if c = '"' ∨ c = '\\' ∨ c = '/' then some c
  else if c = 'b' then some '\x08'
  else if c = 'f' then some '\x0c'
  else if c = 'n' then some '\n'
  else if c = 'r' then some '\r'
  else if c = 't' then some '\t'
  else none

/-- The string after an escape of the code unit `n`. -/
def ofCode (chars : List Char) (sound : Bool) (half : Option Nat) (n : Nat) : Open :=
  match half with
  | some h =>
    if 0xdc00 ≤ n ∧ n < 0xe000 then
      .string (Char.ofNat ((h - 0xd800) * 0x400 + (n - 0xdc00) + 0x10000) :: chars) sound none
    else if 0xd800 ≤ n ∧ n < 0xdc00 then .string chars false (some n)
    else .string (Char.ofNat n :: chars) false none
  | none =>
    if 0xd800 ≤ n ∧ n < 0xdc00 then .string chars sound (some n)
    else if 0xdc00 ≤ n ∧ n < 0xe000 then .string chars false none
    else .string (Char.ofNat n :: chars) sound none

/-- One more character: the tokens it completes, and what is open after it. -/
def advance : Open → Char → Option (List Token × Open)
  | .nothing, c => begin c
  | .word letters, c =>
    if c.isLower then some ([], .word (c :: letters))
    else match word? letters.reverse, begin c with
      | some t, some (ts, o) => some (t :: ts, o)
      | _, _ => none
  | .number chars, c =>
    if c.isDigit ∨ c = '.' ∨ c = 'e' ∨ c = 'E' ∨ c = '+' ∨ c = '-' then some ([], .number (c :: chars))
    else match number? chars.reverse, begin c with
      | some v, some (ts, o) => some (.scalar v :: ts, o)
      | _, _ => none
  | .string chars sound half, c =>
    if c = '"' then
      some ([.text (if sound && half.isNone then some (String.ofList chars.reverse) else none)], .nothing)
    else if c = '\\' then some ([], .escape chars sound half)
    else if c.toNat < 0x20 then none
    else some ([], .string (c :: chars) (sound && half.isNone) none)
  | .escape chars sound half, c =>
    if c = 'u' then some ([], .code chars sound half 0 0)
    else (unescape? c).map fun d => ([], .string (d :: chars) (sound && half.isNone) none)
  | .code chars sound half count value, c =>
    (Text.hexValue? c).map fun d =>
      if count = 3 then ([], ofCode chars sound half (16 * value + d))
      else ([], .code chars sound half (count + 1) (16 * value + d))

/-- The tokens completed by the end of the text. -/
def close : Open → Option (List Token)
  | .nothing => some []
  | .word letters => (word? letters.reverse).map ([·])
  | .number chars => (number? chars.reverse).map fun v => [.scalar v]
  | _ => none

/-- The tokens of `cs`, after those already found (last first). -/
def scan (found : List Token) (o : Open) : List Char → Option (List Token)
  | [] => (close o).map fun ts => found.reverse ++ ts
  | c :: rest =>
    match advance o c with
    | some (ts, o) => scan (ts.reverse ++ found) o rest
    | none => none

/-- The tokens of a text. -/
def ofText? (s : String) : Option (List Token) := scan [] .nothing s.toList

end Token

end Switchboard.Json
