import Switchboard.Text.Literal

/-!
# Points in time

An `Instant` is a date and a time of day in universal time, to the nanosecond; the second may be 60. `parse` reads
the internet profile of the ISO date format in a relaxed way: blanks between the parts, one-digit numbers, a blank in
place of the `T`, and any offset; the result is moved to universal time. `text` writes the profile's strict form, with
as many fraction digits (0, 3, 6 or 9) as the value needs.
-/

namespace Switchboard

/-- A point in time, in universal time. -/
structure Instant where
  year : Int
  month : Nat
  day : Nat
  hour : Nat
  minute : Nat
  /-- From 0 to 60. -/
  second : Nat
  nano : Nat
  deriving DecidableEq, Repr

namespace Instant

/-- The start of the year 1970. -/
def epoch : Instant := ⟨1970, 1, 1, 0, 0, 0, 0⟩

instance : Inhabited Instant := ⟨epoch⟩

/-! ## Calendar -/

/-- Whether a year has a 29th of February. -/
def isLeap (year : Int) : Bool := year % 4 == 0 && (year % 100 != 0 || year % 400 == 0)

/-- The number of days of a month. -/
def daysIn (year : Int) (month : Nat) : Nat :=
  if month = 2 then (if isLeap year then 29 else 28)
  else if month = 4 ∨ month = 6 ∨ month = 9 ∨ month = 11 then 30 else 31

/-- The years a date may have. -/
def yearInRange (year : Int) : Bool := -262143 ≤ year && year ≤ 262142

/-- The same time one day later. -/
def nextDay (t : Instant) : Instant :=
  if t.day < daysIn t.year t.month then { t with day := t.day + 1 }
  else if t.month < 12 then { t with month := t.month + 1, day := 1 }
  else { t with year := t.year + 1, month := 1, day := 1 }

/-- The same time one day earlier. -/
def previousDay (t : Instant) : Instant :=
  if 1 < t.day then { t with day := t.day - 1 }
  else if 1 < t.month then { t with month := t.month - 1, day := daysIn t.year (t.month - 1) }
  else { t with year := t.year - 1, month := 12, day := 31 }

/-- The time `minutes` earlier, for less than a day. -/
def minus (t : Instant) (minutes : Int) : Instant :=
  let total : Int := (t.hour * 60 + t.minute : Nat) - minutes
  let moved (total : Int) (t : Instant) : Instant :=
    { t with hour := (total / 60).toNat, minute := (total % 60).toNat }
  if total < 0 then moved (total + 1440) t.previousDay
  else if 1440 ≤ total then moved (total - 1440) t.nextDay
  else moved total t

/-! ## Writing -/

/-- The last `count` decimal digits of `n`. -/
def padded : Nat → Nat → List Char
  | 0, _ => []
  | count + 1, n => padded count (n / 10) ++ [Nat.digitChar (n % 10)]

/-- A year: four digits, or a sign and at least four digits. -/
def yearText (year : Int) : List Char :=
  if 0 ≤ year ∧ year ≤ 9999 then padded 4 year.toNat
  else
    let digits := Nat.toDigits 10 year.natAbs
    (if year < 0 then '-' else '+') :: (List.replicate (4 - digits.length) '0' ++ digits)

/-- The fraction of a second, in as few groups of three digits as it needs. -/
def fractionText (nano : Nat) : List Char :=
  if nano = 0 then []
  else if nano % 1000000 = 0 then '.' :: padded 3 (nano / 1000000)
  else if nano % 1000 = 0 then '.' :: padded 6 (nano / 1000)
  else '.' :: padded 9 nano

/-- The text of a point in time. -/
def text (t : Instant) : String :=
  String.ofList (yearText t.year ++ '-' :: (padded 2 t.month ++ '-' :: (padded 2 t.day ++ 'T' :: (padded 2 t.hour
    ++ ':' :: (padded 2 t.minute ++ ':' :: (padded 2 t.second ++ (fractionText t.nano ++ ['Z'])))))))

/-! ## Reading -/

/-- What is wrong with a text that is no point in time. -/
inductive Malformed where
  | outOfRange
  | impossible
  | invalid
  | tooShort
  | tooLong
  deriving DecidableEq, Repr

/-- The text of the complaint. -/
def Malformed.message : Malformed → String
  | .outOfRange => "input is out of range"
  | .impossible => "no possible date and time matching input"
  | .invalid => "input contains invalid characters"
  | .tooShort => "premature end of input"
  | .tooLong => "trailing input"

open Text (trimStart digitsValue)

/-- A reader of the start of a text: a value and the rest. -/
abbrev Reader (α : Type) := List Char → Except Malformed (α × List Char)

/-- Between one and `most` decimal digits. -/
def number (most : Nat) : Reader Nat := fun cs =>
  match cs with
  | [] => .error .tooShort
  | c :: _ =>
    if !c.isDigit then .error .invalid
    else
      let digits := (cs.take most).takeWhile Char.isDigit
      let n := digitsValue digits
      if n < Nat.pow 2 63 then .ok (n, cs.drop digits.length) else .error .outOfRange

/-- A number of at most two digits between two bounds, after blanks. -/
def bounded (low high : Nat) : Reader Nat := fun cs => do
  let (n, rest) ← number 2 (trimStart cs)
  if low ≤ n ∧ n ≤ high then .ok (n, rest) else .error .outOfRange

/-- One given character. -/
def literal (c : Char) : Reader Unit
  | [] => .error .tooShort
  | d :: rest => if d = c then .ok ((), rest) else .error .invalid

/-- A separator, after blanks. -/
def separator (c : Char) : Reader Unit := fun cs => literal c (trimStart cs)

/-- A year, after blanks: at most four digits, or any number of them after a sign. -/
def calendarYear : Reader Int := fun cs => do
  let cs := trimStart cs
  let (y, rest) ← match cs with
    | '-' :: tail => do let (n, rest) ← number tail.length tail; pure (-(n : Int), rest)
    | '+' :: tail => do let (n, rest) ← number tail.length tail; pure ((n : Int), rest)
    | tail => do let (n, rest) ← number 4 tail; pure ((n : Int), rest)
  if -2147483648 ≤ y ∧ y ≤ 2147483647 then .ok (y, rest) else .error .outOfRange

/-- A fraction of a second, if there is one; digits past the ninth are passed over. -/
def fraction : Reader Nat
  | '.' :: rest => do
    let (n, after) ← number 9 rest
    .ok (n * Nat.pow 10 (9 - (rest.length - after.length)), after.dropWhile Char.isDigit)
  | cs => .ok (0, cs)

/-- Two digits, the first at most `top`. A single character that fills two bytes is not too short, but no digit. -/
def twoDigits (top : Char) : Reader Nat
  | a :: b :: rest =>
    if a.isDigit ∧ b.isDigit then
      if a ≤ top then .ok (digitsValue [a, b], rest) else .error .outOfRange
    else .error .invalid
  | [a] => .error (if a.utf8Size < 2 then .tooShort else .invalid)
  | [] => .error .tooShort

/-- An offset from universal time in minutes: `Z`, `UTC`, or a sign, hours and minutes. -/
def offset : Reader Int := fun cs =>
  if (cs.take 3).map Char.toUpper = ['U', 'T', 'C'] then .ok (0, cs.drop 3)
  else match cs with
  | [] => .error .tooShort
  | c :: rest =>
    if c = 'Z' ∨ c = 'z' then .ok (0, rest)
    else if c = '+' ∨ c = '-' ∨ c = '−' then do
      let (h, rest) ← twoDigits '9' rest
      let (m, rest) ← twoDigits '5' (rest.dropWhile fun c => c = ':' || Text.isBlank c)
      let total : Int := h * 60 + m
      .ok (if c = '+' then total else -total, rest)
    else .error .invalid

/-- The mark between date and time. -/
def timeMark : Reader Unit
  | [] => .error .tooShort
  | c :: rest => if c = 't' ∨ c = 'T' ∨ c = ' ' then .ok ((), rest) else .error .invalid

/-- Reads a point in time. -/
def parse (s : String) : Except Malformed Instant := do
  let (y, cs) ← calendarYear s.toList
  let ((), cs) ← separator '-' cs
  let (mo, cs) ← bounded 1 12 cs
  let ((), cs) ← separator '-' cs
  let (d, cs) ← bounded 1 31 cs
  let ((), cs) ← timeMark cs
  let (h, cs) ← bounded 0 23 cs
  let ((), cs) ← separator ':' cs
  let (mi, cs) ← bounded 0 59 cs
  let ((), cs) ← separator ':' cs
  let (sec, cs) ← bounded 0 60 cs
  let (n, cs) ← fraction cs
  let (off, cs) ← offset (trimStart cs)
  if !(trimStart cs).isEmpty then .error .tooLong
  if !yearInRange y || daysIn y mo < d || 1440 ≤ off.natAbs then .error .outOfRange
  let t := (⟨y, mo, d, h, mi, sec, n⟩ : Instant).minus off
  if yearInRange t.year then .ok t else .error .impossible

end Instant

end Switchboard
