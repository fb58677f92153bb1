import Switchboard.Text.Literal

/-!
# Universally unique identifiers

A `Uuid` is 128 bits. It is read from its 32 hexadecimal digits, plain or in the hyphenated groups 8-4-4-4-12, the
latter also between braces or after `urn:uuid:` in any case of letters; it is written in lower-case groups.
`Malformed` says what is wrong with a text that is none of these.
-/

namespace Switchboard

/-- A universally unique identifier. -/
structure Uuid where
  bits : BitVec 128
  deriving DecidableEq, Repr

namespace Uuid

/-- The identifier whose bits are all zero. -/
def nil : Uuid := ⟨0⟩

instance : Inhabited Uuid := ⟨nil⟩

/-! ## Writing -/

/-- The lowest `count` hexadecimal digits of `n`. -/
def hexText : Nat → Nat → List Char
  | 0, _ => []
  | count + 1, n => hexText count (n / 16) ++ [Nat.digitChar (n % 16)]

/-- The hyphenated form. -/
def text (u : Uuid) : String :=
  let digits := hexText 32 u.bits.toNat
  String.ofList (digits.take 8 ++ '-' :: ((digits.drop 8).take 4 ++ '-' :: ((digits.drop 12).take 4
    ++ '-' :: ((digits.drop 16).take 4 ++ '-' :: digits.drop 20))))

/-! ## Reading -/

open Text (hexValue?)

/-- What is wrong with a text that is no identifier. -/
inductive Malformed where
  /-- A character that belongs to no form, and the bytes before it. -/
  | character (c : Char) (place : Nat)
  /-- A length in bytes that no form has. -/
  | length (found : Nat)
  /-- Not five groups. -/
  | groupCount (found : Nat)
  /-- A group of the wrong length. -/
  | groupLength (group expected found : Nat)
  deriving DecidableEq, Repr

/-- The text of the complaint. -/
def Malformed.message : Malformed → String
  | .character c place => "invalid character: found `" ++ String.singleton c ++ "` at " ++ toString place
  | .length n => "invalid length: found " ++ toString n
  | .groupCount n => "invalid group count: expected 5, found " ++ toString n
  | .groupLength g e n =>
    "invalid group length in group " ++ toString g ++ ": expected " ++ toString e ++ ", found " ++ toString n

/-- The number that 32 hexadecimal digits spell. -/
def ofDigits? (cs : List Char) : Option Uuid :=
  if cs.length = 32 then
    (cs.foldl (fun (n : Option Nat) c => do return 16 * (← n) + (← hexValue? c)) (some 0)).map fun n =>
      ⟨BitVec.ofNat 128 n⟩
  else none

/-- Digits in groups of 8, 4, 4, 4 and 12. -/
def ofGroups? (cs : List Char) : Option Uuid :=
  if cs.length = 36 ∧ [8, 13, 18, 23].all (fun i => cs[i]? == some '-') then
    ofDigits? (cs.filter fun c => c != '-')
  else none

/-- What stands after the marker of an identifier that is written as a name; the case of its letters is free. -/
def named? (cs : List Char) : Option (List Char) :=
  if (cs.take 9).map Char.toLower = ['u', 'r', 'n', ':', 'u', 'u', 'i', 'd', ':'] then some (cs.drop 9) else none

/-- What stands between braces. -/
def braced? (cs : List Char) : Option (List Char) :=
  match cs with
  | '\x7b' :: rest => if rest.getLast? = some '\x7d' then some rest.dropLast else none
  | _ => none

/-- The bytes of the plain digits. -/
def digitsSize : Nat := 32

/-- The bytes of the bare groups. -/
def groupsSize : Nat := 36

/-- The bytes of the groups between braces. -/
def bracedSize : Nat := 38

/-- The bytes of the groups after the marker, which no form exceeds. -/
def namedSize : Nat := 45

/-- A text around which something stands that only goes with groups. -/
structure Framed where
  body : List Char
  /-- The bytes before the body. -/
  before : Nat
  /-- The bytes of an identifier that is framed like this. -/
  size : Nat
  deriving DecidableEq, Repr

/-- What stands between braces or after the marker. -/
def framed? (cs : List Char) : Option Framed :=
  ((braced? cs).map fun body => ⟨body, 1, bracedSize⟩).orElse fun _ =>
    (named? cs).map fun body => ⟨body, 9, namedSize⟩

/-- The first character that is no hexadecimal digit and no hyphen, and its place, if the text starts at `place`. -/
def strayCharacter? (place : Nat) : List Char → Option (Char × Nat)
  | [] => none
  | c :: rest =>
    if c = '-' ∨ (hexValue? c).isSome then strayCharacter? (place + c.utf8Size) rest else some (c, place)

/-- The places of the hyphens. -/
def hyphens (place : Nat) : List Char → List Nat
  | [] => []
  | c :: rest => if c = '-' then place :: hyphens (place + 1) rest else hyphens (place + 1) rest

/-- The first group that is too long or too short; the last one if the others fit, whose length is counted from its
usual place to the end of the whole text. -/
def badGroup (total : Nat) (places : List Nat) : Malformed :=
  let groups := [(0, 0, 8), (1, 9, 4), (2, 14, 4), (3, 19, 4)]
  match (groups.zip places).find? fun (g, p) => p != g.2.1 + g.2.2 with
  | some ((i, start, expected), p) => .groupLength i expected (p - start)
  | none => .groupLength 4 12 (total - 24)

/-- The place at which a framed body starts in a text of `total` bytes. If the size is right, places are counted in the
body. -/
def Framed.start (f : Framed) (total : Nat) : Nat := if total = f.size then 0 else f.before

/-- Why a text of `total` bytes is no identifier. A text of the size of bare groups is taken for nothing else, and one
that is longer than every form is not looked at. -/
def diagnose (total : Nat) (cs : List Char) : Malformed :=
  let frame := if total = groupsSize then some ⟨cs, 0, groupsSize⟩ else framed? cs
  let (body, start) := match frame with
    | some f => (f.body, f.start total)
    | none => (cs, 0)
  if namedSize < total then .length total
  else match strayCharacter? start body with
  | some (c, place) => .character c place
  | none =>
    let places := hyphens 0 body
    if places.isEmpty && frame.isNone then .length total
    else if places.length ≠ 4 then .groupCount (places.length + 1)
    else badGroup total places

/-- The identifier that a text of `total` bytes spells. The size settles which form it has. -/
def ofForm? (total : Nat) (cs : List Char) : Option Uuid :=
  if total = digitsSize then ofDigits? cs
  else if total = groupsSize then ofGroups? cs
  else if total = bracedSize then (braced? cs).bind ofGroups?
  else if total = namedSize then (named? cs).bind ofGroups?
  else none

/-- Reads an identifier. -/
def parse (s : String) : Except Malformed Uuid :=
  match ofForm? s.utf8ByteSize s.toList with
  | some u => .ok u
  | none => .error (diagnose s.utf8ByteSize s.toList)

end Uuid

end Switchboard
