import Switchboard.Json.Basic
import Switchboard.Number.Shortest

/-!
# JSON text

`compact` writes a value without any blank, `pretty` with one member or item a line and two blanks of indentation a
level. Both escape the quote, the backslash and the controls, and write every other character as it is.
-/

namespace Switchboard.Json

/-! ## Leaves -/

/-- A hexadecimal digit, lower case. -/
def hexDigit (n : Nat) : Char := (Nat.digitChar n)

/-- One character inside a JSON string. -/
def escapeChar (c : Char) : List Char :=
  if c = '"' then ['\\', '"']
  else if c = '\\' then ['\\', '\\']
  else if c = '\x08' then ['\\', 'b']
  else if c = '\t' then ['\\', 't']
  else if c = '\n' then ['\\', 'n']
  else if c = '\x0c' then ['\\', 'f']
  else if c = '\r' then ['\\', 'r']
  else if c.toNat < 0x20 then ['\\', 'u', '0', '0', hexDigit (c.toNat / 16), hexDigit (c.toNat % 16)]
  else [c]

/-- A JSON string. -/
def stringText (s : String) : List Char := '"' :: (s.toList.flatMap escapeChar ++ ['"'])

/-- An integer in decimal digits. -/
def intText : Int → List Char
  | .ofNat n => Nat.toDigits 10 n
  | .negSucc n => '-' :: Nat.toDigits 10 (n + 1)

/-- A number. -/
def numberText : Number → List Char
  | .int i => intText i
  | .double d => d.text.toList

/-! ## Without blanks -/

mutual

/-- The characters of the compact text. -/
def compactChars : Json → List Char
  | .null | .unreadable => ['n', 'u', 'l', 'l']
  | .bool true => ['t', 'r', 'u', 'e']
  | .bool false => ['f', 'a', 'l', 's', 'e']
  | .num n => numberText n
  | .str s => stringText s
  | .arr [] => ['[', ']']
  | .arr (v :: rest) => '[' :: (v.compactChars ++ compactItems rest)
  | .obj [] => ['\x7b', '\x7d']
  | .obj ((k, v) :: rest) => '\x7b' :: (stringText k ++ ':' :: (v.compactChars ++ compactMembers rest))

/-- The items after the first, and the bracket. -/
def compactItems : List Json → List Char
  | [] => [']']
  | v :: rest => ',' :: (v.compactChars ++ compactItems rest)

/-- The members after the first, and the brace. -/
def compactMembers : List (String × Json) → List Char
  | [] => ['\x7d']
  | (k, v) :: rest => ',' :: (stringText k ++ ':' :: (v.compactChars ++ compactMembers rest))

end

/-- The compact text. -/
def compact (v : Json) : String := String.ofList v.compactChars

/-! ## Indented -/

/-- A line break and the indentation of `level`. -/
def indent (level : Nat) : List Char := '\n' :: List.replicate (2 * level) ' '

mutual

/-- The characters of the indented text at `level`. -/
def prettyChars (level : Nat) : Json → List Char
  | .arr (v :: rest) => '[' :: (indent (level + 1) ++ v.prettyChars (level + 1) ++ prettyItems level rest)
  | .obj ((k, v) :: rest) =>
    '\x7b' :: (indent (level + 1) ++ stringText k
      ++ ':' :: ' ' :: (v.prettyChars (level + 1) ++ prettyMembers level rest))
  | .null | .unreadable => ['n', 'u', 'l', 'l']
  | .bool true => ['t', 'r', 'u', 'e']
  | .bool false => ['f', 'a', 'l', 's', 'e']
  | .num n => numberText n
  | .str s => stringText s
  | .arr [] => ['[', ']']
  | .obj [] => ['\x7b', '\x7d']

/-- The items after the first, and the bracket on a line of its own. -/
def prettyItems (level : Nat) : List Json → List Char
  | [] => indent level ++ [']']
  | v :: rest => ',' :: (indent (level + 1) ++ v.prettyChars (level + 1) ++ prettyItems level rest)

/-- The members after the first, and the brace on a line of its own. -/
def prettyMembers (level : Nat) : List (String × Json) → List Char
  | [] => indent level ++ ['\x7d']
  | (k, v) :: rest =>
    ',' :: (indent (level + 1) ++ stringText k ++ ':' :: ' ' :: (v.prettyChars (level + 1) ++ prettyMembers level rest))

end

/-- The indented text. -/
def pretty (v : Json) : String := String.ofList (v.prettyChars 0)

end Switchboard.Json
