import Switchboard.KeyMap
import Switchboard.Text.Case
import Switchboard.Text.ClassTable
import Switchboard.Text.Literal

/-!
# Environment files

An environment file has a variable and its value on each line. A value may be quoted, over several lines if need be;
between double quotes and without quotes it may have escapes, and `$name` or `$` with a name in braces stands for the
value of a variable. A number sign after a blank, or first on a line, starts a comment.

`load` adds the variables of a file to an environment. A variable that is set stays as it is, and the first line that
makes no sense ends the file.
-/

namespace Switchboard.EnvFile

/-- The variables that are set. -/
abbrev Environment := KeyMap String

/-! ## Lines -/

/-- Where in a line the reader is. -/
inductive Place where
  | plain
  /-- After a blank. -/
  | blank
  | escaped
  | weak
  | weakEscaped
  | strong
  | strongEscaped
  deriving DecidableEq, Repr

/-- The place after a character outside quotes. -/
def Place.outside (c : Char) : Place :=
  if c = '\\' then escaped else if c = '"' then weak else if c = '\'' then strong else plain

/-- The place after a character; none where a comment starts. -/
def Place.next (c : Char) : Place → Option Place
  | blank => if c = '#' then none else some (outside c)
  | plain => some (if Text.isBlank c ∧ c ≠ '\n' ∧ c ≠ '\r' then blank else outside c)
  | escaped => some plain
  | weak => some (if c = '\\' then weakEscaped else if c = '"' then plain else weak)
  | weakEscaped => some weak
  | strong => some (if c = '\\' then strongEscaped else if c = '\'' then plain else strong)
  | strongEscaped => some strong

/-- Reads a line: the characters before a comment, or the place at its end. -/
def scan (place : Place) (before : List Char) : List Char → List Char ⊕ Place
  | [] => .inr place
  | c :: rest =>
    match place.next c with
    | none => .inl before.reverse
    | some place => scan place (c :: before) rest

/-- Cuts a text after each line break. -/
def physicalLines : List Char → List (List Char)
  | [] => []
  | c :: rest =>
    if c = '\n' then [c] :: physicalLines rest
    else
      match physicalLines rest with
      | [] => [[c]]
      | l :: more => (c :: l) :: more

/-- A line without the line break at its end. -/
def chomp (l : List Char) : List Char :=
  match l.reverse with
  | '\n' :: '\r' :: rest | '\n' :: rest => rest.reverse
  | _ => l

/-- The lines with quoted line breaks inside; none for a line that does not end. -/
def lines (buffer : List Char) (place : Place) : List (List Char) → List (Option (List Char))
  | [] => if place = .plain then [] else [none]
  | l :: rest =>
    let whole := buffer ++ l
    if (Text.trimStart whole).head? = some '#' then some [] :: lines [] .plain rest
    else
      match scan place [] l with
      | .inl before => some (buffer ++ before) :: lines [] .plain rest
      | .inr .plain => some (chomp whole) :: lines [] .plain rest
      | .inr place => lines whole place rest

/-! ## Values -/

/-- Where in a value the reader is; `quoted` says whether between double quotes. -/
inductive Mode where
  | text (quoted : Bool)
  | strong
  | escaped (quoted : Bool)
  /-- After the value: only blanks or a comment may follow. -/
  | done
  /-- In the name of a variable. -/
  | bare (quoted : Bool) (name : List Char)
  /-- In the name of a variable between braces. -/
  | braced (quoted : Bool) (name : List Char)
  deriving DecidableEq, Repr

/-- The value of a variable; the empty text if it is not set. -/
def value (env : Environment) (name : List Char) : List Char :=
  ((env.get? (String.ofList name)).getD "").toList

/-- What an escaped character stands for. -/
def unescape : Char → Option Char
  | '\\' => some '\\'
  | '\'' => some '\''
  | '"' => some '"'
  | '$' => some '$'
  | ' ' => some ' '
  | 'n' => some '\n'
  | _ => none

/-- Whether a character can stand in the name of a variable that is used. -/
def isNameChar (c : Char) : Bool := Text.inRuns Text.alphanumericRuns c.toNat

/-- The mode after a character, and the characters that the value gets. -/
def Mode.next (env : Environment) (c : Char) : Mode → Option (Mode × List Char)
  | .text true =>
    some (if c = '$' then (.bare true [], []) else if c = '"' then (.text false, [])
      else if c = '\\' then (.escaped true, []) else (.text true, [c]))
  | .text false =>
    some (if c = '$' then (.bare false [], []) else if c = '\'' then (.strong, [])
      else if c = '"' then (.text true, []) else if c = '\\' then (.escaped false, [])
      else if c = ' ' ∨ c = '\t' then (.done, []) else (.text false, [c]))
  | .strong => some (if c = '\'' then (.text false, []) else (.strong, [c]))
  | .escaped quoted => (unescape c).map fun d => (.text quoted, [d])
  | .done => if c = ' ' ∨ c = '\t' then some (.done, []) else none
  | .bare quoted name =>
    some (if isNameChar c then (.bare quoted (name ++ [c]), [])
      else if c = '\x7b' ∧ name = [] then (.braced quoted [], [])
      else if c = '$' then (.bare quoted [], value env name)
      else (.text quoted, value env name ++ [c]))
  | .braced quoted name =>
    some (if c = '\x7d' then (.text quoted, value env name) else (.braced quoted (name ++ [c]), []))

/-- The last characters of a value that ends in this mode, if it may. -/
def Mode.finish (env : Environment) : Mode → Option (List Char)
  | .text false | .escaped false | .done => some []
  | .bare false name => some (value env name)
  | .text true | .escaped true | .bare true _ | .strong | .braced .. => none

/-- Reads a value. -/
def parseValue (env : Environment) (mode : Mode) : List Char → Option (List Char)
  | [] => mode.finish env
  | c :: rest =>
    if mode = .done ∧ c = '#' then some []
    else
      match mode.next env c with
      | none => none
      | some (mode, out) => (parseValue env mode rest).map (out ++ ·)

/-! ## Entries -/

/-- Whether a character can stand first in the name of a variable that is set. -/
def startsKey (c : Char) : Bool := c.isAlpha || c == '_'

/-- Whether a character can stand in the name of a variable that is set. -/
def isKeyChar (c : Char) : Bool := c.isAlphanum || c == '_' || c == '.'

/-- Reads a name; also what follows it and its blanks. -/
def key? (cs : List Char) : Option (List Char × List Char) :=
  match cs with
  | c :: _ =>
    if startsKey c then some (cs.takeWhile isKeyChar, Text.trimStart (cs.dropWhile isKeyChar)) else none
  | [] => none

/-- What follows an equals sign. -/
def afterEquals? : List Char → Option (List Char)
  | '=' :: rest => some (Text.trimStart rest)
  | _ => none

/-- Reads the name of a variable, perhaps after `export`, and the equals sign. -/
def assignment? (cs : List Char) : Option (List Char × List Char) := do
  let (key, rest) ← key? cs
  match afterEquals? rest with
  | some rest => some (key, rest)
  | none =>
    if key = ['e', 'x', 'p', 'o', 'r', 't'] then
      let (key, rest) ← key? rest
      (afterEquals? rest).map (key, ·)
    else none

/-- What a line holds. -/
inductive Line where
  | empty
  | entry (key value : String)
  | malformed
  deriving DecidableEq, Repr

/-- Whether nothing stands here but perhaps a comment. -/
def isEmpty (cs : List Char) : Bool := cs.head?.all (· == '#')

/-- Reads a line. -/
def parseLine (env : Environment) (l : List Char) : Line :=
  let cs := Text.trimStart (Text.trimEnd l)
  if isEmpty cs then .empty
  else
    match assignment? cs with
    | none => .malformed
    | some (key, rest) =>
      if isEmpty rest then .entry (String.ofList key) ""
      else
        match parseValue env (.text false) rest with
        | some v => .entry (String.ofList key) (String.ofList v)
        | none => .malformed

/-! ## Loading -/

/-- Adds the variables of these lines. -/
def loadLines (env : Environment) : List (Option (List Char)) → Environment
  | [] | none :: _ => env
  | some l :: rest =>
    match parseLine env l with
    | .empty => loadLines env rest
    | .malformed => env
    | .entry key value => loadLines (if env.contains key then env else env.insert key value) rest

/-- The text without a byte order mark. -/
def withoutMark : List Char → List Char
  | '\ufeff' :: rest => rest
  | cs => cs

/-- Adds the variables of a file to an environment. -/
def load (env : Environment) (text : String) : Environment :=
  loadLines env (lines [] .plain (physicalLines (withoutMark text.toList)))

end Switchboard.EnvFile
