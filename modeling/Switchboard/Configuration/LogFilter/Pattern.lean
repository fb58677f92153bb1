import Switchboard.Text.Case
import Switchboard.Text.ClassTable
import Switchboard.Text.Literal

/-!
# Patterns

A pattern is the regular expression that a field's value has to match. Nothing is matched here: `isPattern` says
whether a text is a pattern that a matcher can be made of.

Such a matcher knows the letters of ASCII only. So while characters are meant, there are no classes of digits, blanks
or word characters, no boundaries of words, and nothing in which case does not matter; while bytes are meant, all of
these are there, but nothing may match a part of a character.

A pattern is read piece by piece: outside of classes a piece is a bracket, a bar, a repetition or an atom; inside it is
an atom, a range of them, a named class, or what opens, joins or closes classes. A closing brace ends the field and so
never comes after an opening one; hence an opening brace counts only as an atom of a class.

What is nested too deeply is no pattern. Groups, repetitions and classes add a level to what they hold, and so do rows
of several parts, bars and operators.
-/

namespace Switchboard.LogFilter.Pattern

/-! ## Modes -/

/-- What a part of a pattern means. -/
structure Modes where
  /-- Case does not matter. -/
  caseless : Bool := false
  /-- Characters are meant, not bytes. -/
  characters : Bool := true
  /-- Blanks and comments are passed over. -/
  spaced : Bool := false
  deriving DecidableEq, Repr

/-- Switches a mode on or off. Of some modes only the name matters here. -/
def Modes.switch? (m : Modes) (name : Char) (on : Bool) : Option Modes :=
  if name = 'i' then some { m with caseless := on }
  else if name = 'u' then some { m with characters := on }
  else if name = 'x' then some { m with spaced := on }
  else if name = 'm' ∨ name = 's' ∨ name = 'U' ∨ name = 'R' then some m
  else none

/-- What comes after blanks and comments, or after the rest of a comment. -/
def afterBlanks (comment : Bool) : List Char → List Char
  | [] => []
  | c :: rest =>
    if comment then afterBlanks (c != '\n') rest
    else if Text.isBlank c then afterBlanks false rest
    else if c = '#' then afterBlanks true rest
    else c :: rest

/-- Passes over blanks and comments, if they do not count. -/
def Modes.skip (m : Modes) (cs : List Char) : List Char := if m.spaced then afterBlanks false cs else cs

/-- What comes next after blanks, as a hyphen in a class looks ahead: of a comment it passes over no more than the sign
that starts it. -/
def Modes.ahead? (m : Modes) (cs : List Char) : Option Char :=
  if m.spaced then
    match cs.dropWhile Text.isBlank with
    | '#' :: rest => (rest.dropWhile Text.isBlank).head?
    | rest => rest.head?
  else cs.head?

/-! ## Depth -/

/-- How many levels a pattern may have. -/
def maxDepth : Nat := 250

/-- The depth of parts that stand together, by their depths: one part alone adds no level. -/
def depth : List Nat → Nat
  | [] => 0
  | [d] => d
  | d :: ds => ds.foldl max d + 1

/-- The parts of a pattern that are read so far in one group, by their depths. -/
structure Row where
  /-- The parts after the last bar, the last one first. -/
  parts : List Nat := []
  /-- What stands before each bar. -/
  branches : List Nat := []
  deriving DecidableEq, Repr

namespace Row

/-- Takes in a part. -/
def add (row : Row) (part : Nat) : Row := { row with parts := part :: row.parts }

/-- Repeats the last part. -/
def repeated (row : Row) : Row :=
  match row.parts with
  | [] => row
  | part :: parts => { row with parts := (part + 1) :: parts }

/-- Takes in a bar. -/
def bar (row : Row) : Row := { parts := [], branches := depth row.parts :: row.branches }

/-- The depth of all parts. -/
def depth (row : Row) : Nat := Pattern.depth (Pattern.depth row.parts :: row.branches)

end Row

/-- The parts of a class that are read so far, by their depths. -/
structure Class where
  /-- The parts after the last operator. -/
  parts : List Nat := []
  /-- What stands before that operator. -/
  before : Option Nat := none
  deriving DecidableEq, Repr

namespace Class

/-- Takes in a part. -/
def add (c : Class) (part : Nat) : Class := { c with parts := part :: c.parts }

/-- The depth of all parts. -/
def depth (c : Class) : Nat :=
  match c.before with
  | none => Pattern.depth c.parts
  | some d => max d (Pattern.depth c.parts) + 1

/-- Takes in an operator. -/
def operator (c : Class) : Class := { parts := [], before := some c.depth }

end Class

/-! ## Atoms -/

/-- The smallest part of a pattern. -/
inductive Atom where
  /-- A character; `byte` says whether it is written as a number of two digits, which may be a byte. -/
  | literal (c : Char) (byte : Bool)
  /-- The digits, the blanks or the word characters, or all others. -/
  | kind (negated : Bool)
  /-- A boundary of a word, or the lack of one. -/
  | boundary
  /-- An end of the text. -/
  | edge
  deriving DecidableEq, Repr

/-- Whether a character is of ASCII. -/
def isAscii (c : Char) : Bool := c.toNat < 128

/-- Whether a matcher can be made of an atom outside of classes. -/
def Atom.matchable (m : Modes) : Atom → Bool
  | literal c byte => if m.characters then !m.caseless else !byte || isAscii c
  | kind negated => !m.characters && !negated
  | boundary => !m.characters
  | edge => true

/-- Whether a matcher can be made of an atom in a class. -/
def Atom.classable (m : Modes) : Atom → Bool
  | literal c _ => if m.characters then !m.caseless else isAscii c
  | kind negated => !m.characters && !negated
  | boundary | edge => false

/-- Whether two atoms are the ends of a range. -/
def Atom.spans : Atom → Atom → Bool
  | literal a _, literal b _ => a ≤ b
  | _, _ => false

/-- The number that so many hexadecimal digits spell after those of `n`, and what comes after them. -/
def code? (m : Modes) (n : Nat) : Nat → List Char → Option (Nat × List Char)
  | 0, cs => some (n, cs)
  | count + 1, cs =>
    match m.skip cs with
    | [] => none
    | c :: rest => (Text.hexValue? c).bind fun d => code? m (16 * n + d) count rest

/-- A character by its number. -/
def numbered? (m : Modes) (digits : Nat) (cs : List Char) : Option (Atom × List Char) :=
  (code? m 0 digits cs).bind fun (n, rest) =>
    if n.isValidChar then some (.literal (Char.ofNat n) (digits == 2), rest) else none

/-- The controls that have a letter. -/
def controls : List (Char × Char) :=
  [('a', '\x07'), ('f', '\x0c'), ('t', '\t'), ('n', '\n'), ('r', '\r'), ('v', '\x0b')]

/-- The atom of a character after a backslash. Signs stand for themselves; letters and digits have a meaning or are
refused. -/
def escaped? (m : Modes) : List Char → Option (Atom × List Char)
  | [] => none
  | c :: rest =>
    if c = 'x' then numbered? m 2 rest
    else if c = 'u' then numbered? m 4 rest
    else if c = 'U' then numbered? m 8 rest
    else if c = 'd' ∨ c = 's' ∨ c = 'w' then some (.kind false, rest)
    else if c = 'D' ∨ c = 'S' ∨ c = 'W' then some (.kind true, rest)
    else if c = 'b' ∨ c = 'B' ∨ c = '<' ∨ c = '>' then some (.boundary, rest)
    else if c = 'A' ∨ c = 'z' then some (.edge, rest)
    else match controls.lookup c with
    | some control => some (.literal control false, rest)
    | none => if isAscii c && !c.isAlphanum then some (.literal c false, rest) else none

/-- The first atom, as it is read in a class. -/
def atom? (m : Modes) : List Char → Option (Atom × List Char)
  | [] => none
  | '\\' :: rest => escaped? m rest
  | c :: rest => some (.literal c false, rest)

/-! ## Reading -/

/-- What stands in the innermost open class. -/
inductive Content where
  | nothing
  /-- Hyphens only, which are taken for themselves. -/
  | hyphens
  | more
  deriving DecidableEq, Repr

/-- What is known after some pieces. -/
structure Reading where
  modes : Modes := {}
  row : Row := {}
  /-- The modes and rows around the open groups, the innermost group first. -/
  outer : List (Modes × Row) := []
  /-- The names of groups. -/
  names : List (List Char) := []
  /-- The open classes, the innermost first. -/
  classes : List Class := []
  content : Content := .more
  /-- Whether there is something that can be repeated. -/
  repeatable : Bool := false

namespace Reading

/-- Whether everything that was opened is closed, and nothing is nested too deeply. -/
def isComplete (r : Reading) : Bool := r.outer.isEmpty && r.classes.isEmpty && decide (r.row.depth ≤ maxDepth)

/-! ### Classes -/

/-- The names of classes. -/
def classNames : List String := [
  "alnum", "alpha", "ascii", "blank", "cntrl", "digit", "graph", "lower", "print", "punct", "space", "upper", "word",
  "xdigit"]

/-- A named class after its bracket: whether all other characters are meant, and what comes after it. -/
def namedClass? : List Char → Option (Bool × List Char)
  | ':' :: rest =>
    let (negated, rest) := match rest with
      | '^' :: rest => (true, rest)
      | rest => (false, rest)
    match rest.dropWhile (· != ':') with
    | ':' :: ']' :: after =>
      if classNames.contains (String.ofList (rest.takeWhile (· != ':'))) then some (negated, after) else none
    | _ => none
  | _ => none

/-- Opens a class after its bracket. The complement of a class of bytes would hold parts of characters. -/
def openClass (r : Reading) (cs : List Char) : Option (Reading × List Char) :=
  let opened := { r with classes := {} :: r.classes, content := .nothing }
  match r.modes.skip cs with
  | '^' :: rest => if r.modes.characters then some (opened, rest) else none
  | rest => some (opened, rest)

/-- Changes the innermost class, which from then on holds more than hyphens. -/
def changeClass (r : Reading) (change : Class → Class) : Reading :=
  { r with classes := r.classes.modifyHead change, content := .more }

/-- Closes the innermost class. -/
def closeClass (r : Reading) : Reading :=
  match r.classes with
  | [] => r
  | [c] => { r with classes := [], row := r.row.add (c.depth + 1), repeatable := true }
  | c :: classes => { r with classes := classes }.changeClass fun outer => outer.add (c.depth + 1)

/-- Takes in an atom of a class. -/
def takeAtom (r : Reading) (content : Content) (a : Atom) (rest : List Char) : Option (Reading × List Char) :=
  if a.classable r.modes then some ({ r.changeClass fun c => c.add 0 with content := content }, rest) else none

/-- Reads an atom of a class, or a range. A hyphen before a bracket or another hyphen makes no range. -/
def range? (r : Reading) (cs : List Char) : Option (Reading × List Char) := do
  let (first, after) ← atom? r.modes cs
  let single := r.takeAtom .more first after
  match r.modes.skip after with
  | '-' :: rest =>
    match r.modes.ahead? rest with
    | some ']' | some '-' => single
    | _ => do
      let (last, after) ← atom? r.modes (r.modes.skip rest)
      if first.spans last && first.classable r.modes then r.takeAtom .more last after else none
  | _ => single

/-- Reads a piece in a class. -/
def inClass? (r : Reading) (cs : List Char) : Option (Reading × List Char) :=
  match r.content, cs with
  | .nothing, '-' :: rest | .hyphens, '-' :: rest => r.takeAtom .hyphens (.literal '-' false) rest
  | .nothing, ']' :: rest => r.takeAtom .more (.literal ']' false) rest
  | _, '[' :: rest =>
    match namedClass? rest with
    | some (negated, rest) =>
      if (if r.modes.characters then !r.modes.caseless else !negated) then some (r.changeClass fun c => c.add 0, rest)
      else none
    | none => r.openClass rest
  | _, ']' :: rest => some (r.closeClass, rest)
  | _, '&' :: '&' :: rest | _, '-' :: '-' :: rest | _, '~' :: '~' :: rest => some (r.changeClass Class.operator, rest)
  | _, cs => r.range? cs

/-! ### Groups -/

/-- Opens a group with modes of its own. -/
def openGroup (r : Reading) (modes : Modes) : Reading :=
  { r with modes := modes, row := {}, outer := (r.modes, r.row) :: r.outer, repeatable := false }

/-- Closes the innermost group, if there is one. -/
def closeGroup? (r : Reading) : Option Reading :=
  match r.outer with
  | [] => none
  | (modes, row) :: outer =>
    some { r with modes := modes, row := row.add (r.row.depth + 1), outer := outer, repeatable := true }

/-- Switches the modes for the rest of the group, which is a part of its own that cannot be repeated. -/
def switch (r : Reading) (modes : Modes) : Reading := { r with modes := modes, row := r.row.add 0, repeatable := false }

/-- Whether a character may start the name of a group. -/
def startsName (c : Char) : Bool :=
  c == '_' || (Text.inRuns Text.alphanumericRuns c.toNat && !Text.inRuns Text.numericRuns c.toNat)

/-- Whether a character may stand in the name of a group. -/
def inName (c : Char) : Bool := ['_', '.', '[', ']'].contains c || Text.inRuns Text.alphanumericRuns c.toNat

/-- Opens a group after the bracket before its name. No two groups have one name. -/
def named? (r : Reading) (cs : List Char) : Option (Reading × List Char) :=
  let name := cs.takeWhile (· != '>')
  match name, cs.dropWhile (· != '>') with
  | first :: others, '>' :: rest =>
    if startsName first && others.all inName && !r.names.contains name then
      some ({ r.openGroup r.modes with names := name :: r.names }, rest)
    else none
  | _, _ => none

/-- Reads switches of modes, up to a colon, after which a group has them, or to a bracket, after which they hold in the
group around them. None may be repeated, and a hyphen, which turns to switching off, may not be the last one. `seen` are
those before, the last one first. -/
def switches? (r : Reading) (modes : Modes) (seen : List Char) : List Char → Option (Reading × List Char)
  | [] => none
  | c :: rest =>
    if c = ':' ∨ c = ')' then
      if seen.head? = some '-' ∨ (c = ')' ∧ seen = []) then none
      else some (if c = ':' then r.openGroup modes else r.switch modes, rest)
    else if seen.contains c then none
    else if c = '-' then switches? r modes (c :: seen) rest
    else (modes.switch? c !(seen.contains '-')).bind fun modes => switches? r modes (c :: seen) rest

/-- Reads what follows the bracket of a group. -/
def group? (r : Reading) : List Char → Option (Reading × List Char)
  | '?' :: 'P' :: '<' :: rest | '?' :: '<' :: rest => r.named? rest
  | '?' :: rest => r.switches? r.modes [] rest
  | rest => some (r.openGroup r.modes, rest)

/-! ### Pieces -/

/-- Takes in an atom outside of classes. -/
def takeMatch (r : Reading) (matchable : Bool) (rest : List Char) : Option (Reading × List Char) :=
  if matchable then some ({ r with row := r.row.add 0, repeatable := true }, rest) else none

/-- Reads a piece outside of classes. -/
def outside? (r : Reading) : List Char → Option (Reading × List Char)
  | [] => none
  | c :: rest =>
    if c = '(' then r.group? (r.modes.skip rest)
    else if c = ')' then r.closeGroup?.map fun r => (r, rest)
    else if c = '|' then some ({ r with row := r.row.bar, repeatable := false }, rest)
    else if c = '[' then r.openClass rest
    else if c = '?' ∨ c = '*' ∨ c = '+' then
      if r.repeatable then
        some ({ r with row := r.row.repeated }, if rest.head? = some '?' then rest.tail else rest)
      else none
    else if c = '\x7b' then none
    else if c = '.' then r.takeMatch r.modes.characters rest
    else if c = '^' ∨ c = '$' then r.takeMatch true rest
    else (atom? r.modes (c :: rest)).bind fun (a, rest) => r.takeMatch (a.matchable r.modes) rest

/-- Reads the next piece. -/
def advance? (r : Reading) (cs : List Char) : Option (Reading × List Char) :=
  if r.classes.isEmpty then r.outside? cs else r.inClass? cs

/-- Whether the rest completes a pattern of at most so many pieces. -/
def completes : Nat → Reading → List Char → Bool
  | limit, r, cs =>
    match limit, r.modes.skip cs with
    | _, [] => r.isComplete
    | 0, _ => false
    | limit + 1, cs =>
      match r.advance? cs with
      | some (r, rest) => completes limit r rest
      | none => false

end Reading

/-- Whether a text is a pattern. Every piece has at least one character. -/
def isPattern (s : String) : Bool := Reading.completes s.length {} s.toList

end Switchboard.LogFilter.Pattern
