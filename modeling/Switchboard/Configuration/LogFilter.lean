import Switchboard.Configuration.LogFilter.Value

/-!
# Log filters

A log filter is a list of directives, separated by commas. A directive gives the level of messages that are let
through, for all messages or for those of a target, of a span, or of spans with certain fields, of which a value can be
asked. Of two directives for the same messages the later one counts.
-/

namespace Switchboard.LogFilter

/-- A level of messages, or of silence. -/
inductive Level where
  | off
  | error
  | warn
  | info
  | debug
  | trace
  deriving DecidableEq, Repr

namespace Level

def name : Level → String
  | off => "off"
  | error => "error"
  | warn => "warn"
  | info => "info"
  | debug => "debug"
  | trace => "trace"

/-- Every level, from silence on; also by number. -/
def all : List Level := [off, error, warn, info, debug, trace]

/-- The ASCII letters of a text in lower case. -/
def lowerAscii (s : String) : String := String.ofList (s.toList.map Char.toLower)

/-- The level of a name or a number. -/
def parse? (s : String) : Option Level :=
  match Text.natural? UInt64.size s with
  | some n => all[n]?
  | none => if s.isEmpty then some error else all.find? fun l => l.name == lowerAscii s

end Level

/-- A field of a span. -/
structure Field where
  name : String
  /-- The value asked of it. -/
  value : Option Value := none
  deriving DecidableEq, Repr

namespace Field

/-- The field of a text: its name up to the first equals sign, and its value from there up to the next one. -/
def parse? (cs : List Char) : Option Field :=
  let name := String.ofList (cs.takeWhile (· != '='))
  match cs.dropWhile (· != '=') with
  | [] => some ⟨name, none⟩
  | _ :: rest => (Value.parse? (String.ofList (rest.takeWhile (· != '=')))).map fun v => ⟨name, some v⟩

/-- The text of a field. -/
def text (f : Field) : String :=
  match f.value with
  | some v => f.name ++ "=" ++ v.text
  | none => f.name

/-- Whether two fields are the same. -/
def same (a b : Field) : Bool :=
  a.name == b.name && match a.value, b.value with
    | some v, some w => v.same w
    | none, none => true
    | _, _ => false

end Field

/-- A directive. -/
structure Directive where
  target : Option String := none
  span : Option String := none
  fields : List Field := []
  level : Level := .trace
  deriving DecidableEq, Repr

namespace Directive

/-! ## Reading -/

/-- What is read, and where in the text it starts. -/
inductive Stage where
  | start
  | levelOrTarget (start : Nat)
  | span (start : Nat)
  | field (start : Nat)
  | fields
  | spanEnd
  | level (start : Nat)
  deriving DecidableEq, Repr

/-- How many bytes a text has. -/
def size (text : List Char) : Nat := (String.ofList text).utf8ByteSize

/-- The characters that start at the bytes from `start` up to `stop`, if the first one starts at `place`. -/
def between (start stop place : Nat) : List Char → List Char
  | [] => []
  | c :: rest =>
    let others := between start stop (place + c.utf8Size) rest
    if start ≤ place ∧ place < stop then c :: others else others

/-- A part of a text, by its bytes. -/
def part (text : List Char) (start stop : Nat) : String := String.ofList (between start stop 0 text)

/-- Adds a field, which may not be empty. -/
def addField (d : Directive) (field : String) : Option Directive :=
  if field.isEmpty then none else (Field.parse? field.toList).map fun f => { d with fields := d.fields ++ [f] }

/-- Whether a directive may start with a character. -/
def mayStart (c : Char) : Bool :=
  c == '-' || c == ':' || c == '_' || Text.inRuns Text.alphanumericRuns c.toNat

/-- Takes in the character that starts at a byte. -/
def advance (text : List Char) (i : Nat) (c : Char) (d : Directive) : Stage → Option (Stage × Directive)
  | .start => if c = '[' then some (.span (i + 1), d) else if mayStart c then some (.levelOrTarget i, d) else none
  | .levelOrTarget start =>
    some (if c = '=' then (.level (i + 1), { d with target := some (part text start i) })
      else if c = '[' then (.span (i + 1), { d with target := some (part text start i) })
      else (.levelOrTarget start, d))
  | .span start =>
    some (if c = ']' then (.spanEnd, { d with span := some (part text start i) })
      else if c = '\x7b' then
        let name := part text start i
        (.field (i + 1), { d with span := if name.isEmpty then none else some name })
      else (.span start, d))
  | .field start =>
    if c = '\x7d' then (d.addField (part text start i)).map (.fields, ·) else some (.field start, d)
  | .fields => if c = ']' then some (.spanEnd, d) else none
  | .spanEnd => if c = '=' then some (.level (i + 1), d) else none
  | .level start => some (.level start, d)

/-- Ends a directive. A target alone lets everything through. -/
def conclude (text : List Char) (d : Directive) : Stage → Option Directive
  | .levelOrTarget start =>
    let rest := part text start (size text)
    match Level.parse? rest with
    | some l => some { d with level := l, target := none }
    | none => some { d with level := .trace, target := some rest }
  | .level start =>
    let rest := part text start (size text)
    if rest.isEmpty then some { d with level := .trace }
    else (Level.parse? rest).map fun l => { d with level := l }
  | .spanEnd => some d
  | _ => none

/-- Reads the characters from byte `i` on. -/
def run (text : List Char) (i : Nat) (d : Directive) (stage : Stage) : List Char → Option Directive
  | [] => conclude text d stage
  | c :: rest =>
    match advance text i c d stage with
    | none => none
    | some (stage, d) => run text (i + c.utf8Size) d stage rest

/-- Reads a directive. Blanks at its ends are not looked at; yet the parts are cut out of the text with these blanks, so
that blanks in front move every part. -/
def parse? (text : List Char) : Option Directive := run text 0 {} .start (Text.trimEnd (Text.trimStart text))

/-! ## Writing -/

/-- A directive as text. -/
def render (d : Directive) : String :=
  let fields :=
    if d.fields.isEmpty then "" else "\x7b" ++ String.intercalate "," (d.fields.map Field.text) ++ "\x7d"
  let span := if d.span.isSome || !d.fields.isEmpty then "[" ++ d.span.getD "" ++ fields ++ "]" else ""
  let scope := d.target.getD "" ++ span
  (if d.target.isSome || !span.isEmpty then scope ++ "=" else "") ++ d.level.name

/-- Whether two lists of fields are the same, one by one. -/
def sameFields : List Field → List Field → Bool
  | [], [] => true
  | a :: as, b :: bs => a.same b && sameFields as bs
  | _, _ => false

/-- Whether two directives are about the same messages. -/
def sameScope (a b : Directive) : Bool := a.target == b.target && a.span == b.span && sameFields a.fields b.fields

/-! ## Tables -/

/-- Whether a directive is about spans. -/
def isDynamic (d : Directive) : Bool := d.span.isSome || !d.fields.isEmpty

/-- The directive for messages outside spans, if it is about such. -/
def static? (d : Directive) : Option Directive :=
  if d.span.isSome || d.fields.any fun f => f.value.isSome then none else some d

/-- The directives, of which the later ones replace those before them with the same scope. -/
def latest : List Directive → List Directive
  | [] => []
  | d :: rest => if rest.any d.sameScope then latest rest else d :: latest rest

end Directive

/-! ## Filters -/

/-- Cuts a text at the commas. -/
def pieces : List Char → List (List Char)
  | [] => [[]]
  | c :: rest =>
    match pieces rest with
    | [] => [[c]]
    | p :: more => if c = ',' then [] :: p :: more else (c :: p) :: more

/-- The directives of a filter, if all of them make sense. -/
def parse? (filter : String) : Option (List Directive) :=
  ((pieces filter.toList).filter fun p => !p.isEmpty).mapM Directive.parse?

/-- The directives in force, as texts in order; if there are none, the empty text stands for them. -/
def inForce (directives : List Directive) : List String :=
  let statics := Directive.latest (directives.filterMap Directive.static?)
  let dynamics := Directive.latest (directives.filter Directive.isDynamic)
  match statics ++ dynamics with
  | [] => [""]
  | all => (all.map Directive.render).mergeSort fun a b => a ≤ b

/-- The filter to use: the first of these texts that makes sense. -/
def choose (override : Option String) (configured default : String) : List Directive :=
  ((override.bind parse?).orElse fun _ => (parse? configured).orElse fun _ => parse? default).getD []

end Switchboard.LogFilter
