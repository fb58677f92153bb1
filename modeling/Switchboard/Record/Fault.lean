import Switchboard.Json.Text
import Switchboard.Text.Literal
import Switchboard.Uuid
import Switchboard.Instant

/-!
# Why a value is no record

A `Fault` is the cause for which a JSON value could not be read as a record: the kind of value, a bound, a length, an
unknown name, a field that is absent or given twice, or a text of a special form. `Fault.message` is its wording.
-/

namespace Switchboard.Record

/-- What stood where something else was expected. -/
inductive Found where
  | null
  | bool (value : Bool)
  | number (value : Number)
  | text (value : String)
  | sequence
  | map
  deriving DecidableEq, Repr

/-- Why a value could not be read. -/
inductive Fault where
  /-- A value of the wrong kind. -/
  | kind (found : Found) (expected : String)
  /-- A value of the right kind out of bounds. -/
  | value (found : Found) (expected : String)
  /-- A sequence of the wrong length. -/
  | length (found : Nat) (expected : String)
  /-- A name that is none of the known ones. -/
  | variant (name : String) (known : List String)
  /-- A required field is absent. -/
  | missing (field : String)
  /-- A field is given twice. -/
  | repeated (field : String)
  | uuid (cause : Uuid.Malformed)
  | instant (cause : Instant.Malformed)
  /-- A part of a text that has no value. -/
  | unreadable
  deriving DecidableEq, Repr

/-! ## Wording -/

/-- A number without a fraction is called an integer. -/
def Found.describe : Found → String
  | .null => "null"
  | .bool true => "boolean `true`"
  | .bool false => "boolean `false`"
  | .number (.int i) => "integer `" ++ String.ofList (Json.intText i) ++ "`"
  | .number (.double d) => "floating point `" ++ d.text ++ "`"
  | .text s => "string " ++ Text.quote s
  | .sequence => "sequence"
  | .map => "map"

/-- A name between back quotes. -/
def tick (name : String) : String := "`" ++ name ++ "`"

/-- The known names, as alternatives. -/
def alternatives : List String → String
  | [] => "there are no variants"
  | [a] => "expected " ++ tick a
  | [a, b] => "expected " ++ tick a ++ " or " ++ tick b
  | names => "expected one of " ++ String.intercalate ", " (names.map tick)

/-- The text of a fault. -/
def Fault.message : Fault → String
  | .kind found expected => "invalid type: " ++ found.describe ++ ", expected " ++ expected
  | .value found expected => "invalid value: " ++ found.describe ++ ", expected " ++ expected
  | .length n expected => "invalid length " ++ toString n ++ ", expected " ++ expected
  | .variant name known => "unknown variant " ++ tick name ++ ", " ++ alternatives known
  | .missing field => "missing field " ++ tick field
  | .repeated field => "duplicate field " ++ tick field
  | .uuid cause => "UUID parsing failed: " ++ cause.message
  | .instant cause => cause.message
  | .unreadable => "unreadable value"

/-- The fault of finding `v` where something else was expected. -/
def unexpected (v : Json) (expected : String) : Fault :=
  match v with
  | .null => .kind .null expected
  | .bool b => .kind (.bool b) expected
  | .num n => .kind (.number n) expected
  | .str s => .kind (.text s) expected
  | .arr _ => .kind .sequence expected
  | .obj _ => .kind .map expected
  | .unreadable => .unreadable

end Switchboard.Record
