import Switchboard.Json.Basic

/-!
# Parts and paths

The parts of a value are the items of an array and the members of an object. A path names a part by the keys on the way
to it, separated by dots. `resolve` walks it through objects only; a null at the end counts as absent.
-/

namespace Switchboard.Json

/-! ## Parts -/

/-- The items of an array. -/
def items? : Json → Option (List Json)
  | .arr items => some items
  | _ => none

/-- The members of an object. -/
def members? : Json → Option (List (String × Json))
  | .obj members => some members
  | _ => none

/-- Whether the value is null. -/
def isNull : Json → Bool
  | .null => true
  | _ => false

/-- The member of an object under `key`; null if there is none, as for a value that is no object. -/
def field (key : String) : Json → Json
  | .obj members => (KeyMap.find key members).getD .null
  | _ => .null

/-- The member of an object under `key`, if present. -/
def field? (key : String) : Json → Option Json
  | .obj members => KeyMap.find key members
  | _ => none

/-! ## Paths -/

/-- The segments between the dots; a text without a dot is one segment. -/
def segmentsOf : List Char → List (List Char)
  | [] => [[]]
  | c :: rest =>
    match segmentsOf rest with
    | [] => [[c]]
    | s :: more => if c = '.' then [] :: s :: more else (c :: s) :: more

/-- The keys that a path names. -/
def segments (path : String) : List String := (segmentsOf path.toList).map String.ofList

/-- Follows keys through objects. -/
def walk (v : Json) : List String → Option Json
  | [] => some v
  | key :: rest =>
    match v.field? key with
    | some w => w.walk rest
    | none => none

/-- The part that a path names; absent if a key is missing on the way or the part is null. -/
def resolve (v : Json) (path : String) : Option Json :=
  match v.walk (segments path) with
  | some w => if w.isNull then none else some w
  | none => none

end Switchboard.Json
