import Switchboard.Record.Decoder

/-!
# Shapes of records

A `Shape α` lists the fields of a record, in the order of their declaration, and says how the record is built from
them. It reads an object, in which unknown members are passed over, and an array of the fields' values in order, which
may be shorter if the missing fields have defaults.

`tagged` reads one of several shapes, chosen by the member `type` or by the first item. Such a value is taken in as a
whole before it is read, so it must be readable in every part, and a record inside it says otherwise what is wrong with
items in excess.

A fault in a member that is present goes before the absence of another, and of two such faults the earlier member's
counts.
-/

namespace Switchboard.Record

variable {α β : Type}

/-- A field: its name, and whether a value fits. -/
structure Field where
  name : String
  check : Json → Except Fault Unit

/-- How a record is read. -/
structure Shape (α : Type) where
  /-- The fields, as declared. -/
  fields : List Field
  /-- The record, from the members that are present and the fault of a field's absence. -/
  build : (String → Option Json) → (String → Fault) → Except Fault α

namespace Shape

/-! ## Building shapes -/

/-- The fault of a value that does not fit. -/
def checkOf (decode : Decoder α) (v : Json) : Except Fault Unit :=
  match decode v with
  | .ok _ => .ok ()
  | .error e => .error e

/-- A field that must be present. -/
def required (name : String) (decode : Decoder α) : Shape α where
  fields := [⟨name, checkOf decode⟩]
  build get absent :=
    match get name with
    | some v => decode v
    | none => .error (absent name)

/-- A field with a value for its absence. -/
def defaulted (name : String) (decode : Decoder α) (value : α) : Shape α where
  fields := [⟨name, checkOf decode⟩]
  build get _ :=
    match get name with
    | some v => decode v
    | none => .ok value

/-- A field that may be null or absent. -/
def optional (name : String) (decode : Decoder α) : Shape (Option α) := defaulted name (nullable decode) none

/-- A record without fields. -/
def constant (a : α) : Shape α where
  fields := []
  build _ _ := .ok a

/-- One more field. -/
def apply (f : Shape (α → β)) (x : Shape α) : Shape β where
  fields := f.fields ++ x.fields
  build get absent :=
    match f.build get absent with
    | .error e => .error e
    | .ok g =>
      match x.build get absent with
      | .error e => .error e
      | .ok a => .ok (g a)

instance : Functor Shape where
  map f x := apply (constant f) x

instance : Seq Shape where
  seq f x := apply f (x ())

/-! ## Reading -/

/-- The first fault among members that belong to a field, after those already seen. -/
def checkMembers (fields : List Field) (seen : List String) : List (String × Json) → Except Fault Unit
  | [] => .ok ()
  | (k, v) :: rest =>
    match fields.find? fun f => f.name == k with
    | none => checkMembers fields seen rest
    | some f =>
      if seen.contains k then .error (.repeated k)
      else match f.check v with
      | .error e => .error e
      | .ok () => checkMembers fields (k :: seen) rest

/-- The record of these members. -/
def ofMembers (s : Shape α) (absent : String → Fault) (members : List (String × Json)) : Except Fault α :=
  match checkMembers s.fields [] members with
  | .error e => .error e
  | .ok () => s.build (fun name => KeyMap.find name members) absent

/-- The names of the fields. -/
def names (s : Shape α) : List String := s.fields.map Field.name

/-- A count of elements. -/
def elements (n : Nat) : String := if n = 1 then "1 element" else toString n ++ " elements"

/-- The record of these items; `label` names its kind. -/
def ofItems (s : Shape α) (label : String) (surplus : Fault) (items : List Json) : Except Fault α :=
  let names := s.names
  let absent name := Fault.length (names.idxOf name) (label ++ " with " ++ elements names.length)
  match s.ofMembers absent (names.zip items) with
  | .error e => .error e
  | .ok a => if names.length < items.length then .error surplus else .ok a

/-- Reads a record; `name` is what it is called in faults. -/
def decode (s : Shape α) (name : String) : Decoder α
  | .obj members => s.ofMembers .missing members
  | .arr items => s.ofItems ("struct " ++ name) (.length items.length "fewer elements in array") items
  | v => .error (unexpected v ("struct " ++ name))

/-- The fault of so many items in a value that was taken in as a whole. -/
def surplusWithin (s : Shape α) (items : List Json) : Fault :=
  .length items.length (elements s.fields.length ++ " in sequence")

/-- Reads a record out of a value that was taken in as a whole. -/
def decodeWithin (s : Shape α) (name : String) : Decoder α
  | .arr items => s.ofItems ("struct " ++ name) (s.surplusWithin items) items
  | v => s.decode name v

end Shape

/-! ## Alternatives -/

/-- One of several kinds of record: its tag, what it is called in faults, and its fields. -/
structure Variant (α : Type) where
  tag : String
  label : String
  shape : Shape α

/-- The variant that a tag names. -/
def variantOf (variants : List (Variant α)) : Json → Except Fault (Variant α)
  | .str s =>
    match variants.find? fun v => v.tag == s with
    | some v => .ok v
    | none => .error (.variant s (variants.map Variant.tag))
  | v => .error (unexpected v "variant identifier")

/-- The member that holds the tag. -/
def tagKey : String := "type"

/-- The variant that the members name, if any so far, and the other members (last first). -/
def splitTag (variants : List (Variant α)) (found : Option (Variant α)) (others : List (String × Json)) :
    List (String × Json) → Except Fault (Option (Variant α) × List (String × Json))
  | [] => .ok (found, others.reverse)
  | (k, v) :: rest =>
    if k = tagKey then
      if found.isSome then .error (.repeated tagKey)
      else match variantOf variants v with
      | .error e => .error e
      | .ok found => splitTag variants (some found) others rest
    else if v.readable then splitTag variants found ((k, v) :: others) rest
    else .error .unreadable

/-- Reads one of several kinds of record; `name` is what they are called together in faults. -/
def tagged (name : String) (variants : List (Variant α)) : Decoder α
  | .obj members =>
    match splitTag variants none [] members with
    | .error e => .error e
    | .ok (none, _) => .error (.missing tagKey)
    | .ok (some v, others) => v.shape.ofMembers .missing others
  | .arr [] => .error (.missing tagKey)
  | .arr (tag :: items) =>
    match variantOf variants tag with
    | .error e => .error e
    | .ok v =>
      if Json.readableItems items then v.shape.ofItems v.label (v.shape.surplusWithin items) items
      else .error .unreadable
  | v => .error (unexpected v ("internally tagged enum " ++ name))

end Switchboard.Record
