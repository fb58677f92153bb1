import Switchboard.Json.Path
import Switchboard.Record.Fault

/-!
# Reading values

A `Decoder α` reads a JSON value as an `α` or says why it is none. This module has the decoders of plain values, of
lists and maps, and of names out of a fixed set; records are read by shapes (`Switchboard.Record.Shape`).
-/

namespace Switchboard.Record

variable {α β : Type}

/-- A reader of one value. -/
abbrev Decoder (α : Type) := Json → Except Fault α

/-! ## Plain values -/

/-- A truth value. -/
def bool : Decoder Bool
  | .bool b => .ok b
  | v => .error (unexpected v "a boolean")

/-- A text. -/
def text : Decoder String
  | .str s => .ok s
  | v => .error (unexpected v "a string")

/-- The text of a path. -/
def path : Decoder String
  | .str s => .ok s
  | v => .error (unexpected v "path string")

/-- A natural number below `bound`. -/
def natural (bound : Nat) (name : String) : Decoder Nat
  | .num (.int i) =>
    if 0 ≤ i ∧ i.toNat < bound then .ok i.toNat else .error (.value (.number (.int i)) name)
  | v => .error (unexpected v name)

/-- A number of 64 bits. -/
def u64 : Decoder UInt64 := fun v => (natural UInt64.size "u64" v).map UInt64.ofNat

/-- A number of 32 bits. -/
def u32 : Decoder UInt32 := fun v => (natural UInt32.size "u32" v).map UInt32.ofNat

/-- Any value without unreadable parts. -/
def anything : Decoder Json := fun v => if v.readable then .ok v.settled else .error .unreadable

/-- An identifier. -/
def uuid : Decoder Uuid
  | .str s =>
    match Uuid.parse s with
    | .ok u => .ok u
    | .error cause => .error (.uuid cause)
  | v => .error (unexpected v "a formatted UUID string")

/-- A point in time. -/
def instant : Decoder Instant
  | .str s =>
    match Instant.parse s with
    | .ok t => .ok t
    | .error cause => .error (.instant cause)
  | v => .error (unexpected v "an RFC 3339 formatted date and time string")

/-! ## Options, lists and maps -/

/-- A value that may be null. -/
def nullable (decode : Decoder α) : Decoder (Option α)
  | .null => .ok none
  | v => (decode v).map some

/-- The items of a list, in order. -/
def decodeItems (decode : Decoder α) : List Json → Except Fault (List α)
  | [] => .ok []
  | v :: rest =>
    match decode v with
    | .error e => .error e
    | .ok a => (decodeItems decode rest).map (a :: ·)

/-- A list. -/
def list (decode : Decoder α) : Decoder (List α)
  | .arr items => decodeItems decode items
  | v => .error (unexpected v "a sequence")

/-- The entries of a map, in order, added to those before them. -/
def decodeEntries (decode : Decoder α) (before : KeyMap α) : List (String × Json) → Except Fault (KeyMap α)
  | [] => .ok before
  | (k, v) :: rest =>
    match decode v with
    | .error e => .error e
    | .ok a => decodeEntries decode (before.insert k a) rest

/-- A map from texts. -/
def map (decode : Decoder α) : Decoder (KeyMap α)
  | .obj members => decodeEntries decode .empty members
  | v => .error (unexpected v "a map")

/-! ## Names -/

/-- The value a name stands for. -/
def named (known : List (String × α)) (fallback : Option α) (name : String) : Except Fault α :=
  match KeyMap.find name known, fallback with
  | some a, _ => .ok a
  | none, some a => .ok a
  | none, none => .error (.variant name (known.map Prod.fst))

/-- A name out of a fixed set, also as the only key of an object with the value null. An unknown name stands for
`fallback`, if there is one. -/
def oneOf (known : List (String × α)) (fallback : Option α) : Decoder α
  | .str s => named known fallback s
  | .obj [(k, v)] =>
    match named known fallback k with
    | .error e => .error e
    | .ok a => if v.isNull then .ok a else .error (unexpected v "unit")
  | .obj _ => .error (.value .map "map with a single key")
  | v => .error (unexpected v "string or map")

end Switchboard.Record
