import Switchboard.KeyMap
import Switchboard.Number.Double

/-!
# JSON values

`Json` is the tree of a JSON text. Integers and floating-point numbers are different values. An object keeps its
members in the order of the text, repeated keys included; `settled` is the value such a tree stands for, in which the
last of several members under one key counts. The leaf `unreadable` stands for a part of a text that is well formed
and yet has no value: it may be passed over, but nothing can be read from it.

`same` is equality of values: it ignores the order of members and tells `1` from `1.0`.
-/

namespace Switchboard

/-- A number of a JSON text: an integer of at most 64 bits, or a floating-point number. -/
inductive Number where
  | int (value : Int)
  | double (value : Double)
  deriving DecidableEq, Repr

/-- Equality of numbers of one kind; an integer never equals a floating-point number. -/
def Number.same : Number → Number → Bool
  | .int a, .int b => a == b
  | .double a, .double b => a.same b
  | _, _ => false

/-- The value as a floating-point number. -/
def Number.toDouble : Number → Double
  | .int a => Double.ofInt a
  | .double a => a

/-- A JSON tree. -/
inductive Json where
  | null
  | bool (value : Bool)
  | num (value : Number)
  | str (value : String)
  | arr (items : List Json)
  | obj (members : List (String × Json))
  /-- Well formed, but without a value. -/
  | unreadable
  deriving Repr

namespace Json

instance : Inhabited Json := ⟨null⟩

/-- An integer as a JSON value. -/
def int (i : Int) : Json := .num (.int i)

/-- What is written of a value, or null if there is none. -/
def optional {α : Type} (write : α → Json) : Option α → Json
  | some a => write a
  | none => .null

/-- A map of texts as an object. -/
def ofTexts (m : KeyMap String) : Json := .obj (m.map Json.str).entries

/-- A list of texts as an array. -/
def ofTextList (l : List String) : Json := .arr (l.map .str)

/-! ## Readability -/

mutual

/-- Whether every part of the tree has a value. -/
def readable : Json → Bool
  | .unreadable => false
  | .arr items => readableItems items
  | .obj members => readableMembers members
  | _ => true

/-- Whether every item is readable. -/
def readableItems : List Json → Bool
  | [] => true
  | v :: rest => v.readable && readableItems rest

/-- Whether every member is readable. -/
def readableMembers : List (String × Json) → Bool
  | [] => true
  | (_, v) :: rest => v.readable && readableMembers rest

end

/-! ## Repeated keys -/

/-- Sets the member under `key`: in place if there is one, at the end otherwise. -/
def assign (key : String) (v : Json) : List (String × Json) → List (String × Json)
  | [] => [(key, v)]
  | (k, w) :: rest => if k = key then (k, v) :: rest else (k, w) :: assign key v rest

mutual

/-- The value of a tree: of several members under one key, the last counts. -/
def settled : Json → Json
  | .arr items => .arr (settledItems items)
  | .obj members => .obj (settledMembers [] members)
  | v => v

/-- The values of the items. -/
def settledItems : List Json → List Json
  | [] => []
  | v :: rest => v.settled :: settledItems rest

/-- The values of the members, after those already taken in. -/
def settledMembers (done : List (String × Json)) : List (String × Json) → List (String × Json)
  | [] => done
  | (k, v) :: rest => settledMembers (assign k v.settled done) rest

end

/-! ## Equality -/

mutual

/-- Equality of values. -/
def same : Json → Json → Bool
  | .null, .null => true
  | .bool a, .bool b => a == b
  | .num a, .num b => a.same b
  | .str a, .str b => a == b
  | .arr a, .arr b => sameItems a b
  | .obj a, .obj b => a.length == b.length && sameMembers a b
  | _, _ => false

/-- Item by item. -/
def sameItems : List Json → List Json → Bool
  | [], [] => true
  | a :: as, b :: bs => a.same b && sameItems as bs
  | _, _ => false

/-- Whether every member of the first object is found in the second. -/
def sameMembers : List (String × Json) → List (String × Json) → Bool
  | [], _ => true
  | (k, v) :: rest, other =>
    (match KeyMap.find k other with
      | some w => v.same w
      | none => false) && sameMembers rest other

end

end Json

end Switchboard
