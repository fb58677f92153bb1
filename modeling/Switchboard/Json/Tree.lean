import Switchboard.Json.Token

/-!
# JSON trees from tokens

`ofTokens?` builds the tree of a token list with a stack of the arrays and objects that are still open. Containers
nested deeper than `depthLimit` and objects with a key that is no text are unreadable.

`read?` is the tree of a text; `value?` the value of a text every part of which is readable.
-/

namespace Switchboard.Json

/-- How many containers may be open at once. -/
def depthLimit : Nat := 127

/-- A container that is still open: what it holds so far, last first. -/
inductive Frame where
  | items (done : List Json)
  | members (done : List (Option String × Json)) (key : Option String)

/-- What may come next. -/
inductive Stage where
  /-- A value. -/
  | value (under : List Frame)
  /-- The first item of an array, or its end. -/
  | firstItem (under : List Frame)
  /-- The first key of an object, or its end. -/
  | firstKey (under : List Frame)
  /-- A further key. -/
  | key (under : List Frame) (done : List (Option String × Json))
  /-- The colon after a key. -/
  | colon (under : List Frame) (done : List (Option String × Json)) (key : Option String)
  /-- The end of the container, or a comma, or the end of the text. -/
  | complete (under : List Frame) (value : Json)

namespace Stage

/-- A token that starts a value. -/
def start (under : List Frame) : Token → Option Stage
  | .openArr => some (.firstItem under)
  | .openObj => some (.firstKey under)
  | .text (some s) => some (.complete under (.str s))
  | .text none => some (.complete under .unreadable)
  | .scalar v => some (.complete under v)
  | _ => none

/-- A container is complete. -/
def finish (under : List Frame) (v : Json) : Stage :=
  .complete under (if under.length < depthLimit then v else .unreadable)

/-- The object of these members, if all keys are texts. -/
def object (members : List (Option String × Json)) : Json :=
  match members.mapM fun m => m.1.map fun k => (k, m.2) with
  | some members => .obj members
  | none => .unreadable

/-- One more token. -/
def advance : Stage → Token → Option Stage
  | .value under, t => start under t
  | .firstItem under, .closeArr => some (finish under (.arr []))
  | .firstItem under, t => start (.items [] :: under) t
  | .firstKey under, .closeObj => some (finish under (.obj []))
  | .firstKey under, .text k => some (.colon under [] k)
  | .key under done, .text k => some (.colon under done k)
  | .colon under done k, .colon => some (.value (.members done k :: under))
  | .complete (.items done :: under) v, .comma => some (.value (.items (v :: done) :: under))
  | .complete (.items done :: under) v, .closeArr => some (finish under (.arr (v :: done).reverse))
  | .complete (.members done k :: under) v, .comma => some (.key under ((k, v) :: done))
  | .complete (.members done k :: under) v, .closeObj => some (finish under (object ((k, v) :: done).reverse))
  | _, _ => none

/-- The stage after a list of tokens. -/
def run (s : Stage) : List Token → Option Stage
  | [] => some s
  | t :: rest =>
    match s.advance t with
    | some s => s.run rest
    | none => none

end Stage

/-- The tree of a token list. -/
def ofTokens? (ts : List Token) : Option Json :=
  match (Stage.value []).run ts with
  | some (.complete [] v) => some v
  | _ => none

/-- The tree of a text. -/
def read? (s : String) : Option Json :=
  match Token.ofText? s with
  | some ts => ofTokens? ts
  | none => none

/-- The value of a text, if every part of it is readable. -/
def value? (s : String) : Option Json :=
  match read? s with
  | some v => if v.readable then some v.settled else none
  | none => none

end Switchboard.Json
