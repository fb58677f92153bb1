import Switchboard.Backend.Reply

/-!
# A scripted backend

A `Script` stands in for the backend. It has a prepared reply for each key, and gates that hold calls back. The keys
of a call are its command with the space it is about, if any, and its command alone; the first key that has a reply,
or a gate, counts. The reply is fixed when the call arrives, even if the call is then held; a gate holds one call.
-/

namespace Switchboard.Backend

/-- The prepared replies, and the calls held back. -/
structure Script (Caller : Type) where
  replies : KeyMap Reply := .empty
  /-- How many calls each key still holds back. -/
  gates : KeyMap Nat := .empty
  /-- The calls that are held, the oldest first: the key, who called, and the reply. -/
  held : List (String × Caller × Reply) := []

namespace Script

variable {Caller : Type}

/-- The key of a command, in one space or in all. -/
def key (command : String) (space : Option String) : String :=
  match space with
  | some s => command ++ "|" ++ s
  | none => command

/-- The keys of a call, the more special one first. -/
def keys (call : Call) : List String :=
  (call.space?.map fun s => key call.command (some s.text)).toList ++ [key call.command none]

/-- The reply to a call. -/
def reply (s : Script Caller) (call : Call) : Reply :=
  ((keys call).findSome? s.replies.get?).getD (.ok .null)

/-- The key whose gate holds a call, if any. -/
def gate? (s : Script Caller) (call : Call) : Option String :=
  (keys call).find? fun k => 0 < (s.gates.get? k).getD 0

/-- Sets the reply of a key. -/
def respond (s : Script Caller) (key : String) (reply : Reply) : Script Caller :=
  { s with replies := s.replies.insert key reply }

/-- Adds a gate to a key. -/
def addGate (s : Script Caller) (key : String) : Script Caller :=
  { s with gates := s.gates.insert key ((s.gates.get? key).getD 0 + 1) }

/-- A call arrives: it is held, or it is answered. -/
def arrive (s : Script Caller) (caller : Caller) (call : Call) : Script Caller × Option Reply :=
  match s.gate? call with
  | some k =>
    ({ s with
        gates := s.gates.insert k ((s.gates.get? k).getD 0 - 1)
        held := s.held ++ [(k, caller, s.reply call)] }, none)
  | none => (s, some (s.reply call))

/-- Lets the oldest call go that a key holds. -/
def release (s : Script Caller) (key : String) : Option (Script Caller × Caller × Reply) :=
  match s.held.find? fun h => h.1 == key with
  | none => none
  | some (_, caller, reply) => some ({ s with held := s.held.eraseP fun h => h.1 == key }, caller, reply)

end Script

end Switchboard.Backend
