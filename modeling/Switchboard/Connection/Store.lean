import Switchboard.Connection.State
import Switchboard.Turn

/-!
# Operations on connections

Binding to a space asks for the snapshot of its statuses; the reply counts only if no other binding came in between.
A request asks the backend for something and waits for the acknowledgement; what comes of it arrives as events, so a
request changes nothing but which requests are under way.
-/

namespace Switchboard.Connection

open Backend (Call Reply Request)

/-- An operation. -/
inductive Operation where
  | attach (space : Uuid)
  | request (request : Request) (server : String)
  deriving DecidableEq, Repr

/-- What a waiting operation still has to do. -/
inductive Task where
  /-- Takes in the snapshot that a binding asked for. -/
  | snapshot (space : Uuid) (binding : Nat)
  /-- Reports how a request went. -/
  | request (request : Request) (space : Uuid) (server : String)
  deriving DecidableEq, Repr

/-- A change apart from any operation. -/
inductive Adjustment where
  | unbind
  | status (event : StatusChanged)
  | progress (event : AuthProgress)
  | features (event : Features)
  | collapse (server : String)
  | dismissError
  deriving DecidableEq, Repr

/-- The call whose reply a task waits for. -/
def Task.call : Task → Call
  | snapshot space _ => .statuses space
  | request r space server => .connection r space server

/-- The connections of a space with the operations in flight. -/
abbrev Store := Flight State Task

namespace State

/-- The first turn of an operation. -/
def start (s : State) : Operation → Turn State Task
  | .attach space => ⟨s.bind space, .waits (.snapshot space (s.binding + 1)), []⟩
  | .request r server =>
    match s.space with
    | none => ⟨s, .ends (.error .notAttached), []⟩
    | some space => ⟨{ s with pending := s.pending.add server }, .waits (.request r space server), []⟩

/-- Takes in the reply to the snapshot of a binding. -/
def finishAttach (s : State) (space : Uuid) (binding : Nat) (reply : Reply) : State :=
  if s.binding = binding then
    match reply.statuses space with
    | .ok records => { s with loading := false }.applySnapshot records
    | .error r => { s with loading := false, error := some ("Failed to load server statuses: " ++ r.message) }
  else s

/-- The request of a server is no longer under way, if `space` is still bound. -/
def acknowledged (s : State) (space : Uuid) (server : String) : State :=
  if s.isBoundTo space then { s with pending := s.pending.erase server } else s

/-- The turn of an operation whose reply came. -/
def resume (s : State) (reply : Reply) : Task → Turn State Task
  | .snapshot space binding => ⟨s.finishAttach space binding reply, .ends (.ok ()), []⟩
  | .request r space server =>
    let s := s.acknowledged space server
    match reply.acknowledge r.command with
    | .ok () => ⟨s, .ends (.ok ()), []⟩
    | .error e =>
      ⟨s, .ends (.error (.rejected r.command e)),
        [.error ("Failed to " ++ r.verb ++ " " ++ server ++ ": " ++ e.message)]⟩

/-- Makes a change apart from any operation. -/
def adjust (s : State) : Adjustment → State
  | .unbind => s.unbind
  | .status e => s.acceptStatus e
  | .progress e => s.acceptProgress e
  | .features e => s.acceptFeatures e
  | .collapse server => s.collapse server
  | .dismissError => s.dismissError

end State

/-- How connections work. -/
def behaviour : Behaviour State Task Operation Reply Adjustment := ⟨State.start, State.resume, State.adjust⟩

end Switchboard.Connection
