import Switchboard.Connection.Store
import Switchboard.Registry.Store
import Switchboard.Hub
import Switchboard.Bus

/-!
# The client

A `Client` is the two stores, the hub their listeners are registered on, and the bus whose events pumps bring to the
hub. What has to happen before anything else stands on the agenda, what may wait stands in a queue, from which one
piece of work after the other has its turn. Work that has gone on for long enough is put off until the break after the
round of turns. Whatever concerns the world outside, first of all the calls to the backend, comes out as an `Effect`.

A store that its owner gave up lives on while operations of its own are in flight.
-/

namespace Switchboard.Client

open Backend (Call Reply)

/-! ## Listeners -/

/-- How a listener of its own reads a payload. -/
inductive Reading where
  | status
  | progress
  | features
  | changed
  | number
  | anything
  deriving DecidableEq, Repr

/-- The payload as it was understood, or why it was not. -/
def Reading.read : Reading → Json → Except Record.Fault Json
  | status, v => (StatusChanged.decode v).map StatusChanged.toJson
  | progress, v => (AuthProgress.decode v).map AuthProgress.toJson
  | features, v => (Features.decode v).map Features.toJson
  | changed, v => (ServerChanged.decode v).map ServerChanged.toJson
  | number, v => (Record.u64 v).map fun n => .int n.toNat
  | anything, v => Record.anything v

/-- What a listener may do when it hears an event. -/
inductive Action where
  /-- Removes the listener of a name. -/
  | unsubscribe (name : String)
  /-- Registers a listener under a name; one that had the name before is removed. -/
  | listen (name channel : String) (reading : Reading) (actions : List Action)
  | dispatch (event : Event)
  | attach (space : Uuid)
  | detach

/-- What is done with an event. -/
inductive Handler where
  /-- The connection store takes in a status. -/
  | status
  /-- The connection store takes in the time left to authenticate. -/
  | progress
  /-- The connection store takes in the features found. -/
  | features
  /-- The registry store refreshes the installed list. -/
  | changes
  /-- A listener of its own reports the payload, then acts. -/
  | script (name : String) (reading : Reading) (actions : List Action)

/-- A subscription, and the hub it is for. -/
structure Place where
  hub : Nat
  subscription : Subscription
  deriving DecidableEq, Repr

/-! ## Work -/

/-- An operation in flight: one of a store, or someone who waits for an event of the bus. -/
inductive Ticket where
  | connection (id : Nat)
  | registry (id : Nat)
  | receive (id : Nat)
  deriving DecidableEq, Repr

/-- The circumstances in which an event is heard. -/
structure Scene where
  /-- The hub that passes the event on; what a listener then does with hubs, it does with this one. -/
  hub : Nat
  /-- Whether work can be left for later. -/
  background : Bool
  deriving DecidableEq, Repr

/-- What is due. -/
inductive Work where
  /-- A listener hears an event. -/
  | hear (handler : Handler) (payload : Json) (scene : Scene)
  | act (action : Action) (scene : Scene)
  /-- A reply came. -/
  | answer (ticket : Ticket) (reply : Reply)
  /-- The installed list is fetched anew. -/
  | refresh
  /-- A pump looks for the next event of its receiver, and for up to `left - 1` more. -/
  | pump (receiver left : Nat)
  /-- Whoever waits for a receiver first looks for its next event. -/
  | receive (receiver : Nat)

/-- How an operation ended. -/
inductive Result where
  | outcome (outcome : Except Failure Unit)
  /-- An event, or none if there will be no more. -/
  | event (event : Option Event)

/-- What the world outside gets to know. -/
inductive Effect where
  | call (ticket : Ticket) (call : Call)
  | note (note : Note)
  /-- A listener of its own heard an event. -/
  | heard (name : String) (payload : Json)
  | finished (ticket : Ticket) (result : Result)

/-! ## The client -/

/-- A pump: it brings the events of a receiver to a hub. -/
structure Pump where
  receiver : Nat
  hub : Nat
  deriving DecidableEq, Repr

end Client

open Client in
/-- Stores, hubs and bus, and the work that is due. -/
structure Client where
  /-- The hubs; the last one is the current one. -/
  hubs : List (Hub Handler) := [{}]
  connection : Connection.Store := { state := {} }
  /-- Whether the connection store still has an owner. -/
  connectionOwned : Bool := true
  /-- The subscriptions of the connection store, all on the first hub. -/
  subscriptions : List Subscription := []
  registry : Registry.Store := { state := {} }
  /-- Whether the registry store still has an owner. -/
  registryOwned : Bool := true
  /-- The subscriptions by which the registry store watches for changes, the oldest first. -/
  watches : List Place := []
  /-- The listeners of their own, by name. -/
  listeners : KeyMap Place := .empty
  bus : Bus
  /-- Whether the bus still has an owner. -/
  busOwned : Bool := true
  /-- Whether there is still someone who can emit events. -/
  senderOwned : Bool := true
  /-- The receivers that have a name. -/
  inboxes : KeyMap Nat := .empty
  /-- Who waits for a receiver's next event, in order: the number of the wait, and the receiver. -/
  waits : List (Nat × Nat) := []
  /-- How many waits there were. -/
  waitsStarted : Nat := 0
  /-- Work that goes on when the bus has something new. -/
  asleep : List Work := []
  /-- The pumps that run. -/
  pumps : List Pump := []
  /-- The receivers of the pumps that can be stopped, by name. A pump that loses its name goes on. -/
  pumpNames : KeyMap Nat := .empty
  /-- The work of the current turn. -/
  agenda : List Work := []
  /-- The work that waits for its turn. -/
  queue : List Work := []
  /-- How many turns there were in this round. -/
  turns : Nat := 0
  /-- The work that waits for the next break; what was put off last goes on first. -/
  putOff : List Work := []

end Switchboard
