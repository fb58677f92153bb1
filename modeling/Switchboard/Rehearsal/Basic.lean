import Switchboard.Backend.Script
import Switchboard.Catalog.Action
import Switchboard.Client.Step

/-!
# Rehearsals

A `Rehearsal` runs a client against a scripted backend, command by command. After each command all work is done that
is due, until nothing is left but operations whose calls the script holds back. The `Report` of a command says how it
went and what was seen meanwhile, operations of earlier commands that ended included.
-/

namespace Switchboard

open Backend (Call Reply Script Request)

namespace Rehearsal

/-- A command. -/
inductive Command where
  /-- Prepares the reply of a key of the script. -/
  | respond (key : String) (reply : Reply)
  | gate (key : String)
  | release (key : String)
  /-- Only does the work that is due. -/
  | settle
  /-- Starts an operation of the registry store. -/
  | registry (operation : Registry.Operation)
  /-- Changes what the registry page shows. -/
  | adjustRegistry (adjustment : Registry.Adjustment)
  /-- The registry store watches for changes once more. -/
  | watch
  /-- The last watch is given up. -/
  | unwatch
  /-- The registry store loses its owner. -/
  | dropRegistry
  | rows
  /-- The rows with the statuses that the connection store shows. -/
  | mergedRows
  /-- Starts an operation of the connection store. -/
  | connection (operation : Connection.Operation)
  | detach
  | collapse (server : String)
  | dismissConnectionError
  /-- The connection store loses its owner. -/
  | dropConnection
  /-- Registers a listener of its own on the current hub. -/
  | listen (name channel : String) (reading : Client.Reading) (actions : List Client.Action)
  | unsubscribe (name : String)
  | dispatch (event : Event) (background : Bool)
  /-- A new hub becomes the current one. -/
  | replaceHub
  | emit (events : List Event)
  | subscribe (name : String)
  | tryReceive (name : String)
  | receive (name : String)
  | dropReceiver (name : String)
  | pump (name : String)
  | abortPump (name : String)
  | closeBus
  | dropSender

/-- A row with its status, and its action without and with the status that the connection store shows. -/
structure MergedRow where
  id : String
  status : Status
  action : Catalog.Action
  reportedAction : Catalog.Action
  deriving DecidableEq, Repr

/-- How a command went. -/
inductive Answer where
  | nothing
  | flag (value : Bool)
  | count (value : Nat)
  | counts (values : List Nat)
  | outcome (outcome : Except Failure Unit)
  | event (event : Option Event)
  | subscription (subscription : Option Subscription)
  | rows (rows : List Catalog.Row)
  | merged (rows : List MergedRow)
  /-- The operation is still in flight. -/
  | pending
  /-- Someone waits for the receiver already. -/
  | busy
  /-- What the command is for is no longer there. -/
  | dropped

/-- What was seen since the report before. -/
structure Report where
  answer : Answer
  calls : List Call
  notes : List Note
  /-- What listeners of their own heard. -/
  heard : List (String × Json)
  /-- The operations of earlier commands that ended, by the number of the command. -/
  completed : List (Nat × Answer)

/-- An operation in flight: its ticket, the number of its command, and whether it answers with its outcome. -/
structure Awaited where
  ticket : Client.Ticket
  command : Nat
  withOutcome : Bool
  deriving DecidableEq, Repr

end Rehearsal

open Rehearsal in
/-- A client, a scripted backend, and what was seen since the last report. -/
structure Rehearsal where
  client : Client
  script : Script Client.Ticket := {}
  /-- Whether notes go unheard. -/
  silent : Bool := false
  /-- How many commands there were. -/
  commands : Nat := 0
  awaited : List Awaited := []
  calls : List Call := []
  notes : List Note := []
  heard : List (String × Json) := []
  completed : List (Nat × Answer) := []

end Switchboard
