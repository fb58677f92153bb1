import Switchboard.Rehearsal.Basic

/-!
# Running a rehearsal

`run` takes a command and reports. A call of the client reaches the script at once, and its reply, unless it is held
back, the operation that waits for it before any other work is done.
-/

namespace Switchboard.Rehearsal

open Backend (Call Reply Script)

/-! ## Effects -/

/-- How the command of an operation went, by the operation's result. -/
def Answer.ofResult (withOutcome : Bool) : Client.Result → Answer
  | .outcome o => if withOutcome then .outcome o else .nothing
  | .event e => .event e

/-- Takes in an effect of the client. -/
def absorb (r : Rehearsal) : Client.Effect → Rehearsal
  | .call ticket call =>
    let (script, reply) := r.script.arrive ticket call
    let client := match reply with
      | some reply => r.client.first [.answer ticket reply]
      | none => r.client
    { r with script := script, client := client, calls := r.calls ++ [call] }
  | .note note => if r.silent then r else { r with notes := r.notes ++ [note] }
  | .heard name payload => { r with heard := r.heard ++ [(name, payload)] }
  | .finished ticket result =>
    match r.awaited.find? fun o => o.ticket == ticket with
    | none => r
    | some o =>
      { r with
        awaited := r.awaited.filter fun o => o.ticket != ticket
        completed := r.completed ++ [(o.command, .ofResult o.withOutcome result)] }

/-- Goes on with a client and takes in its effects. -/
def proceed (r : Rehearsal) (next : Client × List Client.Effect) : Rehearsal :=
  next.2.foldl absorb { r with client := next.1 }

/-- Does the work that is due, at most `limit` pieces of it. -/
def settle : Nat → Rehearsal → Rehearsal
  | 0, r => r
  | limit + 1, r =>
    match r.client.step with
    | none => r
    | some next => settle limit (r.proceed next)

/-! ## Commands -/

/-- Starts an operation for the current command. -/
def start (r : Rehearsal) (ticket : Client.Ticket) (withOutcome : Bool) (next : Client × List Client.Effect) :
    Rehearsal :=
  { r with awaited := r.awaited ++ [Awaited.mk ticket r.commands withOutcome] }.proceed next

/-- Changes the client and answers at once. -/
def change (r : Rehearsal) (client : Client) (answer : Answer) : Rehearsal × Answer :=
  ({ r with client := client }, answer)

/-- Changes the connection store, if it still has an owner. -/
def adjustConnection (r : Rehearsal) (a : Connection.Adjustment) : Rehearsal × Answer :=
  if r.client.connectionOwned then r.change (r.client.adjustConnection a) .nothing else (r, .dropped)

/-- Whether the outcome of an operation on the registry is shown. -/
def showsOutcome : Registry.Operation → Bool
  | .mutate _ => true
  | .load _ | .refresh => false

/-- Starts an operation of the registry store. -/
def startRegistry (r : Rehearsal) (op : Registry.Operation) : Rehearsal × Answer :=
  if r.client.registryOwned then
    (r.start r.client.registryTicket (showsOutcome op) (r.client.startRegistry op), .pending)
  else (r, .dropped)

/-- Starts an operation of the connection store. -/
def startConnection (r : Rehearsal) (op : Connection.Operation) : Rehearsal × Answer :=
  if r.client.connectionOwned then
    let withOutcome := match op with
      | .request .. => true
      | .attach _ => false
    (r.start r.client.connectionTicket withOutcome (r.client.startConnection op), .pending)
  else (r, .dropped)

/-- The rows with the statuses that the connection store shows. -/
def mergedRows (c : Client) : List MergedRow :=
  let connection := c.connection.state
  c.registry.state.rows.map fun row =>
    let row := row.withStatus connection.snapshot
    ⟨row.id, row.status, row.action none, row.action (connection.status? row.id)⟩

/-- Emits events one after the other, and counts who receives each. -/
def emitAll (c : Client) : List Event → Client × List Nat
  | [] => (c, [])
  | e :: rest =>
    let (c', counts) := emitAll (c.emit e) rest
    (c', c.bus.receiverCount :: counts)

/-- Adds a receiver under a name; one that had the name before loses it. -/
def subscribe (c : Client) (name : String) : Client :=
  let next := { c with bus := c.bus.subscribe, inboxes := c.inboxes.insert name c.bus.subscribed }
  match c.inboxes.get? name with
  | some old => next.tidyReceiver old
  | none => next

/-- Takes the next event of a receiver, if there is one. -/
def tryReceive (c : Client) (receiver : Nat) : Client × Answer :=
  if (c.firstWait? receiver).isSome then (c, .busy)
  else
    let (e, bus) := c.bus.tryReceive receiver
    ({ c with bus := bus }, .event e)

/-- Starts a pump to the current hub under a name; one that had the name before goes on without it. -/
def startPump (c : Client) (name : String) : Client :=
  let pump : Client.Pump := ⟨c.bus.subscribed, c.currentHub⟩
  { c with
    bus := c.bus.subscribe
    pumps := c.pumps ++ [pump]
    pumpNames := c.pumpNames.insert name pump.receiver }.later [.pump pump.receiver Client.stint]

/-- Stops a pump. -/
def abortPump (c : Client) (receiver : Nat) : Client :=
  let c := c.stopPump receiver
  { c with asleep := c.asleep.filter fun w => match w with
    | .pump r _ => r != receiver
    | _ => true }

/-- Carries out a command; of an operation that it starts, only the first turn and what follows from it at once. -/
def carryOut (r : Rehearsal) : Command → Rehearsal × Answer
  | .respond key reply => ({ r with script := r.script.respond key reply }, .nothing)
  | .gate key => ({ r with script := r.script.addGate key }, .nothing)
  | .release key =>
    match r.script.release key with
    | none => (r, .flag false)
    | some (script, ticket, reply) =>
      ({ r with script := script, client := r.client.first [.answer ticket reply] }, .flag true)
  | .settle => (r, .nothing)
  | .registry op => r.startRegistry op
  | .adjustRegistry a =>
    if r.client.registryOwned then r.change (r.client.adjustRegistry a) .nothing else (r, .dropped)
  | .watch => if r.client.registryOwned then r.change r.client.watch .nothing else (r, .dropped)
  | .unwatch =>
    match r.client.watches.getLast? with
    | some p =>
      let client := r.client.remove p
      r.change { client with watches := client.watches.dropLast } (.subscription (some p.subscription))
    | none => (r, .subscription none)
  | .dropRegistry => r.change { r.client with registryOwned := false } .nothing
  | .rows => if r.client.registryOwned then (r, .rows r.client.registry.state.rows) else (r, .dropped)
  | .mergedRows =>
    if r.client.registryOwned && r.client.connectionOwned then (r, .merged (mergedRows r.client)) else (r, .dropped)
  | .connection op => r.startConnection op
  | .detach => if r.client.connectionOwned then r.change r.client.detach .nothing else (r, .dropped)
  | .collapse server => r.adjustConnection (.collapse server)
  | .dismissConnectionError => r.adjustConnection .dismissError
  | .dropConnection => r.change { r.client with connectionOwned := false }.tidyConnection .nothing
  | .listen name channel reading actions =>
    r.change (r.client.addListener r.client.currentHub name channel reading actions) .nothing
  | .unsubscribe name =>
    match r.client.listeners.get? name with
    | some p => r.change (r.client.dropListener name) (.subscription (some p.subscription))
    | none => (r, .subscription none)
  | .dispatch e background =>
    let hub := r.client.currentHub
    r.change (r.client.dispatch ⟨hub, background⟩ e) (.count ((r.client.hub hub).count e.channel))
  | .replaceHub => r.change { r.client with hubs := r.client.hubs ++ [{}] } .nothing
  | .emit events =>
    if r.client.senderOwned then
      let (client, counts) := emitAll r.client events
      r.change client (.counts counts)
    else (r, .dropped)
  | .subscribe name => if r.client.busOwned then r.change (subscribe r.client name) .nothing else (r, .dropped)
  | .tryReceive name =>
    match r.client.inboxes.get? name with
    | some receiver =>
      let (client, answer) := tryReceive r.client receiver
      r.change client answer
    | none => (r, .dropped)
  | .receive name =>
    match r.client.inboxes.get? name with
    | some receiver =>
      let c := r.client
      let id := c.waitsStarted
      let work := if (c.firstWait? receiver).isSome then [] else [Client.Work.receive receiver]
      let client := { c with waits := c.waits ++ [(id, receiver)], waitsStarted := id + 1 }.first work
      (r.start (.receive id) false (client, []), .pending)
    | none => (r, .dropped)
  | .dropReceiver name =>
    match r.client.inboxes.get? name with
    | some receiver =>
      r.change ({ r.client with inboxes := r.client.inboxes.erase name }.tidyReceiver receiver) (.flag true)
    | none => (r, .flag false)
  | .pump name =>
    if r.client.busOwned then
      r.change (startPump r.client name) .nothing
    else (r, .dropped)
  | .abortPump name =>
    match r.client.pumpNames.get? name with
    | some receiver => r.change (abortPump r.client receiver) (.flag true)
    | none => (r, .flag false)
  | .closeBus => r.change { r.client with busOwned := false, senderOwned := false }.closeIfUnowned .nothing
  | .dropSender => r.change { r.client with senderOwned := false }.closeIfUnowned .nothing

/-! ## Reports -/

/-- The answer of the current command, and the commands before it that were completed. -/
def conclude (current : Nat) (answer : Answer) (completed : List (Nat × Answer)) : Answer × List (Nat × Answer) :=
  let own := completed.find? fun c => c.1 == current
  ((own.map Prod.snd).getD answer,
    (completed.filter fun c => c.1 != current).mergeSort fun a b => a.1 ≤ b.1)

/-- A report of what was seen, and the rehearsal that goes on from there. -/
def report (r : Rehearsal) (answer : Answer) : Rehearsal × Report :=
  let (answer, completed) := conclude r.commands answer r.completed
  ({ r with commands := r.commands + 1, calls := [], notes := [], heard := [], completed := [] },
    ⟨answer, r.calls, r.notes, r.heard, completed⟩)

/-- Runs a command and does the work that is then due, at most `limit` pieces of it. -/
def run (r : Rehearsal) (limit : Nat) (command : Command) : Rehearsal × Report :=
  let (r, answer) := r.carryOut command
  (settle limit r).report answer

/-- Passes over a command that makes no sense. -/
def skip (r : Rehearsal) : Rehearsal := { r with commands := r.commands + 1 }

end Switchboard.Rehearsal
