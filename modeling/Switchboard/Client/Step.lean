import Switchboard.Client.Basic

/-!
# The work of the client

`Client.step` does the first piece of work on the agenda, or, if the agenda is done, of the queue. Passing an event on
is work for every listener on its channel at that moment, ahead of everything else, so a listener that removes or
registers others does not change who hears the event. Work left for later goes to the end of the queue.

Turns come in rounds. A round is over when the queue is empty, or after a number of turns however long the queue is;
only then does work that was put off get in line again.
-/

namespace Switchboard.Client

open Backend (Call Reply)

/-! ## Hubs -/

/-- The number of the current hub. -/
def currentHub (c : Client) : Nat := c.hubs.length - 1

/-- A hub by its number. -/
def hub (c : Client) (i : Nat) : Hub Handler := c.hubs.getD i {}

/-- Changes a hub. -/
def changeHub (c : Client) (i : Nat) (change : Hub Handler → Hub Handler) : Client :=
  { c with hubs := c.hubs.modify i change }

/-- Registers a listener on a hub. -/
def register (c : Client) (i : Nat) (channel : String) (handler : Handler) : Client × Place :=
  (c.changeHub i fun h => h.listen channel handler, ⟨i, (c.hub i).ticket channel⟩)

/-- Removes a listener. -/
def remove (c : Client) (p : Place) : Client := c.changeHub p.hub fun h => h.unsubscribe p.subscription

/-- Puts work at the head of the agenda. -/
def first (c : Client) (work : List Work) : Client := { c with agenda := work ++ c.agenda }

/-- Puts work at the end of the queue. -/
def later (c : Client) (work : List Work) : Client := { c with queue := c.queue ++ work }

/-- Passes an event to the listeners on its channel. -/
def dispatch (c : Client) (scene : Scene) (e : Event) : Client :=
  c.first (((c.hub scene.hub).on e.channel).map fun l => .hear l.handler e.payload scene)

/-! ## Listeners of their own -/

/-- Removes the listener of a name. -/
def dropListener (c : Client) (name : String) : Client :=
  match c.listeners.get? name with
  | some p => { c.remove p with listeners := c.listeners.erase name }
  | none => c

/-- Registers a listener on a hub, then removes the one that had its name. -/
def addListener (c : Client) (i : Nat) (name channel : String) (reading : Reading) (actions : List Action) : Client :=
  let (c', p) := c.register i channel (.script name reading actions)
  { c'.dropListener name with listeners := c.listeners.insert name p }

/-! ## The connection store -/

/-- Removes the listeners of the connection store. -/
def unsubscribeConnection (c : Client) : Client :=
  { c.subscriptions.foldl (fun c s => c.remove ⟨0, s⟩) c with subscriptions := [] }

/-- The channels of the connection store. -/
def connectionChannels : List (String × Handler) :=
  [(Channel.statusChanged, .status), (Channel.authProgress, .progress), (Channel.featuresUpdated, .features)]

/-- Registers a listener of the connection store. -/
def subscribeConnection (c : Client) (channel : String × Handler) : Client :=
  let (c, p) := c.register 0 channel.1 channel.2
  { c with subscriptions := c.subscriptions ++ [p.subscription] }

/-- Whether the connection store is still there. -/
def connectionAlive (c : Client) : Bool := c.connectionOwned || !c.connection.waiting.isEmpty

/-- Removes what belongs to a connection store that is no longer there. -/
def tidyConnection (c : Client) : Client := if c.connectionAlive then c else c.unsubscribeConnection

/-- What comes of a turn of an operation. -/
def effects {State Task : Type} (ticket : Ticket) (call : Task → Call) : Option (Turn State Task) → List Effect
  | none => []
  | some turn =>
    turn.notes.map .note ++ match turn.next with
      | .waits task => [.call ticket (call task)]
      | .ends outcome => [.finished ticket (.outcome outcome)]

/-- The ticket of the connection store's next operation. -/
def connectionTicket (c : Client) : Ticket := .connection c.connection.started

/-- An operation of the connection store takes a turn. -/
def turnConnection (c : Client) (ticket : Ticket) (o : Occurrence Connection.Operation Reply Connection.Adjustment) :
    Client × List Effect :=
  let (store, turn) := c.connection.take Connection.behaviour o
  ({ c with connection := store }, effects ticket Connection.Task.call turn)

/-- Changes the connection store, apart from any operation. -/
def adjustConnection (c : Client) (a : Connection.Adjustment) : Client :=
  { c with connection := c.connection.after Connection.behaviour (.adjust a) }

/-- Starts an operation of the connection store; binding to a space renews its listeners. -/
def startConnection (c : Client) (op : Connection.Operation) : Client × List Effect :=
  let (next, effects) := c.turnConnection c.connectionTicket (.start op)
  match op with
  | .attach _ => (connectionChannels.foldl subscribeConnection next.unsubscribeConnection, effects)
  | .request .. => (next, effects)

/-- Unbinds the connection store. -/
def detach (c : Client) : Client := c.unsubscribeConnection.adjustConnection .unbind

/-! ## The registry store -/

/-- Whether a piece of work holds the registry store. -/
def Work.isRefresh : Work → Bool
  | refresh => true
  | _ => false

/-- Whether the registry store is still there. -/
def registryAlive (c : Client) : Bool :=
  c.registryOwned || !c.registry.waiting.isEmpty || c.queue.any Work.isRefresh

/-- The ticket of the registry store's next operation. -/
def registryTicket (c : Client) : Ticket := .registry c.registry.started

/-- An operation of the registry store takes a turn. -/
def turnRegistry (c : Client) (ticket : Ticket) (o : Occurrence Registry.Operation Reply Registry.Adjustment) :
    Client × List Effect :=
  let (store, turn) := c.registry.take Registry.behaviour o
  ({ c with registry := store }, effects ticket Registry.Task.call turn)

/-- Changes the registry store, apart from any operation. -/
def adjustRegistry (c : Client) (a : Registry.Adjustment) : Client :=
  { c with registry := c.registry.after Registry.behaviour (.adjust a) }

/-- Starts an operation of the registry store. -/
def startRegistry (c : Client) (op : Registry.Operation) : Client × List Effect :=
  c.turnRegistry c.registryTicket (.start op)

/-- Watches for changes of what is installed, on the current hub. -/
def watch (c : Client) : Client :=
  let (c, p) := c.register c.currentHub Channel.serverChanged .changes
  { c with watches := c.watches ++ [p] }

/-! ## The bus -/

/-- Wakes all work that waits for the bus. -/
def wake (c : Client) : Client := { c.later c.asleep with asleep := [] }

/-- Emits an event. -/
def emit (c : Client) (e : Event) : Client := { c with bus := c.bus.emit e }.wake

/-- Closes the bus when nobody is left who could emit. -/
def closeIfUnowned (c : Client) : Client :=
  if c.busOwned || c.senderOwned then c else { c with bus := { c.bus with closed := true } }.wake

/-- Whether a receiver has a name or someone who waits for it. -/
def inUse (c : Client) (receiver : Nat) : Bool :=
  (c.inboxes.entries.any fun e => e.2 == receiver) || c.waits.any fun w => w.2 == receiver

/-- Removes a receiver that is no longer in use. -/
def tidyReceiver (c : Client) (receiver : Nat) : Client :=
  if c.inUse receiver then c else { c with bus := c.bus.unsubscribe receiver }

/-- Ends the first wait for a receiver; the next one goes on later. -/
def endWait (c : Client) (id receiver : Nat) (e : Option Event) : Client × List Effect :=
  let c := { c with waits := c.waits.filter fun w => w.1 != id }
  let c := if c.waits.any fun w => w.2 == receiver then c.later [.receive receiver] else c.tidyReceiver receiver
  (c, [.finished (.receive id) (.event e)])

/-- The first wait for a receiver. -/
def firstWait? (c : Client) (receiver : Nat) : Option Nat :=
  (c.waits.find? fun w => w.2 == receiver).map Prod.fst

/-- Whoever waits for a receiver first looks for its next event. -/
def receive (c : Client) (receiver : Nat) : Client × List Effect :=
  match c.firstWait? receiver with
  | none => (c, [])
  | some id =>
    match c.bus.receive receiver with
    | (.ends e, bus) => { c with bus := bus }.endWait id receiver e
    | (.waits, bus) => ({ c with bus := bus, asleep := c.asleep ++ [.receive receiver] }, [])

/-- Stops the pump of a receiver. -/
def stopPump (c : Client) (receiver : Nat) : Client :=
  { c with pumps := c.pumps.filter fun p => p.receiver != receiver, bus := c.bus.unsubscribe receiver }

/-- Whether the pump of a receiver runs. -/
def isPumping (c : Client) (receiver : Nat) : Bool := c.pumps.any fun p => p.receiver == receiver

/-- How many events a pump takes in one go. To notice that some were missed counts as one more. -/
def stint : Nat := 128

/-- A pump passes the next event of its receiver on, and goes on after that, until its stint is over. It receives look
by look, since its stint may end between two of them. -/
def pump (c : Client) (receiver left : Nat) : Client :=
  match left, c.pumps.find? fun p => p.receiver == receiver with
  | _, none => c
  | 0, some _ => { c with putOff := .pump receiver stint :: c.putOff }
  | left + 1, some p =>
    match c.bus.look receiver with
    | (.event e, bus) => ({ c with bus := bus }.first [.pump receiver left]).dispatch ⟨p.hub, true⟩ e
    | (.missed _, bus) => { c with bus := bus }.first [.pump receiver left]
    | (.nothing, bus) => { c with bus := bus, asleep := c.asleep ++ [.pump receiver stint] }
    | (.closed, bus) => { c with bus := bus }.stopPump receiver

/-! ## Steps -/

/-- A listener hears an event. A payload that is not of the listener's type is passed over. -/
def hear (c : Client) (handler : Handler) (payload : Json) (scene : Scene) : Client × List Effect :=
  match handler with
  | .status =>
    match StatusChanged.decode payload with
    | .ok e => (c.adjustConnection (.status e), [])
    | .error _ => (c, [])
  | .progress =>
    match AuthProgress.decode payload with
    | .ok e => (c.adjustConnection (.progress e), [])
    | .error _ => (c, [])
  | .features =>
    match Features.decode payload with
    | .ok e => (c.adjustConnection (.features e), [])
    | .error _ => (c, [])
  | .changes =>
    match ServerChanged.decode payload with
    | .ok e =>
      if c.registryAlive && c.registry.state.space == some e.spaceId && scene.background then (c.later [.refresh], [])
      else (c, [])
    | .error _ => (c, [])
  | .script name reading actions =>
    match reading.read payload with
    | .ok v => (c.first (actions.map fun a => .act a scene), [.heard name v])
    | .error _ => (c, [])

/-- A listener acts. -/
def act (c : Client) (scene : Scene) : Action → Client × List Effect
  | .unsubscribe name => (c.dropListener name, [])
  | .listen name channel reading actions => (c.addListener scene.hub name channel reading actions, [])
  | .dispatch e => (c.dispatch scene e, [])
  | .attach space => c.startConnection (.attach space)
  | .detach => (c.detach, [])

/-- A reply reaches the operation that waits for it. -/
def answer (c : Client) (reply : Reply) : Ticket → Client × List Effect
  | .connection id =>
    let (c, effects) := c.turnConnection (.connection id) (.reply id reply)
    (c.tidyConnection, effects)
  | .registry id => c.turnRegistry (.registry id) (.reply id reply)
  | .receive _ => (c, [])

/-- Does a piece of work. -/
def perform (c : Client) : Work → Client × List Effect
  | .hear handler payload scene => c.hear handler payload scene
  | .act action scene => c.act scene action
  | .answer ticket reply => c.answer reply ticket
  | .refresh => c.startRegistry .refresh
  | .pump receiver left => (c.pump receiver left, [])
  | .receive receiver => c.receive receiver

/-- The turns of a round. -/
def round : Nat := 61

/-- The break after a round: work that was put off gets in line. -/
def takeBreak (c : Client) : Client := { c with queue := c.queue ++ c.putOff, putOff := [], turns := 0 }

/-- Does the first piece of work on the agenda, takes a turn, or takes a break, if there is anything to do. -/
def step (c : Client) : Option (Client × List Effect) :=
  match c.agenda, c.queue with
  | work :: rest, _ => some ({ c with agenda := rest }.perform work)
  | [], work :: rest =>
    if c.turns < round then some ({ c with queue := rest, turns := c.turns + 1 }.perform work)
    else some (c.takeBreak, [])
  | [], [] => if c.turns = 0 then none else some (c.takeBreak, [])

end Switchboard.Client
