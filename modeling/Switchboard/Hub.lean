import Switchboard.Event

/-!
# Hubs

A hub passes events on to listeners. Each listener is registered on one channel and hears the events of that channel,
in the order of registration. The subscription that registering gives names the listener for as long as the hub
lives; no number is given out twice.
-/

namespace Switchboard

/-- The handle of a listener. -/
structure Subscription where
  channel : String
  id : Nat
  deriving DecidableEq, Repr

/-- A registered listener. -/
structure Listener (Handler : Type) where
  subscription : Subscription
  handler : Handler

/-- Listeners in the order of registration. -/
structure Hub (Handler : Type) where
  listeners : List (Listener Handler) := []
  /-- How many listeners were ever registered; they are assumed to be fewer than 2 ^ 64. -/
  registered : Nat := 0

namespace Hub

variable {Handler : Type}

/-- The subscription that the next listener gets. -/
def ticket (hub : Hub Handler) (channel : String) : Subscription := ⟨channel, hub.registered⟩

/-- Registers a listener. -/
def listen (hub : Hub Handler) (channel : String) (handler : Handler) : Hub Handler :=
  ⟨hub.listeners ++ [⟨hub.ticket channel, handler⟩], hub.registered + 1⟩

/-- Removes the listener of a subscription, if it is still registered. -/
def unsubscribe (hub : Hub Handler) (s : Subscription) : Hub Handler :=
  { hub with listeners := hub.listeners.filter fun l => l.subscription != s }

/-- The listeners on a channel. -/
def on (hub : Hub Handler) (channel : String) : List (Listener Handler) :=
  hub.listeners.filter fun l => l.subscription.channel == channel

/-- How many listeners are on a channel. -/
def count (hub : Hub Handler) (channel : String) : Nat := (hub.on channel).length

/-- How many listeners there are. -/
def total (hub : Hub Handler) : Nat := hub.listeners.length

/-- The numbers given out are below the number of registrations. -/
theorem id_lt_of_mem_listen {hub : Hub Handler} (h : ∀ l ∈ hub.listeners, l.subscription.id < hub.registered)
    (channel : String) (handler : Handler) :
    ∀ l ∈ (hub.listen channel handler).listeners, l.subscription.id < (hub.listen channel handler).registered := by
  intro l hl
  rcases List.mem_append.mp hl with hl | hl
  · exact Nat.lt_succ_of_lt (h l hl)
  · rw [List.mem_singleton.mp hl]
    exact Nat.lt_succ_self _

end Hub

/-- How a subscription is shown in messages. -/
def Subscription.describe (s : Subscription) : String :=
  "Subscription \x7b channel: " ++ Text.quote s.channel ++ ", id: " ++ toString s.id ++ " \x7d"

end Switchboard
