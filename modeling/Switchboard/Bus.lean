import Switchboard.Event

/-!
# The event bus

A bus gives every event to all receivers there are when it is emitted. It keeps the last events only, as many as it
has room for; a receiver that is further behind goes on with the oldest kept one. An event that no receiver can get is
not kept.

Positions count the events that were emitted to receivers, so a receiver is its position.
-/

namespace Switchboard

/-- A bus with its receivers. -/
structure Bus where
  /-- How many events are kept. -/
  room : Nat
  /-- How many events were emitted. -/
  emitted : Nat := 0
  /-- The last events, the oldest first. -/
  kept : List Event := []
  /-- The position of the next event of each receiver, by its number. -/
  receivers : List (Nat × Nat) := []
  /-- How many receivers there ever were. -/
  subscribed : Nat := 0
  /-- Whether no event can be emitted any more. -/
  closed : Bool := false

namespace Bus

/-- The largest capacity of a bus. -/
def maxCapacity : Nat := Nat.pow 2 63 - 1

/-- A bus with room for `capacity` events, at least one, rounded up to a power of two. -/
def ofCapacity? (capacity : Nat) : Option Bus :=
  if capacity ≤ maxCapacity then some { room := (max capacity 1).nextPowerOfTwo } else none

/-- How many receivers there are. -/
def receiverCount (bus : Bus) : Nat := bus.receivers.length

/-- The position of the oldest kept event. -/
def oldest (bus : Bus) : Nat := bus.emitted - bus.kept.length

/-- Emits an event, if anyone receives it. -/
def emit (bus : Bus) (e : Event) : Bus :=
  if bus.receivers.isEmpty then bus
  else
    let kept := bus.kept ++ [e]
    { bus with emitted := bus.emitted + 1, kept := kept.drop (kept.length - bus.room) }

/-- A new receiver, of the events to come; its number is `bus.subscribed`. -/
def subscribe (bus : Bus) : Bus :=
  { bus with receivers := bus.receivers ++ [(bus.subscribed, bus.emitted)], subscribed := bus.subscribed + 1 }

/-- Removes a receiver. -/
def unsubscribe (bus : Bus) (id : Nat) : Bus := { bus with receivers := bus.receivers.filter fun r => r.1 != id }

/-! ## Looking for the next event -/

/-- The position of a receiver's next event, if the receiver is there. -/
def position? (bus : Bus) (id : Nat) : Option Nat := (bus.receivers.find? fun r => r.1 == id).map Prod.snd

/-- Moves a receiver. -/
def move (bus : Bus) (id position : Nat) : Bus :=
  { bus with receivers := bus.receivers.map fun r => if r.1 = id then (id, position) else r }

/-- What a receiver finds. -/
inductive Found where
  | event (e : Event)
  /-- So many events were missed. -/
  | missed (count : Nat)
  | nothing
  /-- There is nothing, nor will there be. -/
  | closed

/-- A receiver looks for its next event. If that is no longer kept it only finds out how many were missed, and the
oldest kept one is its next. -/
def look (bus : Bus) (id : Nat) : Found × Bus :=
  let rest := if bus.closed then Found.closed else .nothing
  match bus.position? id with
  | none => (rest, bus)
  | some position =>
    if position < bus.oldest then (.missed (bus.oldest - position), bus.move id bus.oldest)
    else match bus.kept[position - bus.oldest]? with
    | some e => (.event e, bus.move id (position + 1))
    | none => (rest, bus)

/-- How many events a receiver has missed since it last looked. -/
def lag (bus : Bus) (id : Nat) : Nat := ((bus.position? id).map fun position => bus.oldest - position).getD 0

theorem position?_move {bus : Bus} {id position : Nat} (h : bus.position? id = some position) (target : Nat) :
    (bus.move id target).position? id = some target := by
  obtain ⟨r, found, -⟩ := Option.map_eq_some_iff.mp h
  simp only [position?, move, Option.map_eq_some_iff]
  refine ⟨(id, target), ?_, rfl⟩
  have same : ((fun r : Nat × Nat => r.1 == id) ∘ fun r => if r.1 = id then (id, target) else r) =
      fun r => r.1 == id := by
    funext r
    dsimp only [Function.comp_apply]
    split
    next own => simp [own]
    next => rfl
  have own : r.1 = id := by simpa using List.find?_some found
  rw [List.find?_map, same, found, Option.map_some, if_pos own]

/-- To find out that events were missed makes up for it. -/
theorem lag_look_lt {bus : Bus} {id count : Nat} {next : Bus} (h : bus.look id = (.missed count, next)) :
    next.lag id < bus.lag id := by
  unfold look at h
  cases at_ : bus.position? id with
  | none =>
    rw [at_] at h
    dsimp only at h
    split at h <;> cases h
  | some position =>
    rw [at_] at h
    dsimp only at h
    split at h
    next behind =>
      cases h
      have caught : (bus.move id bus.oldest).lag id = 0 := by
        simp only [lag, position?_move at_, Option.map_some, Option.getD_some]
        exact Nat.sub_self _
      rw [caught, lag, at_]
      exact Nat.sub_pos_of_lt behind
    next =>
      split at h
      · cases h
      · split at h <;> cases h

/-! ## Receiving -/

/-- Takes the next event of a receiver, if there is one. A receiver that has missed events looks once more. -/
def tryReceive (bus : Bus) (id : Nat) : Option Event × Bus :=
  match bus.look id with
  | (.event e, bus) => (some e, bus)
  | (.missed _, bus) =>
    match bus.look id with
    | (.event e, bus) => (some e, bus)
    | (_, bus) => (none, bus)
  | (_, bus) => (none, bus)

/-- How it goes to wait for a receiver's next event. -/
inductive Reception where
  /-- The wait is over: an event, or none if there will be no more. -/
  | ends (e : Option Event)
  | waits

/-- Takes the next event of a receiver, or finds out that there will be none, or that it has to wait. A receiver that
has missed events looks again. -/
def receive (bus : Bus) (id : Nat) : Reception × Bus :=
  match _found : bus.look id with
  | (.event e, bus) => (.ends (some e), bus)
  | (.missed _, bus) => bus.receive id
  | (.nothing, bus) => (.waits, bus)
  | (.closed, bus) => (.ends none, bus)
termination_by bus.lag id
decreasing_by exact lag_look_lt _found

end Bus

end Switchboard
