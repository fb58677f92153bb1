import Switchboard.Proofs.Client.Beside
import Switchboard.Proofs.Client.Delivery

/-!
# Rehearsals are runs

Whatever the commands of a rehearsal do to its client, it is done by a run of strokes (`Rehearsal.reaches_run`), so what
holds of all runs holds of rehearsals.
-/

namespace Switchboard

namespace Client

/-- There is a run from a client to another. -/
def Reaches (c d : Client) : Prop := ∃ ss, d = c.strikes ss

variable {b c d : Client}

namespace Reaches

theorem refl (c : Client) : c.Reaches c := ⟨[], rfl⟩

theorem trans (h : b.Reaches c) (h' : c.Reaches d) : b.Reaches d := by
  obtain ⟨ss, rfl⟩ := h
  obtain ⟨ts, rfl⟩ := h'
  exact ⟨ss ++ ts, (strikes_append b ss ts).symm⟩

theorem strike (c : Client) (s : Stroke) : c.Reaches (c.strike s) := ⟨[s], rfl⟩

theorem moments (c : Client) (os : List Moment) : c.Reaches (c.run os) := by
  refine ⟨os.map .moment, ?_⟩
  rw [strikes, List.foldl_map]
  rfl

/-- Something changes that has nothing to do with the bus or with work that is due. -/
theorem other (same : c.strike (.other d) = d) : c.Reaches d := ⟨[.other d], same.symm⟩

end Reaches

end Client

namespace Rehearsal

open Client (Reaches)

variable {c : Client}

/-! ## Operations -/

theorem reaches_absorb (r : Rehearsal) (effects : List Client.Effect) :
    r.client.Reaches (effects.foldl absorb r).client := by
  obtain ⟨os, e⟩ := Client.exists_run_absorb r effects
  rw [e]
  exact .moments _ os

theorem reaches_start (r : Rehearsal) (ticket : Client.Ticket) (withOutcome : Bool) {d : Client}
    (effects : List Client.Effect) (h : r.client.Reaches d) :
    r.client.Reaches (r.start ticket withOutcome (d, effects)).client :=
  h.trans (reaches_absorb _ effects)

/-! ## The connection store -/

theorem reaches_unsubscribeConnection (c : Client) : c.Reaches c.unsubscribeConnection := by
  rw [Client.unsubscribeConnection_eq]
  exact .other rfl

theorem reaches_tidyConnection (c : Client) : c.Reaches c.tidyConnection := by
  unfold Client.tidyConnection
  split
  · exact .refl c
  · exact reaches_unsubscribeConnection c

theorem reaches_detach (c : Client) : c.Reaches c.detach :=
  (reaches_unsubscribeConnection c).trans (.other rfl)

theorem reaches_startConnection (c : Client) (op : Connection.Operation) : c.Reaches (c.startConnection op).1 := by
  cases op with
  | attach space =>
    obtain ⟨connection, subscriptions, e⟩ := c.startConnection_attach_eq space
    rw [e]
    exact .other rfl
  | request => exact .other rfl

/-! ## Listeners -/

theorem reaches_addListener (c : Client) (hub : Nat) (name channel : String) (reading : Client.Reading)
    (actions : List Client.Action) : c.Reaches (c.addListener hub name channel reading actions) := by
  rw [Client.addListener_eq]
  exact .other rfl

theorem reaches_dropListener (c : Client) (name : String) : c.Reaches (c.dropListener name) := by
  obtain ⟨listeners, e⟩ := c.dropListener_eq name
  rw [e]
  exact .other rfl

/-! ## The bus -/

theorem reaches_emitAll (c : Client) (events : List Event) : c.Reaches (emitAll c events).1 := by
  induction events generalizing c with
  | nil => exact .refl c
  | cons e rest ih => exact (Reaches.strike c (.emit e)).trans (ih _)

theorem reaches_closeIfUnowned (c : Client) : c.Reaches c.closeIfUnowned := by
  unfold Client.closeIfUnowned
  split
  · exact .refl c
  · exact .strike c .close

/-! ## Receivers -/

theorem reaches_tidyReceiver (c : Client) (receiver : Nat) : c.Reaches (c.tidyReceiver receiver) := by
  unfold Client.tidyReceiver
  split
  · exact .refl c
  · exact .strike c (.drop receiver)

theorem reaches_subscribe (c : Client) (name : String) : c.Reaches (subscribe c name) := by
  have next : c.Reaches { c with bus := c.bus.subscribe, inboxes := c.inboxes.insert name c.bus.subscribed } :=
    (Reaches.strike c .subscribe).trans (.other rfl)
  unfold subscribe
  split
  · exact next.trans (reaches_tidyReceiver _ _)
  · exact next

theorem reaches_take (c : Client) (receiver : Nat) : c.Reaches (tryReceive c receiver).1 := by
  unfold tryReceive
  split
  · exact .refl c
  · exact .strike c (.tryReceive receiver)

/-- To wait for a receiver is a stroke, and so is the look of the one who waits for it first. -/
theorem reaches_await (c : Client) (receiver : Nat) :
    c.Reaches ({ c with waits := c.waits ++ [(c.waitsStarted, receiver)], waitsStarted := c.waitsStarted + 1 }.first
      (if (c.firstWait? receiver).isSome then [] else [.receive receiver])) := by
  refine (Reaches.strike c (.await receiver)).trans ?_
  split
  · exact .refl _
  · exact .moments _ [.demand (.receive receiver)]

/-! ## Pumps -/

/-- To start a pump is a stroke, but for the pump's name. -/
theorem startPump_eq (c : Client) (name : String) : startPump c name =
    { c.spawn c.currentHub with pumpNames := c.pumpNames.insert name c.bus.subscribed } := rfl

theorem reaches_startPump (c : Client) (name : String) : c.Reaches (startPump c name) := by
  rw [startPump_eq]
  exact (Reaches.strike c (.spawn c.currentHub)).trans (.other rfl)

theorem abortPump_eq (c : Client) (receiver : Nat) : abortPump c receiver = c.strike (.abort receiver) := by
  unfold abortPump
  dsimp only [Client.strike]
  congr 1
  refine congrArg (fun kept => List.filter kept c.asleep) (funext fun w => ?_)
  cases w <;> rfl

/-! ## Commands -/

/-- A command does nothing if its subject has lost its owner. -/
theorem reaches_owned (r : Rehearsal) (answer : Answer) (owned : Bool) {next : Rehearsal × Answer}
    (h : r.client.Reaches next.1.client) : r.client.Reaches (if owned then next else (r, answer)).1.client := by
  cases owned with
  | true => exact h
  | false => exact .refl _

/-! A command about something that is looked up does nothing if it is not found. -/

section Lookups

variable (r : Rehearsal) (name : String)

/-- The reply of a released key reaches the operation that waits for it. -/
theorem reaches_release (key : String) : r.client.Reaches (r.carryOut (.release key)).1.client := by
  simp only [carryOut]
  split
  · exact .refl _
  · exact .moments _ [.demand _]

theorem reaches_unwatch : r.client.Reaches (r.carryOut .unwatch).1.client := by
  simp only [carryOut]
  split
  · exact .other rfl
  · exact .refl _

theorem reaches_unsubscribe : r.client.Reaches (r.carryOut (.unsubscribe name)).1.client := by
  simp only [carryOut]
  split
  · exact reaches_dropListener _ name
  · exact .refl _

theorem reaches_tryReceive : r.client.Reaches (r.carryOut (.tryReceive name)).1.client := by
  simp only [carryOut]
  split
  · exact reaches_take _ _
  · exact .refl _

theorem reaches_receive : r.client.Reaches (r.carryOut (.receive name)).1.client := by
  simp only [carryOut]
  split
  · exact reaches_start r _ _ [] (reaches_await _ _)
  · exact .refl _

theorem reaches_dropReceiver : r.client.Reaches (r.carryOut (.dropReceiver name)).1.client := by
  simp only [carryOut]
  split
  next receiver _ =>
    have unnamed : r.client.Reaches { r.client with inboxes := r.client.inboxes.erase name } := .other rfl
    exact unnamed.trans (reaches_tidyReceiver _ receiver)
  next => exact .refl _

theorem reaches_abortPump : r.client.Reaches (r.carryOut (.abortPump name)).1.client := by
  simp only [carryOut]
  split
  next receiver _ =>
    rw [abortPump_eq]
    exact .strike _ (.abort receiver)
  next => exact .refl _

end Lookups

/-- What a command does at once. -/
theorem reaches_carryOut (r : Rehearsal) (command : Command) : r.client.Reaches (r.carryOut command).1.client := by
  cases command with
  | respond | gate | settle => exact .refl _
  | release key => exact reaches_release r key
  -- the registry store
  | registry op => exact reaches_owned r _ _ (reaches_start r _ _ _ (.other rfl))
  | adjustRegistry a => exact reaches_owned r _ _ (.other rfl)
  | watch => exact reaches_owned r _ _ (.other rfl)
  | unwatch => exact reaches_unwatch r
  | rows | mergedRows => exact reaches_owned r _ _ (.refl _)
  | dropRegistry => exact .other rfl
  -- the connection store
  | connection op => exact reaches_owned r _ _ (reaches_start r _ _ _ (reaches_startConnection _ op))
  | detach => exact reaches_owned r _ _ (reaches_detach _)
  | collapse | dismissConnectionError => exact reaches_owned r _ _ (.other rfl)
  | dropConnection =>
    have given : r.client.Reaches { r.client with connectionOwned := false } := .other rfl
    exact given.trans (reaches_tidyConnection _)
  -- hubs
  | listen name channel reading actions => exact reaches_addListener _ _ name channel reading actions
  | unsubscribe name => exact reaches_unsubscribe r name
  | dispatch e background => exact .moments _ [.dispatch _ e]
  | replaceHub => exact .other rfl
  -- the bus
  | emit events => exact reaches_owned r _ _ (reaches_emitAll _ events)
  | subscribe name => exact reaches_owned r _ _ (reaches_subscribe _ name)
  | tryReceive name => exact reaches_tryReceive r name
  | receive name => exact reaches_receive r name
  | dropReceiver name => exact reaches_dropReceiver r name
  | pump name => exact reaches_owned r _ _ (reaches_startPump _ name)
  | abortPump name => exact reaches_abortPump r name
  | closeBus =>
    have given : r.client.Reaches { r.client with busOwned := false, senderOwned := false } := .other rfl
    exact given.trans (reaches_closeIfUnowned _)
  | dropSender =>
    have given : r.client.Reaches { r.client with senderOwned := false } := .other rfl
    exact given.trans (reaches_closeIfUnowned _)

/-- **A command of a rehearsal is a run of its client.** -/
theorem reaches_run (r : Rehearsal) (limit : Nat) (command : Command) :
    r.client.Reaches (r.run limit command).1.client := by
  obtain ⟨os, e⟩ := Client.exists_run_settle limit (r.carryOut command).1
  have worked : (r.carryOut command).1.client.Reaches (settle limit (r.carryOut command).1).client := by
    rw [e]
    exact .moments _ os
  exact (reaches_carryOut r command).trans worked

end Rehearsal

end Switchboard
