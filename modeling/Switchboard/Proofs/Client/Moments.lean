import Switchboard.Client.Step
import Switchboard.Proofs.Hub

/-!
# Moments of a client

What happens to a client: the work that is due is done piece by piece, and at any time code of its own may call the
hubs, as a callback does, or something else may fall due at once. A run is a list of moments, in any order that they
may come in.

The agenda is a stack: whatever a piece of work does, it comes off the top, and the work it brings about goes on top of
what was below it (`agenda_work`). The hubs change by registering and dropping alone, and it is known which of the two
happens when (`hub_run`).
-/

namespace Switchboard.Client

/-- What happens to a client. -/
inductive Moment where
  /-- The next piece of work is done. -/
  | work
  /-- Someone registers a listener on a hub. -/
  | listen (hub : Nat) (channel : String) (handler : Handler)
  /-- Someone drops a subscription. -/
  | drop (place : Place)
  /-- Someone dispatches an event. -/
  | dispatch (scene : Scene) (e : Event)
  /-- Something else is due at once. -/
  | demand (work : Work)

/-- The client after a moment. -/
def after (c : Client) : Moment → Client
  | .work => (c.step.map Prod.fst).getD c
  | .listen i channel handler => (c.register i channel handler).1
  | .drop p => c.remove p
  | .dispatch scene e => c.dispatch scene e
  | .demand work => c.first [work]

/-- The client after a run. -/
def run (c : Client) (os : List Moment) : Client := os.foldl after c

theorem run_append (c : Client) (os ps : List Moment) : c.run (os ++ ps) = (c.run os).run ps := List.foldl_append

/-! ## Changes of the hubs -/

/-- Changes of hubs, each with the number of its hub. -/
abbrev Changes := List (Nat × Hub.Change Handler)

/-- Hubs after changes. -/
def changeHubs (hubs : List (Hub Handler)) (changes : Changes) : List (Hub Handler) :=
  changes.foldl (fun hubs change => hubs.modify change.1 fun h => h.change change.2) hubs

/-- The changes of one hub. -/
def Changes.of (i : Nat) (changes : Changes) : List (Hub.Change Handler) :=
  changes.filterMap fun change => if change.1 = i then some change.2 else none

theorem changeHubs_append (hubs : List (Hub Handler)) (changes more : Changes) :
    changeHubs hubs (changes ++ more) = changeHubs (changeHubs hubs changes) more := List.foldl_append

theorem length_changeHubs (hubs : List (Hub Handler)) (changes : Changes) :
    (changeHubs hubs changes).length = hubs.length := by
  induction changes generalizing hubs with
  | nil => rfl
  | cons change changes ih => exact (ih _).trans (List.length_modify _ _ _)

/-- A hub takes part only in its own changes. -/
theorem getD_changeHubs {hubs : List (Hub Handler)} {i : Nat} (h : i < hubs.length) (changes : Changes) :
    (changeHubs hubs changes).getD i {} = (hubs.getD i {}).changed (changes.of i) := by
  induction changes generalizing hubs with
  | nil => rfl
  | cons change changes ih =>
    have longer : i < (hubs.modify change.1 fun h => h.change change.2).length := by rwa [List.length_modify]
    have modified : (hubs.modify change.1 fun h => h.change change.2).getD i {} =
        if change.1 = i then (hubs.getD i {}).change change.2 else hubs.getD i {} := by
      simp only [List.getD_eq_getElem?_getD, List.getElem?_modify, List.getElem?_eq_getElem h]
      split <;> rfl
    rw [changeHubs, List.foldl_cons]
    refine (ih longer).trans ?_
    rw [modified]
    by_cases own : change.1 = i
    · have first : Changes.of i (change :: changes) = change.2 :: Changes.of i changes :=
        List.filterMap_cons_some (if_pos own)
      rw [if_pos own, first]
      rfl
    · have others : Changes.of i (change :: changes) = Changes.of i changes :=
        List.filterMap_cons_none (if_neg own)
      rw [if_neg own, others]

/-- A subscription is dropped. -/
def Place.dropped (p : Place) : Nat × Hub.Change Handler := (p.hub, .drop p.subscription)

/-- The subscription under a name is dropped, if there is one. -/
def nameDropped (c : Client) (name : String) : Changes := ((c.listeners.get? name).map Place.dropped).toList

/-- Subscriptions on the first hub are dropped. -/
def dropAll (subscriptions : List Subscription) : Changes := subscriptions.map fun s => (0, .drop s)

/-- Listeners are registered on the first hub. -/
def listenAll (channels : List (String × Handler)) : Changes :=
  channels.map fun channel => (0, .listen channel.1 channel.2)

/-- What an action does to the hubs. -/
def Action.changes (c : Client) (scene : Scene) : Action → Changes
  | .unsubscribe name => c.nameDropped name
  | .listen name channel reading actions =>
    (scene.hub, .listen channel (.script name reading actions)) :: c.nameDropped name
  | .dispatch _ => []
  | .attach _ => dropAll c.subscriptions ++ listenAll connectionChannels
  | .detach => dropAll c.subscriptions

/-- What a piece of work does to the hubs. -/
def Work.changes (c : Client) : Work → Changes
  | .act action scene => action.changes c scene
  | .answer (.connection id) reply =>
    if (c.turnConnection (.connection id) (.reply id reply)).1.connectionAlive then [] else dropAll c.subscriptions
  | _ => []

/-- What a moment does to the hubs. -/
def Moment.changes (c : Client) : Moment → Changes
  | .work =>
    match c.agenda, c.queue with
    | next :: _, _ => next.changes c
    | [], next :: _ => if c.turns < round then next.changes c else []
    | [], [] => []
  | .listen i channel handler => [(i, .listen channel handler)]
  | .drop p => [p.dropped]
  | .dispatch .. | .demand _ => []

/-- What a run does to one hub. -/
def history (i : Nat) : Client → List Moment → List (Hub.Change Handler)
  | _, [] => []
  | c, o :: os => (o.changes c).of i ++ history i (c.after o) os

/-! ## What a piece of work changes -/

/-- Listeners are to hear an event. -/
def hearings (listeners : List (Listener Handler)) (scene : Scene) (e : Event) : List Work :=
  listeners.map fun l => .hear l.handler e.payload scene

variable (c : Client)

theorem dropListener_eq (name : String) : ∃ listeners, c.dropListener name =
    { c with hubs := changeHubs c.hubs (c.nameDropped name), listeners := listeners } := by
  unfold dropListener nameDropped
  split <;> rename_i e <;> rw [e] <;> exact ⟨_, rfl⟩

theorem addListener_eq (i : Nat) (name channel : String) (reading : Reading) (actions : List Action) :
    c.addListener i name channel reading actions =
      { c with
        hubs := changeHubs c.hubs ((i, .listen channel (.script name reading actions)) :: c.nameDropped name)
        listeners := c.listeners.insert name ⟨i, (c.hub i).ticket channel⟩ } := by
  obtain ⟨listeners, e⟩ := (c.register i channel (.script name reading actions)).1.dropListener_eq name
  simp only [addListener, e]
  rfl

theorem removeAll_eq (subscriptions : List Subscription) :
    subscriptions.foldl (fun c s => c.remove ⟨0, s⟩) c =
      { c with hubs := changeHubs c.hubs (dropAll subscriptions) } := by
  induction subscriptions generalizing c with
  | nil => rfl
  | cons s rest ih => exact ih _

theorem unsubscribeConnection_eq : c.unsubscribeConnection =
    { c with hubs := changeHubs c.hubs (dropAll c.subscriptions), subscriptions := [] } := by
  rw [unsubscribeConnection, removeAll_eq]

theorem subscribeAll_eq (channels : List (String × Handler)) :
    ∃ subscriptions, channels.foldl subscribeConnection c =
      { c with hubs := changeHubs c.hubs (listenAll channels), subscriptions := subscriptions } := by
  induction channels generalizing c with
  | nil => exact ⟨c.subscriptions, rfl⟩
  | cons channel rest ih => exact ih _

theorem startConnection_attach_eq (space : Uuid) :
    ∃ connection subscriptions, (c.startConnection (.attach space)).1 =
      { c with
        hubs := changeHubs c.hubs (dropAll c.subscriptions ++ listenAll connectionChannels)
        connection := connection
        subscriptions := subscriptions } := by
  let bound := (c.turnConnection c.connectionTicket (.start (.attach space))).1
  obtain ⟨subscriptions, e⟩ := bound.unsubscribeConnection.subscribeAll_eq connectionChannels
  refine ⟨bound.connection, subscriptions, e.trans ?_⟩
  rw [unsubscribeConnection_eq, changeHubs_append]
  rfl

theorem tidyConnection_eq : ∃ subscriptions, c.tidyConnection =
    { c with
      hubs := changeHubs c.hubs (if c.connectionAlive then [] else dropAll c.subscriptions)
      subscriptions := subscriptions } := by
  unfold tidyConnection
  split
  · exact ⟨_, rfl⟩
  · exact ⟨_, c.unsubscribeConnection_eq⟩

theorem endWait_eq (id receiver : Nat) (e : Option Event) :
    ∃ bus waits queue, (c.endWait id receiver e).1 = { c with bus := bus, waits := waits, queue := queue } := by
  simp only [endWait]
  split
  · exact ⟨c.bus, _, _, rfl⟩
  · unfold tidyReceiver
    split
    · exact ⟨c.bus, _, c.queue, rfl⟩
    · exact ⟨_, _, c.queue, rfl⟩

theorem receive_eq (receiver : Nat) : ∃ bus waits queue asleep, (c.receive receiver).1 =
    { c with bus := bus, waits := waits, queue := queue, asleep := asleep } := by
  unfold receive
  split
  · exact ⟨c.bus, c.waits, c.queue, c.asleep, rfl⟩
  · rename_i id _
    split
    · rename_i e bus _
      obtain ⟨bus', waits, queue, e⟩ := endWait_eq { c with bus := bus } id receiver e
      exact ⟨bus', waits, queue, c.asleep, e⟩
    · exact ⟨_, c.waits, c.queue, _, rfl⟩

theorem pump_eq (receiver left : Nat) : ∃ bus pumps asleep putOff new, c.pump receiver left =
    { c with bus := bus, pumps := pumps, asleep := asleep, putOff := putOff, agenda := new ++ c.agenda } := by
  unfold pump
  split
  · exact ⟨c.bus, c.pumps, c.asleep, c.putOff, [], rfl⟩
  · exact ⟨c.bus, c.pumps, c.asleep, _, [], rfl⟩
  · split
    · rename_i rest p _ _ e bus _
      let heard := hearings ((c.hub p.hub).on e.channel) ⟨p.hub, true⟩ e
      refine ⟨bus, c.pumps, c.asleep, c.putOff, heard ++ [.pump receiver rest], ?_⟩
      rw [List.append_assoc]
      rfl
    · exact ⟨_, c.pumps, c.asleep, c.putOff, [_], rfl⟩
    · exact ⟨_, c.pumps, _, c.putOff, [], rfl⟩
    · exact ⟨_, _, c.asleep, c.putOff, [], rfl⟩

theorem hear_eq (handler : Handler) (payload : Json) (scene : Scene) :
    ∃ connection queue new, (c.hear handler payload scene).1 =
      { c with connection := connection, queue := queue, agenda := new ++ c.agenda } := by
  cases handler with
  | status | progress | features =>
    simp only [hear]
    split
    · exact ⟨_, c.queue, [], rfl⟩
    · exact ⟨c.connection, c.queue, [], rfl⟩
  | changes =>
    simp only [hear]
    split
    · split
      · exact ⟨c.connection, _, [], rfl⟩
      · exact ⟨c.connection, c.queue, [], rfl⟩
    · exact ⟨c.connection, c.queue, [], rfl⟩
  | script name reading actions =>
    simp only [hear]
    split
    · exact ⟨c.connection, c.queue, _, rfl⟩
    · exact ⟨c.connection, c.queue, [], rfl⟩

/-- What the work of a client keeps to: more work goes on top of the agenda, and the hubs take these changes. -/
structure Keeps (c : Client) (changes : Changes) (c' : Client) : Prop where
  agenda : c.agenda <:+ c'.agenda
  hubs : c'.hubs = changeHubs c.hubs changes

theorem keeps_act (scene : Scene) (action : Action) : c.Keeps (action.changes c scene) (c.act scene action).1 := by
  cases action with
  | unsubscribe name =>
    obtain ⟨listeners, e⟩ := c.dropListener_eq name
    rw [act, e]
    exact ⟨List.suffix_rfl, rfl⟩
  | listen name channel reading actions =>
    rw [act, addListener_eq]
    exact ⟨List.suffix_rfl, rfl⟩
  | dispatch e => exact ⟨List.suffix_append _ _, rfl⟩
  | attach space =>
    obtain ⟨connection, subscriptions, e⟩ := c.startConnection_attach_eq space
    rw [act, e]
    exact ⟨List.suffix_rfl, rfl⟩
  | detach =>
    rw [act, detach, unsubscribeConnection_eq]
    exact ⟨List.suffix_rfl, rfl⟩

theorem keeps_perform (work : Work) : c.Keeps (work.changes c) (c.perform work).1 := by
  cases work with
  | hear handler payload scene =>
    obtain ⟨connection, queue, new, e⟩ := c.hear_eq handler payload scene
    rw [perform, e]
    exact ⟨List.suffix_append _ _, rfl⟩
  | act action scene => exact c.keeps_act scene action
  | answer ticket reply =>
    cases ticket with
    | connection id =>
      let turned := (c.turnConnection (.connection id) (.reply id reply)).1
      obtain ⟨subscriptions, e⟩ := turned.tidyConnection_eq
      show c.Keeps _ turned.tidyConnection
      rw [e]
      exact ⟨List.suffix_rfl, rfl⟩
    | registry id => exact ⟨List.suffix_rfl, rfl⟩
    | receive id => exact ⟨List.suffix_rfl, rfl⟩
  | refresh => exact ⟨List.suffix_rfl, rfl⟩
  | pump receiver left =>
    obtain ⟨bus, pumps, asleep, putOff, new, e⟩ := c.pump_eq receiver left
    rw [perform, e]
    exact ⟨List.suffix_append _ _, rfl⟩
  | receive receiver =>
    obtain ⟨bus, waits, queue, asleep, e⟩ := c.receive_eq receiver
    rw [perform, e]
    exact ⟨List.suffix_rfl, rfl⟩

/-! ## The agenda -/

section

variable {c}

/-- The piece of work on top of the agenda is done first. -/
theorem after_work {work : Work} {rest : List Work} (h : c.agenda = work :: rest) :
    c.after .work = ({ c with agenda := rest }.perform work).1 := by
  rw [after, step, h]
  rfl

/-- It comes off, and what it brings about goes on top of the rest. -/
theorem agenda_work {work : Work} {rest : List Work} (h : c.agenda = work :: rest) :
    rest <:+ (c.after .work).agenda := by
  rw [after_work h]
  exact (keeps_perform { c with agenda := rest } work).agenda

/-- Everything else that happens leaves the agenda in place. -/
theorem agenda_after {o : Moment} (h : o ≠ .work) : c.agenda <:+ (c.after o).agenda := by
  cases o with
  | work => exact absurd rfl h
  | listen i channel handler => exact List.suffix_rfl
  | drop p => exact List.suffix_rfl
  | dispatch scene e => exact List.suffix_append _ _
  | demand work => exact List.suffix_append _ _

end

/-! ## The hubs -/

/-- What a piece of work does to the hubs is not a matter of what else is due. -/
theorem changes_with (work : Work) (agenda queue : List Work) (turns : Nat) :
    work.changes { c with agenda := agenda, queue := queue, turns := turns } = work.changes c := by
  cases work with
  | act action scene => cases action <;> rfl
  | answer ticket reply => cases ticket <;> rfl
  | hear handler payload scene => rfl
  | refresh => rfl
  | pump receiver left => rfl
  | receive receiver => rfl

theorem hubs_after (o : Moment) : (c.after o).hubs = changeHubs c.hubs (o.changes c) := by
  cases o with
  | work =>
    simp only [after, step, Moment.changes]
    cases agenda : c.agenda with
    | cons next rest =>
      refine (keeps_perform { c with agenda := rest } next).hubs.trans ?_
      exact congrArg _ (c.changes_with next rest c.queue c.turns)
    | nil =>
      cases queue : c.queue with
      | cons next rest =>
        by_cases turn : c.turns < round
        · simp only [if_pos turn]
          refine (keeps_perform { c with agenda := [], queue := rest, turns := c.turns + 1 } next).hubs.trans ?_
          exact congrArg _ (c.changes_with next [] rest (c.turns + 1))
        · simp only [if_neg turn]
          rfl
      | nil =>
        by_cases begun : c.turns = 0
        · simp only [if_pos begun]
          rfl
        · simp only [if_neg begun]
          rfl
  | listen i channel handler => rfl
  | drop p => rfl
  | dispatch scene e => rfl
  | demand work => rfl

/-- Only the hub that a subscription is for looks at it. -/
theorem hub_remove (p : Place) (i : Nat) :
    (c.remove p).hub i = if p.hub = i then (c.hub i).unsubscribe p.subscription else c.hub i := by
  simp only [hub, remove, changeHub, List.getD_eq_getElem?_getD, List.getElem?_modify]
  split <;> cases c.hubs[i]? <;> rfl

/-- A hub changes in a run by what the run does to it. -/
theorem hub_run {i : Nat} (h : i < c.hubs.length) (os : List Moment) :
    (c.run os).hub i = (c.hub i).changed (c.history i os) := by
  induction os generalizing c with
  | nil => rfl
  | cons o os ih =>
    have length : i < (c.after o).hubs.length := by rwa [hubs_after, length_changeHubs]
    have first : (c.after o).hub i = (c.hub i).changed ((o.changes c).of i) := by
      rw [hub, hubs_after]
      exact getD_changeHubs h (o.changes c)
    refine (ih _ length).trans ?_
    rw [first, history, Hub.changed, Hub.changed, ← List.foldl_append]
    rfl

end Switchboard.Client
