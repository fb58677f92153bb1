import Switchboard.Proofs.Bus.Attempts
import Switchboard.Proofs.Client.Moments

/-!
# The next piece of work, and the dispatches that begin

At a moment for work either a piece of work is begun (`due?`) or nothing but a break is taken (`after_work_none`). A
dispatch begins when someone calls for it, when a listener or a pump does (`Moment.dispatches`); the moment then comes
down to it (`after_of_dispatches`). Listeners are called by dispatches alone: whatever else a piece of work puts on the
agenda is not for them (`adds_perform`).
-/

namespace Switchboard.Client

/-- The piece of work that is begun at a moment for work, and the client without it. -/
def due? (c : Client) : Option (Work × Client) :=
  match c.agenda, c.queue with
  | next :: rest, _ => some (next, { c with agenda := rest })
  | [], next :: rest => if c.turns < round then some (next, { c with queue := rest, turns := c.turns + 1 }) else none
  | [], [] => none

variable {c d : Client} {work : Work}

/-- Where a piece of work comes from: the agenda, or the queue if the agenda is done. -/
theorem due?_cases (h : c.due? = some (work, d)) :
    (∃ rest, c.agenda = work :: rest ∧ d = { c with agenda := rest }) ∨
    ∃ rest, c.agenda = [] ∧ c.queue = work :: rest ∧ c.turns < round ∧
      d = { c with queue := rest, turns := c.turns + 1 } := by
  cases agenda : c.agenda with
  | cons next rest =>
    simp only [due?, agenda, Option.some.injEq, Prod.mk.injEq] at h
    obtain ⟨rfl, rfl⟩ := h
    exact .inl ⟨rest, rfl, rfl⟩
  | nil =>
    cases queue : c.queue with
    | nil => simp [due?, agenda, queue] at h
    | cons next rest =>
      simp only [due?, agenda, queue, Option.ite_none_right_eq_some, Option.some.injEq, Prod.mk.injEq] at h
      obtain ⟨turn, rfl, rfl⟩ := h
      exact .inr ⟨rest, rfl, rfl, turn, rfl⟩

theorem after_work_some (h : c.due? = some (work, d)) : c.after .work = (d.perform work).1 := by
  rcases due?_cases h with ⟨rest, agenda, rfl⟩ | ⟨rest, agenda, queue, turn, rfl⟩
  · exact after_work agenda
  · simp only [after, step, agenda, queue, if_pos turn]
    rfl

theorem agenda_of_due?_none (h : c.due? = none) : c.agenda = [] := by
  cases agenda : c.agenda with
  | cons next rest => simp [due?, agenda] at h
  | nil => rfl

/-- If no piece of work is begun, there is a break or nothing to do. -/
theorem after_work_none (h : c.due? = none) : c.after .work = c.takeBreak ∨ c.after .work = c ∧ c.step = none := by
  have agenda := agenda_of_due?_none h
  cases queue : c.queue with
  | cons next rest =>
    have tired : ¬ c.turns < round := fun turn => by simp [due?, agenda, queue, turn] at h
    refine .inl ?_
    simp only [after, step, agenda, queue, if_neg tired]
    rfl
  | nil =>
    by_cases begun : c.turns = 0
    · have idle : c.step = none := by simp only [step, agenda, queue, if_pos begun]
      exact .inr ⟨by rw [after, idle]; rfl, idle⟩
    · refine .inl ?_
      simp only [after, step, agenda, queue, if_neg begun]
      rfl

theorem due?_of_agenda {rest : List Work} (h : c.agenda = work :: rest) :
    c.due? = some (work, { c with agenda := rest }) := by
  rw [due?, h]

theorem hubs_of_due? (h : c.due? = some (work, d)) : d.hubs = c.hubs := by
  rcases due?_cases h with ⟨rest, -, rfl⟩ | ⟨rest, -, -, -, rfl⟩ <;> rfl

/-- All work that a client has. -/
def works (c : Client) : List Work := c.agenda ++ c.queue ++ c.asleep ++ c.putOff

theorem perm_insert {α : Type} (first new last : List α) : (first ++ new ++ last).Perm (new ++ (first ++ last)) := by
  rw [← List.append_assoc]
  exact List.perm_append_comm.append_right last

/-- Work that is begun is taken from what there is. -/
theorem works_of_due? (h : c.due? = some (work, d)) : c.works.Perm (work :: d.works) := by
  rcases due?_cases h with ⟨rest, agenda, rfl⟩ | ⟨rest, agenda, queue, -, rfl⟩
  · rw [works, agenda]
    exact .refl _
  · show (c.agenda ++ c.queue ++ c.asleep ++ c.putOff).Perm (work :: (c.agenda ++ rest ++ c.asleep ++ c.putOff))
    rw [agenda, queue]
    exact .refl _

theorem works_takeBreak (c : Client) : c.takeBreak.works.Perm c.works := by
  show (c.agenda ++ (c.queue ++ c.putOff) ++ c.asleep ++ []).Perm (c.agenda ++ c.queue ++ c.asleep ++ c.putOff)
  rw [List.append_nil, ← List.append_assoc]
  exact (perm_insert _ _ _).trans List.perm_append_comm

/-! ## Dispatches -/

/-- The pump of a receiver. -/
def pump? (c : Client) (receiver : Nat) : Option Pump := c.pumps.find? fun p => p.receiver == receiver

/-- The event that a pump passes on at the next look. -/
def passes (c : Client) (receiver : Nat) : Nat → Option (Scene × Event)
  | 0 => none
  | _ + 1 => (c.pump? receiver).bind fun p => (c.bus.look receiver).1.event?.map fun e => (⟨p.hub, true⟩, e)

/-- The dispatch that begins with a piece of work, if one does. -/
def Work.dispatches (c : Client) : Work → Option (Scene × Event)
  | .act (.dispatch e) scene => some (scene, e)
  | .pump receiver left => c.passes receiver left
  | _ => none

/-- The dispatch that begins at a moment, if one does. -/
def Moment.dispatches (c : Client) : Moment → Option (Scene × Event)
  | .dispatch scene e => some (scene, e)
  | .work => c.due?.bind fun next => next.1.dispatches next.2
  | _ => none

variable {scene : Scene} {e : Event}

/-- A pump that is not there passes nothing on. -/
theorem pump_of_missing {receiver : Nat} (h : c.pump? receiver = none) (left : Nat) :
    c.pump receiver left = c ∧ c.passes receiver left = none := by
  have missing : c.pumps.find? (fun q => q.receiver == receiver) = none := h
  cases left with
  | zero => exact ⟨by simp only [pump, missing], rfl⟩
  | succ left =>
    refine ⟨by simp only [pump, missing], ?_⟩
    rw [passes, h]
    rfl

/-- A pump passes an event on, and goes on when that is done. -/
theorem pump_of_passes {receiver left : Nat} (h : c.passes receiver left = some (scene, e)) :
    ∃ p rest, c.pump? receiver = some p ∧ scene = ⟨p.hub, true⟩ ∧ left = rest + 1 ∧ c.pump receiver left =
      ({ c with bus := (c.bus.look receiver).2 }.first [.pump receiver rest]).dispatch scene e := by
  cases left with
  | zero => cases h
  | succ rest =>
    obtain ⟨p, found, h⟩ := Option.bind_eq_some_iff.mp h
    obtain ⟨e', event, h⟩ := Option.map_eq_some_iff.mp h
    cases h
    have look : c.bus.look receiver = (.event e, (c.bus.look receiver).2) := by
      generalize c.bus.look receiver = looked at event
      obtain ⟨f, bus⟩ := looked
      cases f <;> cases event
      rfl
    refine ⟨p, rest, found, rfl, rfl, ?_⟩
    rw [pump?] at found
    simp only [pump, found]
    rw [look]

/-- A dispatch begins on a client with the same hubs and more work at most. -/
theorem perform_of_dispatches (h : work.dispatches c = some (scene, e)) :
    ∃ d : Client, (c.perform work).1 = d.dispatch scene e ∧ d.hubs = c.hubs := by
  cases work with
  | act action scene' =>
    cases action with
    | dispatch e' =>
      cases h
      exact ⟨c, rfl, rfl⟩
    | unsubscribe | listen | attach | detach => cases h
  | pump receiver left =>
    obtain ⟨-, rest, -, -, rfl, pumped⟩ := pump_of_passes h
    exact ⟨_, pumped, rfl⟩
  | hear | answer | refresh | receive => cases h

theorem after_of_dispatches {o : Moment} (h : o.dispatches c = some (scene, e)) :
    ∃ d : Client, c.after o = d.dispatch scene e ∧ d.hubs = c.hubs := by
  cases o with
  | work =>
    obtain ⟨⟨work, d⟩, due, dispatch⟩ := Option.bind_eq_some_iff.mp h
    obtain ⟨d', begins, hubs⟩ := perform_of_dispatches dispatch
    exact ⟨d', (after_work_some due).trans begins, hubs.trans (hubs_of_due? due)⟩
  | dispatch scene' e' =>
    cases h
    exact ⟨c, rfl, rfl⟩
  | listen | drop | demand => cases h

/-! ## Hearings -/

/-- Whether a listener is to hear something. -/
def Work.isHearing : Work → Bool
  | .hear .. => true
  | _ => false

/-- Who hears the event of a dispatch. -/
def hearingsOf (c : Client) : Option (Scene × Event) → List Work
  | none => []
  | some (scene, e) => hearings ((c.hub scene.hub).on e.channel) scene e

/-- A client has the work of another, and new work: some hearings, and work that is no hearing. -/
def Adds (heard : List Work) (c d : Client) : Prop :=
  ∃ more, (∀ w ∈ more, w.isHearing = false) ∧ d.works.Perm (heard ++ more ++ c.works)

theorem adds_same (h : d.works = c.works) : Adds [] c d := ⟨[], List.forall_mem_nil _, h ▸ .refl _⟩

theorem adds_one {new : Work} (other : new.isHearing = false) (h : d.works.Perm (new :: c.works)) : Adds [] c d :=
  ⟨[new], List.forall_mem_singleton.mpr other, h⟩

theorem works_first (c : Client) (new : List Work) : (c.first new).works = new ++ c.works := by
  simp only [works, first, List.append_assoc]

theorem works_queue (c : Client) (new : Work) : { c with queue := c.queue ++ [new] }.works.Perm (new :: c.works) := by
  have all : c.works = c.agenda ++ c.queue ++ (c.asleep ++ c.putOff) := List.append_assoc _ _ _
  show (c.agenda ++ (c.queue ++ [new]) ++ c.asleep ++ c.putOff).Perm _
  rw [all, ← List.append_assoc, List.append_assoc _ c.asleep]
  exact perm_insert _ [new] _

theorem works_asleep (c : Client) (new : Work) :
    { c with asleep := c.asleep ++ [new] }.works.Perm (new :: c.works) := by
  show (c.agenda ++ c.queue ++ (c.asleep ++ [new]) ++ c.putOff).Perm _
  rw [works, ← List.append_assoc]
  exact perm_insert _ [new] _

theorem works_putOff (c : Client) (new : Work) : { c with putOff := new :: c.putOff }.works.Perm (new :: c.works) :=
  List.perm_middle

theorem adds_hear (handler : Handler) (payload : Json) (scene : Scene) :
    Adds [] c (c.hear handler payload scene).1 := by
  cases handler with
  | status | progress | features =>
    simp only [hear]
    split <;> exact adds_same rfl
  | changes =>
    simp only [hear]
    split
    · split
      · exact adds_one rfl (works_queue c .refresh)
      · exact adds_same rfl
    · exact adds_same rfl
  | script name reading actions =>
    simp only [hear]
    split
    · refine ⟨actions.map fun a => .act a scene, fun w mem => ?_, ?_⟩
      · obtain ⟨a, -, rfl⟩ := List.mem_map.mp mem
        rfl
      · rw [works_first]
        exact .refl _
    · exact adds_same rfl

theorem adds_dispatch (c : Client) (scene : Scene) (e : Event) :
    Adds (c.hearingsOf (some (scene, e))) c (c.dispatch scene e) := by
  refine ⟨[], List.forall_mem_nil _, ?_⟩
  rw [List.append_nil]
  exact .of_eq (works_first c _)

theorem adds_act (scene : Scene) (action : Action) :
    Adds (c.hearingsOf ((Work.act action scene).dispatches c)) c (c.act scene action).1 := by
  cases action with
  | unsubscribe name =>
    obtain ⟨listeners, e⟩ := c.dropListener_eq name
    rw [act, e]
    exact adds_same rfl
  | listen name channel reading actions =>
    rw [act, addListener_eq]
    exact adds_same rfl
  | dispatch e => exact adds_dispatch c scene e
  | attach space =>
    obtain ⟨connection, subscriptions, e⟩ := c.startConnection_attach_eq space
    rw [act, e]
    exact adds_same rfl
  | detach =>
    rw [act, detach, unsubscribeConnection_eq]
    exact adds_same rfl

theorem adds_pump (receiver left : Nat) : Adds (c.hearingsOf (c.passes receiver left)) c (c.pump receiver left) := by
  cases found : c.pump? receiver with
  | none =>
    obtain ⟨same, silent⟩ := pump_of_missing found left
    rw [same, silent]
    exact adds_same rfl
  | some p =>
    have running : c.pumps.find? (fun q => q.receiver == receiver) = some p := found
    cases left with
    | zero =>
      simp only [pump, running]
      exact adds_one rfl (works_putOff c _)
    | succ left =>
      rw [passes, found, Option.bind_some]
      simp only [pump, running]
      generalize c.bus.look receiver = looked
      obtain ⟨f, bus⟩ := looked
      cases f with
      | event e =>
        refine ⟨[.pump receiver left], List.forall_mem_singleton.mpr rfl, ?_⟩
        show (({ c with bus := bus }.first [.pump receiver left]).dispatch ⟨p.hub, true⟩ e).works.Perm _
        rw [Client.dispatch, works_first, works_first, List.append_assoc]
        exact .refl _
      | missed count => exact adds_one rfl (.of_eq (works_first _ _))
      | nothing => exact adds_one rfl (works_asleep c _)
      | closed => exact adds_same rfl

theorem adds_endWait (id receiver : Nat) (e : Option Event) : Adds [] c (c.endWait id receiver e).1 := by
  simp only [endWait]
  split
  · exact adds_one rfl (works_queue c _)
  · unfold tidyReceiver
    split <;> exact adds_same rfl

theorem adds_receive (receiver : Nat) : Adds [] c (c.receive receiver).1 := by
  unfold receive
  split
  · exact adds_same rfl
  · split
    next bus _ => exact adds_endWait (c := { c with bus := bus }) _ receiver _
    next => exact adds_one rfl (works_asleep c _)

/-- **New hearings** come of dispatches alone. -/
theorem adds_perform (c : Client) (work : Work) : Adds (c.hearingsOf (work.dispatches c)) c (c.perform work).1 := by
  cases work with
  | hear handler payload scene => exact adds_hear handler payload scene
  | act action scene => exact adds_act scene action
  | answer ticket reply =>
    cases ticket with
    | connection id =>
      let turned := (c.turnConnection (.connection id) (.reply id reply)).1
      obtain ⟨subscriptions, e⟩ := turned.tidyConnection_eq
      show Adds _ c turned.tidyConnection
      rw [e]
      exact adds_same rfl
    | registry id => exact adds_same rfl
    | receive id => exact adds_same rfl
  | refresh => exact adds_same rfl
  | pump receiver left => exact adds_pump receiver left
  | receive receiver => exact adds_receive receiver

end Switchboard.Client
