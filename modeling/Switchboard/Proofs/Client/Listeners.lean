import Switchboard.Proofs.Client.Delivery
import Switchboard.Proofs.Client.Ownership

/-!
# What the connection store hears

The connection store takes in what its listeners hear, what it is called for and the replies to its calls, and nothing
else (`connection_run`). Its listeners hear an event when a dispatch on one of its channels begins while it is bound,
and then one of them hears it once. So over a whole run, what was handed to the store and what is still to come is what
was dispatched for it (`perm_run`). Main statement: `listeners_not_leaked`.
-/

namespace Switchboard.Client

open Connection (Adjustment Operation)

variable {c d : Client} {work : Work}

/-! ## What the store takes in -/

/-- What a listener of the store hands to it, if it understands the payload. -/
def Handler.adjustment? : Handler → Json → Option Adjustment
  | .status, payload => (StatusChanged.decode payload).toOption.map .status
  | .progress, payload => (AuthProgress.decode payload).toOption.map .progress
  | .features, payload => (Features.decode payload).toOption.map .features
  | .changes, _ | .script .., _ => none

/-- What a piece of work hands to the store of what is heard. -/
def Work.hands : Work → Option Adjustment
  | .hear handler payload _ => handler.adjustment? payload
  | _ => none

/-- What the store takes in by a piece of work. -/
def Work.occurrences : Work → List (Occurrence Operation Backend.Reply Adjustment)
  | .hear handler payload _ => (handler.adjustment? payload).toList.map .adjust
  | .act (.attach space) _ => [.start (.attach space)]
  | .act .detach _ => [.adjust .unbind]
  | .answer (.connection id) reply => [.reply id reply]
  | _ => []

/-- What the store takes in at a moment. -/
def Moment.occurrences (c : Client) : Moment → List (Occurrence Operation Backend.Reply Adjustment)
  | .work => (c.due?.map fun next => next.1.occurrences).getD []
  | _ => []

/-- What the store takes in in a run. -/
def occurrences : Client → List Moment → List (Occurrence Operation Backend.Reply Adjustment)
  | _, [] => []
  | c, o :: os => o.occurrences c ++ occurrences (c.after o) os

theorem hear_of_adjustment {handler : Handler} {payload : Json} {a : Adjustment}
    (h : handler.adjustment? payload = some a) (scene : Scene) :
    c.hear handler payload scene = (c.adjustConnection a, []) := by
  cases handler with
  | status | progress | features =>
    obtain ⟨e, decoded, rfl⟩ := Option.map_eq_some_iff.mp h
    simp only [hear]
    split
    next e' read =>
      rw [read] at decoded
      cases decoded
      rfl
    next fault read =>
      rw [read] at decoded
      cases decoded
  | changes | script => cases h

theorem connection_hear {handler : Handler} {payload : Json} (h : handler.adjustment? payload = none) (scene : Scene) :
    (c.hear handler payload scene).1.connection = c.connection := by
  cases handler with
  | status | progress | features =>
    have fault := Option.map_eq_none_iff.mp h
    simp only [hear]
    split
    next e read =>
      rw [read] at fault
      cases fault
    next => rfl
  | changes =>
    simp only [hear]
    split
    · split <;> rfl
    · rfl
  | script name reading actions =>
    simp only [hear]
    split <;> rfl

/-- **What a piece of work does to the store.** -/
theorem connection_perform (c : Client) (work : Work) :
    (c.perform work).1.connection = c.connection.run Connection.behaviour work.occurrences := by
  cases work with
  | hear handler payload scene =>
    rw [perform, Work.occurrences]
    cases taken : handler.adjustment? payload with
    | none => exact connection_hear taken scene
    | some a =>
      rw [hear_of_adjustment taken]
      rfl
  | act action scene =>
    cases action with
    | unsubscribe name =>
      obtain ⟨listeners, e⟩ := c.dropListener_eq name
      rw [perform, act, e]
      rfl
    | listen name channel reading actions =>
      rw [perform, act, addListener_eq]
      rfl
    | dispatch e => rfl
    | attach space => exact connection_attach c space
    | detach => exact connection_detach c
  | answer ticket reply =>
    cases ticket with
    | connection id =>
      let turned := (c.turnConnection (.connection id) (.reply id reply)).1
      obtain ⟨subscriptions, e⟩ := turned.tidyConnection_eq
      show turned.tidyConnection.connection = _
      rw [e]
      rfl
    | registry id => rfl
    | receive id => rfl
  | refresh => rfl
  | pump receiver left =>
    obtain ⟨bus, pumps, asleep, putOff, new, e⟩ := c.pump_eq receiver left
    rw [perform, e]
    rfl
  | receive receiver =>
    obtain ⟨bus, waits, queue, asleep, e⟩ := c.receive_eq receiver
    rw [perform, e]
    rfl

theorem connection_of_due? (h : c.due? = some (work, d)) : d.connection = c.connection := by
  rcases due?_cases h with ⟨rest, -, rfl⟩ | ⟨rest, -, -, -, rfl⟩ <;> rfl

theorem connection_after (c : Client) (o : Moment) :
    (c.after o).connection = c.connection.run Connection.behaviour (o.occurrences c) := by
  cases o with
  | work =>
    rw [Moment.occurrences]
    cases due : c.due? with
    | none =>
      rcases after_work_none due with rests | ⟨rests, -⟩ <;> rw [rests] <;> rfl
    | some next =>
      obtain ⟨work, d⟩ := next
      rw [after_work_some due, connection_perform, connection_of_due? due]
      rfl
  | listen | drop | dispatch | demand => rfl

/-- **What a run does to the store.** -/
theorem connection_run (c : Client) (os : List Moment) :
    (c.run os).connection = c.connection.run Connection.behaviour (occurrences c os) := by
  induction os generalizing c with
  | nil => rfl
  | cons o os ih =>
    show ((c.after o).run os).connection = _
    rw [ih, connection_after, occurrences, Flight.run_append]

/-! ## What its listeners hear -/

/-- The listener of the store on a channel. -/
def listener? (channel : String) : Option (String × Handler) := connectionChannels.find? fun ch => ch.1 == channel

theorem filter_connectionChannels (channel : String) :
    connectionChannels.filter (fun ch => ch.1 == channel) = (listener? channel).toList := by
  by_cases status : channel = Channel.statusChanged
  · subst status
    rfl
  by_cases progress : channel = Channel.authProgress
  · subst progress
    rfl
  by_cases features : channel = Channel.featuresUpdated
  · subst features
    rfl
  simp [listener?, connectionChannels, Ne.symm status, Ne.symm progress, Ne.symm features]

theorem listener?_of_mem {channel : String} {handler : Handler} (h : (channel, handler) ∈ connectionChannels) :
    listener? channel = some (channel, handler) := by
  simp only [connectionChannels, List.mem_cons, Prod.mk.injEq, List.not_mem_nil, or_false] at h
  rcases h with ⟨rfl, rfl⟩ | ⟨rfl, rfl⟩ | ⟨rfl, rfl⟩ <;> rfl

/-- What the store hears of a dispatch. -/
def ownHearings (bound : Bool) (scene : Scene) (e : Event) : List Work :=
  if scene.hub = 0 ∧ bound = true then
    (listener? e.channel).toList.map fun ch => .hear ch.2 e.payload scene
  else []

theorem filter_hearings (h : c.Owns) (scene : Scene) (e : Event) :
    (hearings ((c.hub scene.hub).on e.channel) scene e).filter Work.isOwn = ownHearings c.bound scene e := by
  have own : (hearings ((c.hub scene.hub).on e.channel) scene e).filter Work.isOwn =
      (((ownListeners (c.hub scene.hub)).map fun l => (l.subscription.channel, l.handler)).filter
        fun ch => ch.1 == e.channel).map fun ch => .hear ch.2 e.payload scene := by
    rw [hearings, List.filter_map, List.filter_map, List.map_map, Hub.on, ownListeners, List.filter_filter,
      List.filter_filter]
    exact congrArg _ (List.filter_congr fun l _ => Bool.and_comm _ _)
  rw [own, ownHearings]
  by_cases first : scene.hub = 0
  · rw [first, h.listens.own]
    cases bound : c.bound with
    | true => rw [if_pos rfl, if_pos ⟨rfl, rfl⟩, filter_connectionChannels]
    | false =>
      rw [if_neg Bool.false_ne_true, if_neg fun both => Bool.false_ne_true both.2]
      rfl
  · rw [h.listens.elsewhere _ first, if_neg fun both => first both.1]
    rfl

/-! ## Over a whole run -/

/-- What was heard, of what the store takes in. -/
def heard? : Occurrence Operation Backend.Reply Adjustment → Option Adjustment
  | .adjust (.status e) => some (.status e)
  | .adjust (.progress e) => some (.progress e)
  | .adjust (.features e) => some (.features e)
  | _ => none

/-- What was handed to the store in a run by its listeners. -/
def handed (c : Client) (os : List Moment) : List Adjustment := (occurrences c os).filterMap heard?

/-- What its listeners are still to hand to the store. -/
def owed (c : Client) : List Adjustment := c.works.filterMap Work.hands

/-- What a dispatch is for the store: an event that a listener of its own understands, if it is bound. -/
def offer (bound : Bool) : Option (Scene × Event) → List Adjustment
  | none => []
  | some (scene, e) =>
    if scene.hub = 0 ∧ bound = true then
      ((listener? e.channel).bind fun ch => ch.2.adjustment? e.payload).toList
    else []

/-- What is dispatched for the store at a moment. -/
def Moment.offers (c : Client) (o : Moment) : List Adjustment := offer c.bound (o.dispatches c)

/-- What is dispatched for the store in a run. -/
def offered : Client → List Moment → List Adjustment
  | _, [] => []
  | c, o :: os => o.offers c ++ offered (c.after o) os

theorem hands_eq_none (h : work.isOwn = false) : work.hands = none := by
  cases work with
  | hear handler payload scene =>
    cases handler with
    | status | progress | features => cases h
    | changes | script => rfl
  | act | answer | refresh | pump | receive => rfl

theorem hands_hearings (h : c.Owns) (scene : Scene) (e : Event) :
    (hearings ((c.hub scene.hub).on e.channel) scene e).filterMap Work.hands = offer c.bound (some (scene, e)) := by
  have own : ∀ works : List Work, works.filterMap Work.hands = (works.filter Work.isOwn).filterMap Work.hands := by
    intro works
    rw [List.filterMap_filter]
    refine List.filterMap_congr fun work _ => ?_
    split
    · rfl
    next other => exact hands_eq_none (Bool.eq_false_iff.mpr other)
  rw [own, filter_hearings h, ownHearings, offer]
  split
  · cases listener? e.channel with
    | none => rfl
    | some ch =>
      show List.filterMap Work.hands [.hear ch.2 e.payload scene] = (ch.2.adjustment? e.payload).toList
      cases taken : ch.2.adjustment? e.payload with
      | none => exact List.filterMap_cons_none taken
      | some a => exact List.filterMap_cons_some taken
  · rfl

theorem heard_occurrences (work : Work) : work.occurrences.filterMap heard? = work.hands.toList := by
  cases work with
  | hear handler payload scene =>
    show ((handler.adjustment? payload).toList.map Occurrence.adjust).filterMap heard? = _
    cases handler with
    | status | progress | features =>
      cases taken : Handler.adjustment? _ payload with
      | none => rw [Work.hands, taken]; rfl
      | some a =>
        obtain ⟨e, -, rfl⟩ := Option.map_eq_some_iff.mp taken
        rw [Work.hands, taken]
        rfl
    | changes | script => rfl
  | act action scene => cases action <;> rfl
  | answer ticket reply => cases ticket <;> rfl
  | refresh | pump | receive => rfl

/-- What is still to be handed over after work that a dispatch brings about, or none. -/
theorem owed_of_adds {dispatch : Option (Scene × Event)} (h : c.Owns) (adds : Adds (c.hearingsOf dispatch) c d) :
    (owed d).Perm (offer c.bound dispatch ++ owed c) := by
  obtain ⟨more, others, works⟩ := adds
  have none : more.filterMap Work.hands = [] := List.filterMap_eq_nil_iff.mpr fun w mem => by
    cases w with
    | hear => cases others _ mem
    | act | answer | refresh | pump | receive => rfl
  refine (works.filterMap Work.hands).trans (.of_eq ?_)
  rw [List.filterMap_append, List.filterMap_append, none, List.append_nil]
  cases dispatch with
  | none => rfl
  | some dispatch => exact congrArg (· ++ owed c) (hands_hearings h dispatch.1 dispatch.2)

/-- **One moment**: what is handed over was owed, and what is dispatched is owed. -/
theorem perm_after {o : Moment} (h : c.Owns) (orderly : o.Orderly c) :
    ((o.occurrences c).filterMap heard? ++ owed (c.after o)).Perm (owed c ++ o.offers c) := by
  cases o with
  | work =>
    rw [Moment.occurrences, Moment.offers, Moment.dispatches]
    cases due : c.due? with
    | none =>
      show (owed (c.after .work)).Perm (owed c ++ [])
      rw [List.append_nil]
      rcases after_work_none due with rests | ⟨rests, -⟩
      · rw [rests]
        exact (works_takeBreak c).filterMap Work.hands
      · rw [rests]
    | some next =>
      obtain ⟨work, d⟩ := next
      have same : d.bound = c.bound := by rw [bound, bound, connection_of_due? due]
      have owns : d.Owns := by
        rcases due?_cases due with ⟨rest, -, rfl⟩ | ⟨rest, -, -, -, rfl⟩ <;> exact owns_of_same h rfl rfl rfl rfl rfl
      have taken : (owed c).Perm (work.hands.toList ++ owed d) := by
        refine ((works_of_due? due).filterMap Work.hands).trans (.of_eq ?_)
        cases hands : work.hands with
        | none => exact List.filterMap_cons_none hands
        | some a => exact List.filterMap_cons_some hands
      have added := owed_of_adds owns (adds_perform d work)
      rw [same] at added
      show (work.occurrences.filterMap heard? ++ _).Perm _
      rw [heard_occurrences, after_work_some due]
      refine (added.append_left _).trans (.trans ?_ (taken.symm.append_right _))
      rw [List.append_assoc]
      exact List.perm_append_comm.append_left _
  | listen | drop => exact .of_eq (List.append_nil _).symm
  | dispatch scene e => exact (owed_of_adds h (adds_dispatch c scene e)).trans List.perm_append_comm
  | demand work =>
    show (owed (c.first [work])).Perm (owed c ++ [])
    rw [List.append_nil, owed, works_first]
    exact .of_eq (List.filterMap_cons_none (hands_eq_none orderly))

/-- **A run.** What was handed to the store, and what is still to come, is what was to come and what was dispatched. -/
theorem perm_run {os : List Moment} (h : c.Owns) (orderly : Orderly c os) :
    (handed c os ++ owed (c.run os)).Perm (owed c ++ offered c os) := by
  induction os generalizing c with
  | nil => exact .of_eq (List.append_nil _).symm
  | cons o os ih =>
    have rest := ih (h.after orderly.1) orderly.2
    rw [handed, occurrences, List.filterMap_append, List.append_assoc, offered, ← List.append_assoc (owed c)]
    refine (rest.append_left _).trans ?_
    rw [← List.append_assoc]
    exact (perm_after h orderly.1).append_right _

/-! ## Runs from the start -/

/-- The connection store was never bound: none of its listeners is registered or called, and nobody has a number that a
listener of its own may get. -/
structure Unattached (c : Client) : Prop where
  owned : c.connectionOwned = true
  unbound : c.bound = false
  subscriptions : c.subscriptions = []
  first : 0 < c.hubs.length
  made : ∃ past, c.hub 0 = Hub.made past
  others : ∀ i, ∀ l ∈ (c.hub i).listeners, l.handler.isOwn = false
  named : ∀ name p, c.listeners.get? name = some p → p.hub = 0 → p.subscription.id < (c.hub 0).registered
  idle : ∀ w ∈ c.works, w.isOwn = false

theorem Unattached.owns (h : c.Unattached) : c.Owns := by
  have none : ∀ i, ownListeners (c.hub i) = [] := fun i =>
    List.filter_eq_nil_iff.mpr fun l mem => Bool.eq_false_iff.mp (h.others i l mem)
  refine ⟨h.owned, ?_⟩
  rw [h.unbound]
  refine ⟨h.first, ?_, ?_, ?_, fun i _ => none i, fun name p found first => ⟨h.named name p found first, ?_⟩⟩
  · obtain ⟨past, made⟩ := h.made
    rw [made]
    exact Hub.ordered_made past
  · rw [none]
    rfl
  · rw [none, h.subscriptions]
    rfl
  · rw [h.subscriptions]
    exact List.not_mem_nil

theorem Unattached.owed (h : c.Unattached) : c.owed = [] :=
  List.filterMap_eq_nil_iff.mpr fun w mem => hands_eq_none (h.idle w mem)

/-- To call a store is two moments: the call is made, and it is carried out at once. -/
theorem after_call (c : Client) (action : Action) (scene : Scene) :
    (c.after (.demand (.act action scene))).after .work = (c.act scene action).1 :=
  after_work (c := c.first [.act action scene]) rfl

/-- **No leaked or duplicate listeners.** At every moment of a run the connection store has one listener on each of its
channels if it is bound, and none if it is not; a call that binds or unbinds it leaves all other listeners as they are.
An event that is dispatched on one of its channels while it is bound is heard by its listener there, once, and what
that understands is taken in by the store. So what was handed to the store in the whole run, with what is still to
come, is what was dispatched for it. -/
theorem listeners_not_leaked {c : Client} {os : List Moment} (start : c.Unattached) (orderly : Orderly c os) :
    ((c.run os).Owns ∧
      (∀ action scene, ((c.run os).after (.demand (.act action scene))).after .work = ((c.run os).act scene action).1) ∧
      (∀ scene space, let d := ((c.run os).act scene (.attach space)).1
        d.Owns ∧ d.bound = true ∧ (c.run os).SameOthers d) ∧
      ∀ scene, let d := ((c.run os).act scene .detach).1
        d.Owns ∧ d.bound = false ∧ (c.run os).SameOthers d) ∧
    (∀ before o later scene e handler a, os = before ++ o :: later → o.dispatches (c.run before) = some (scene, e) →
      scene.hub = 0 → (c.run before).bound = true → (e.channel, handler) ∈ connectionChannels →
      handler.adjustment? e.payload = some a →
      ∃ d : Client, (c.run before).after o = d.dispatch scene e ∧ d.Delivers scene e later ∧
        (hearings ((d.hub scene.hub).on e.channel) scene e).filter Work.isOwn = [.hear handler e.payload scene] ∧
        ∀ later : Client, later.perform (.hear handler e.payload scene) = (later.adjustConnection a, [])) ∧
    (c.run os).connection = c.connection.run Connection.behaviour (occurrences c os) ∧
    (handed c os ++ (c.run os).owed).Perm (offered c os) := by
  have owns := start.owns.run orderly
  refine ⟨⟨owns, after_call _, fun _ space => owns.attach space, fun _ => owns.detach⟩, ?_, connection_run c os, ?_⟩
  · intro before o later scene e handler a split dispatches first bound own understood
    obtain ⟨d, begins, hubs⟩ := after_of_dispatches dispatches
    rw [split] at orderly
    have heard := filter_hearings (start.owns.run (orderly_of_append orderly)) scene e
    rw [bound, ownHearings, if_pos ⟨first, rfl⟩, listener?_of_mem own] at heard
    refine ⟨d, begins, delivers d scene e later, ?_, fun _ => hear_of_adjustment understood scene⟩
    rw [hub, hubs]
    exact heard
  · have all := perm_run start.owns orderly
    rwa [start.owed] at all

/-- A tick of a countdown. -/
def tick : AuthProgress := ⟨.nil, "server", 7, 1⟩

/-- Before the store hears of a countdown another listener binds it anew, unbinds it and binds it again. -/
def rebinder : Client :=
  Client.addListener { bus := { room := 1 } } 0 "a" Channel.authProgress .anything [.attach .nil, .detach, .attach .nil]

/-- The store is bound, then the event is dispatched. -/
def rebinding : List Moment :=
  .demand (.act (.attach .nil) ⟨0, true⟩) :: .work :: .dispatch ⟨0, true⟩ tick.event :: List.replicate 5 .work

theorem unattached_rebinder : rebinder.Unattached where
  owned := rfl
  unbound := rfl
  subscriptions := rfl
  first := Nat.one_pos
  made := ⟨[.listen _ _], rfl⟩
  others i l mem := by
    cases i with
    | zero =>
      cases List.mem_singleton.mp mem
      rfl
    | succ i => cases mem
  named name p found first := by
    change ((KeyMap.empty.insert "a" ⟨0, ⟨Channel.authProgress, 0⟩⟩).get? name) = some p at found
    rw [KeyMap.get?_insert] at found
    split at found <;> cases found
    exact Nat.one_pos
  idle := List.forall_mem_nil _

/-- The tick is handed to the store once, by a listener that is no longer registered then. -/
theorem rebound_store_hears_once :
    rebinder.Unattached ∧ Orderly rebinder rebinding ∧ (rebinder.run rebinding).Owns ∧
    (handed rebinder rebinding ++ (rebinder.run rebinding).owed).Perm (offered rebinder rebinding) ∧
    handed rebinder rebinding = [.progress tick] := by
  have orderly : Orderly rebinder rebinding :=
    ⟨rfl, trivial, trivial, trivial, trivial, trivial, trivial, trivial, trivial⟩
  obtain ⟨⟨owns, -⟩, -, -, perm⟩ := listeners_not_leaked unattached_rebinder orderly
  exact ⟨unattached_rebinder, orderly, owns, perm, rfl⟩

end Switchboard.Client
