import Switchboard.Proofs.Client.Pump

/-!
# Only overwritten events are lost

A receiver of a bus gets the events that are emitted after it subscribed, in their order and each at most once, but for
those that were overwritten before it came to them; and it gets none only if there is none (`Bus.Serves`). A pump
dispatches what its receiver gets, one event after the other, and if it keeps up it dispatches all (`Client.Forwards`).
-/

namespace Switchboard

open Bus (LosesOnlyOverwritten nextPlace)

namespace Bus

variable {bus : Bus} {log : List Event} {id : Nat} {ms : List Move}

/-- What a receiver gets of the events that are emitted after a log. -/
structure Serves (bus : Bus) (id : Nat) (log : List Event) (ms : List Move) : Prop where
  inOrder : (yields id bus ms).Sublist (emissions ms)
  events : (receipts id bus ms).map Receipt.event = yields id bus ms
  overwritten : LosesOnlyOverwritten bus.room (log ++ emissions ms) log.length (receipts id bus ms)
  /-- What is left is kept, and comes after all that it got. -/
  unread : (bus.run ms).unread id = (log ++ emissions ms).drop
    (max (nextPlace log.length (receipts id bus ms)) ((log ++ emissions ms).length - bus.room))
  /-- Its next attempt fails only if there is nothing left. -/
  tryReceive : ((bus.run ms).tryReceive id).1 = none ↔ (bus.run ms).unread id = []
  /-- It learns that there will be nothing more only if there is nothing left and the bus is closed. -/
  receive : ((bus.run ms).receive id).1 = .ends none ↔ (bus.run ms).closed = true ∧ (bus.run ms).unread id = []

theorem tryReceive_eq_none (bus : Bus) (id : Nat) : (bus.tryReceive id).1 = none ↔ bus.unread id = [] := by
  rw [tryReceive_eq]
  cases bus.unread id with
  | nil => exact iff_of_true rfl rfl
  | cons e later => simp

theorem receive_eq_ends_none (bus : Bus) (id : Nat) :
    (bus.receive id).1 = .ends none ↔ bus.closed = true ∧ bus.unread id = [] := by
  rw [receive_eq]
  cases bus.unread id with
  | nil =>
    cases bus.closed with
    | false => simp
    | true => exact iff_of_true rfl ⟨rfl, rfl⟩
  | cons e later => simp

theorem Sound.serves (h : bus.Sound log) (at_ : bus.position? id = some log.length) (stays : .drop id ∉ ms) :
    bus.Serves id log ms := by
  have all : bus.log ms = emissions ms := log_eq_emissions (Option.isSome_iff_exists.mpr ⟨_, at_⟩) stays
  have overwritten := losesOnlyOverwritten_run h at_ stays
  have left := unread_run h at_ stays
  rw [all] at overwritten left
  have inOrder := overwritten.sublist
  rw [map_event_receipts, List.drop_left] at inOrder
  exact ⟨inOrder, map_event_receipts id bus ms, overwritten, left, tryReceive_eq_none _ id, receive_eq_ends_none _ id⟩

end Bus

namespace Client

variable {p : Pump} {log : List Event} {c : Client} {ss : List Stroke}

/-- What a pump does with the events that are emitted after a log. -/
structure Forwards (p : Pump) (log : List Event) (c : Client) (ss : List Stroke) : Prop where
  /-- It dispatches what its receiver gets, by these moves of the bus. -/
  followed : ∃ ms, Followed p log c ss ms
  inOrder : (pumped p.receiver c ss).Sublist (emissions ss)
  events : (receipts p.receiver c ss).map Bus.Receipt.event = pumped p.receiver c ss
  overwritten : LosesOnlyOverwritten c.bus.room (log ++ emissions ss) log.length (receipts p.receiver c ss)
  /-- It dispatches to its hub, and goes on with its work only when all that its dispatch brought about is done. -/
  dispatches : ∀ before s later scene e, ss = before ++ s :: later →
    s.pumps p.receiver (c.strikes before) = some (scene, e) →
    scene = ⟨p.hub, true⟩ ∧ ∃ left rest,
      (c.strikes (before ++ [s])).agenda =
        hearings (((c.strikes before).hub p.hub).on e.channel) scene e ++ .pump p.receiver left :: rest ∧
      ∀ mid t after again, later = mid ++ t :: after →
        t.pumps p.receiver (c.strikes (before ++ s :: mid)) = some again →
        ∃ done more, mid = done ++ more ∧
          (c.strikes (before ++ s :: done)).agenda = .pump p.receiver left :: rest
  /-- If it keeps up it leaves nothing out, and it has dispatched all when there is nothing to do. -/
  complete : KeepsUp p.receiver c ss → pumped p.receiver c ss <+: emissions ss ∧
    ((c.strikes ss).step = none → pumped p.receiver c ss = emissions ss)

theorem Runs.pumped_eq {ms : List Bus.Move} (h : Runs p log 1 c) (followed : Followed p log c ss ms)
    (at_ : c.bus.position? p.receiver = some log.length) (keeps : KeepsUp p.receiver c ss) :
    ∃ reached, (c.bus.run ms).position? p.receiver = some reached ∧ log.length ≤ reached ∧
      pumped p.receiver c ss = (emissions ss).take (reached - log.length) := by
  obtain ⟨reached, at_', le, yields⟩ := Bus.yields_of_keepsUp h.sound at_ followed.stays (followed.keeps keeps)
  rw [Bus.log_eq_emissions h.there followed.stays, followed.emissions, List.drop_left, ← Bus.map_event_receipts,
    followed.receipts, map_event_receipts] at yields
  exact ⟨reached, at_', le, yields⟩

theorem Runs.complete (h : Runs p log 1 c) (room : 0 < c.bus.room)
    (at_ : c.bus.position? p.receiver = some log.length) (respected : Respected p.receiver c ss)
    (keeps : KeepsUp p.receiver c ss) : pumped p.receiver c ss <+: emissions ss ∧
      ((c.strikes ss).step = none → pumped p.receiver c ss = emissions ss) := by
  obtain ⟨ms, followed⟩ := h.followed respected
  obtain ⟨reached, at_', le, pumped⟩ := h.pumped_eq followed at_ keeps
  rw [pumped]
  refine ⟨List.take_prefix _ _, fun idle => List.take_of_length_le ?_⟩
  have drained : (c.bus.run ms).unread p.receiver = [] := by
    rcases followed.ends with ⟨runs, bus⟩ | ⟨drained, -⟩
    · rw [← bus]
      exact runs.drained_of_idle idle
    · exact drained
  have last := (h.sound.run ms).position_eq (by rwa [Bus.room_run]) at_' drained
  rw [Bus.log_eq_emissions h.there followed.stays, followed.emissions, List.length_append] at last
  omega

theorem Runs.dispatches {before later : List Stroke} {s : Stroke} {scene : Scene} {e : Event} (h : Runs p log 1 c)
    (respected : Respected p.receiver c (before ++ s :: later))
    (pumps : s.pumps p.receiver (c.strikes before) = some (scene, e)) :
    scene = ⟨p.hub, true⟩ ∧ ∃ left rest,
      (c.strikes (before ++ [s])).agenda =
        hearings (((c.strikes before).hub p.hub).on e.channel) scene e ++ .pump p.receiver left :: rest ∧
      ∀ mid t after again, later = mid ++ t :: after →
        t.pumps p.receiver (c.strikes (before ++ s :: mid)) = some again →
        ∃ done more, mid = done ++ more ∧
          (c.strikes (before ++ s :: done)).agenda = .pump p.receiver left :: rest := by
  obtain ⟨first, respects, others⟩ := (respected_append p.receiver c before (s :: later)).mp respected
  obtain ⟨ms, followed⟩ := h.followed first
  rcases followed.ends with ⟨runs, -⟩ | ⟨-, ended⟩
  · obtain ⟨own, left, rest, agenda⟩ := runs.strike_of_pumps pumps
    refine ⟨own, left, rest, by rw [strikes_append]; exact agenda, fun mid t after again split pumps' => ?_⟩
    rw [strikes_append] at pumps'
    cases runs.struck respects with
    | drives ns drives runs =>
      rw [split, List.append_cons] at others
      have upTo := ((respected_append p.receiver _ (mid ++ [t]) after).mp others).1
      obtain ⟨done, more, mid, ends⟩ := exists_done runs upTo agenda pumps'
      exact ⟨done, more, mid, by rw [strikes_append]; exact ends⟩
    | ended closed drained receipt =>
      rw [Stroke.receipt?, pumps] at receipt
      cases receipt
  · cases pumps.symm.trans (ended.struck respects).2.1

theorem Runs.forwards (h : Runs p log 1 c) (room : 0 < c.bus.room)
    (at_ : c.bus.position? p.receiver = some log.length) (respected : Respected p.receiver c ss) :
    c.Forwards p log ss := by
  have same := h.followed respected
  obtain ⟨ms, followed⟩ := same
  have served := h.sound.serves at_ followed.stays
  have overwritten := served.overwritten
  have inOrder := served.inOrder
  rw [← Bus.map_event_receipts, followed.receipts, map_event_receipts, followed.emissions] at inOrder
  rw [followed.receipts, followed.emissions] at overwritten
  refine ⟨⟨ms, followed⟩, inOrder, map_event_receipts _ c ss, overwritten, ?_, h.complete room at_ respected⟩
  rintro before s later scene e rfl pumps
  exact h.dispatches respected pumps

end Client

open Client in
/-- **Only overwritten events are lost**, by receivers and by pumps. -/
theorem only_overwritten_lost {capacity : Nat} {bus : Bus} (made : Bus.ofCapacity? capacity = some bus) :
    (bus.room = (max capacity 1).nextPowerOfTwo ∧ bus.room.isPowerOfTwo) ∧
    (∀ ms ns : List Bus.Move, .drop (bus.run ms).subscribed ∉ ns →
      (bus.run ms).subscribe.Serves (bus.run ms).subscribed (bus.log ms) ns ∧
      (((bus.run ms).subscribe.run ns).closed = true ↔ .close ∈ ms ++ ns)) ∧
    ∀ (c : Client) (before : List Stroke) (hub : Nat) (ss : List Stroke), c.bus = bus → c.works = [] → c.pumps = [] →
      c.waits = [] → Proper c before →
      Respected (c.strikes before).bus.subscribed ((c.strikes before).spawn hub) ss →
      ∃ log, (c.strikes before).bus.Sound log ∧
        ((c.strikes before).spawn hub).Forwards ⟨(c.strikes before).bus.subscribed, hub⟩ log ss := by
  have new : bus = { room := (max capacity 1).nextPowerOfTwo } := by
    unfold Bus.ofCapacity? at made
    split at made <;> cases made
    rfl
  have power : bus.room.isPowerOfTwo := new ▸ Nat.isPowerOfTwo_nextPowerOfTwo _
  have sound : ∀ ms, (bus.run ms).Sound (bus.log ms) := fun ms => by
    have start : bus.Sound [] := new ▸ Bus.sound_new _
    exact start.run ms
  refine ⟨⟨by rw [new], power⟩, fun ms ns stays => ⟨?_, ?_⟩,
    fun c before hub ss own works pumps waits proper respected => ?_⟩
  · have next := (sound ms).after .subscribe
    rw [Bus.Move.logs, List.append_nil] at next
    · exact next.serves (sound ms).position?_subscribe stays
    · simp
  · have opened : bus.closed = false := by rw [new]
    rw [Bus.closed_run, List.mem_append]
    show (bus.run ms).closed = true ∨ _ ↔ _
    rw [Bus.closed_run, opened, or_iff_right Bool.false_ne_true]
  · have numbered : c.Numbered := fun receiver _ => by
      refine ⟨by rw [works]; rfl, by rw [pump?, pumps]; rfl, fun w hw => ?_⟩
      rw [waits] at hw
      cases hw
    obtain ⟨numbered, ms, run⟩ := numbered.strikes proper
    rw [own] at run
    have sound := run ▸ sound ms
    have room : 0 < (c.strikes before).bus.room := by
      rw [run, Bus.room_run]
      exact Nat.pos_of_isPowerOfTwo power
    have runs := runs_spawn sound (numbered _ (Nat.le_refl _)) hub
    exact ⟨_, sound, runs.forwards room sound.position?_subscribe respected⟩

/-- Five events, one after the other. -/
def pings : List Event := (List.range 5).map fun n : Nat => ⟨Channel.authProgress, .int n⟩

/-- The receiver comes to its events when all have been emitted, and tries three times. -/
def belated : List Bus.Move := pings.map .emit ++ [.tryReceive 0, .tryReceive 0, .tryReceive 0]

/-- A pump that takes the first event when it comes, and the others when all have been emitted. -/
def pumping : List Client.Stroke :=
  (pings.take 1).map .emit ++ .moment .work :: (pings.drop 1).map .emit ++
    [.moment .work, .moment .work, .moment .work, .moment .work, .moment .work]

/-- Of five events a bus with room for two keeps the last two. -/
theorem newest_two_kept :
    Bus.ofCapacity? 2 = some { room := 2 } ∧
    (Bus.subscribe { room := 2 }).Serves 0 [] belated ∧
    Bus.yields 0 (Bus.subscribe { room := 2 }) belated = pings.drop 3 ∧
    (∃ log, (Client.spawn { bus := { room := 2 } } 0).Forwards ⟨0, 0⟩ log pumping) ∧
    Client.pumped 0 (Client.spawn { bus := { room := 2 } } 0) pumping = pings.take 1 ++ pings.drop 3 := by
  have power : Nat.nextPowerOfTwo 2 = 2 := by decide +kernel
  have made : Bus.ofCapacity? 2 = some { room := 2 } := by
    rw [Bus.ofCapacity?, if_pos (by decide), show max 2 1 = 2 from rfl, power]
  refine ⟨made, ((only_overwritten_lost made).2.1 [] belated (by simp [belated])).1, rfl, ?_, rfl⟩
  obtain ⟨log, -, forwards⟩ := (only_overwritten_lost made).2.2 { bus := { room := 2 } } [] 0 pumping rfl rfl rfl rfl
    trivial ⟨rfl, trivial, rfl, rfl, rfl, rfl, trivial, trivial, trivial, trivial, trivial, trivial⟩
  exact ⟨log, forwards⟩

end Switchboard
