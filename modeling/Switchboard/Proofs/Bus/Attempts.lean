import Switchboard.Bus

/-!
# What receivers get

A bus is used by moves: events are emitted, receivers come and go, look and receive, and at last there is nobody who
could emit (`Move`). Its log is all that was ever put on it, and at every moment the kept events are the last of the log
(`Sound`).

To receive takes one look, or two if events were missed. Either way it gives the first of the kept events that the
receiver has not got (`tryReceive_eq`, `receive_eq`), so for what follows all attempts are alike (`attempt`).
-/

namespace Switchboard.Bus

/-! ## Moves -/

/-- What is done with a bus. -/
inductive Move where
  | emit (e : Event)
  | subscribe
  /-- A receiver is dropped. -/
  | drop (id : Nat)
  /-- The last one who could emit is gone. -/
  | close
  /-- A receiver looks once; this is a part of receiving. -/
  | look (id : Nat)
  | tryReceive (id : Nat)
  | receive (id : Nat)

/-- The bus after a move. -/
def after (bus : Bus) : Move → Bus
  | .emit e => bus.emit e
  | .subscribe => bus.subscribe
  | .drop id => bus.unsubscribe id
  | .close => { bus with closed := true }
  | .look id => (bus.look id).2
  | .tryReceive id => (bus.tryReceive id).2
  | .receive id => (bus.receive id).2

/-- The bus after a run. -/
def run (bus : Bus) (ms : List Move) : Bus := ms.foldl after bus

theorem run_append (bus : Bus) (ms ns : List Move) : bus.run (ms ++ ns) = (bus.run ms).run ns := List.foldl_append

/-- The event that a look finds. -/
def Found.event? : Found → Option Event
  | .event e => some e
  | _ => none

/-- The event that a wait ends with. -/
def Reception.event? : Reception → Option Event
  | .ends e => e
  | .waits => none

/-- The event that a receiver gets by a move. -/
def Move.yields (id : Nat) (bus : Bus) : Move → Option Event
  | .look i => if i = id then (bus.look i).1.event? else none
  | .tryReceive i => if i = id then (bus.tryReceive i).1 else none
  | .receive i => if i = id then (bus.receive i).1.event? else none
  | _ => none

/-- What a move puts on the bus. -/
def Move.logs (bus : Bus) : Move → List Event
  | .emit e => if bus.receivers.isEmpty then [] else [e]
  | _ => []

/-- What a run puts on the bus. -/
def log : Bus → List Move → List Event
  | _, [] => []
  | bus, m :: ms => m.logs bus ++ log (bus.after m) ms

/-- The events that a receiver gets in a run. -/
def yields (id : Nat) : Bus → List Move → List Event
  | _, [] => []
  | bus, m :: ms => (m.yields id bus).toList ++ yields id (bus.after m) ms

theorem log_append (bus : Bus) (ms ns : List Move) : bus.log (ms ++ ns) = bus.log ms ++ (bus.run ms).log ns := by
  induction ms generalizing bus with
  | nil => rfl
  | cons m ms ih =>
    rw [List.cons_append, log, log, ih, List.append_assoc]
    rfl

/-! ## What is kept -/

/-- A bus after all that is in its log. -/
structure Sound (bus : Bus) (log : List Event) : Prop where
  emitted : bus.emitted = log.length
  kept : bus.kept = log.drop (log.length - bus.room)
  /-- No receiver is ahead of the log. -/
  reached : ∀ r ∈ bus.receivers, r.2 ≤ log.length
  numbered : ∀ r ∈ bus.receivers, r.1 < bus.subscribed

variable {bus : Bus} {events : List Event} {id position : Nat}

theorem sound_new (room : Nat) : Sound { room := room } [] :=
  ⟨rfl, List.drop_nil.symm, List.forall_mem_nil _, List.forall_mem_nil _⟩

theorem Sound.oldest (h : bus.Sound events) : bus.oldest = events.length - bus.room := by
  rw [Bus.oldest, h.emitted, h.kept, List.length_drop]
  omega

/-- From the oldest kept event on, the log is what is kept. -/
theorem Sound.getElem?_kept (h : bus.Sound events) {place : Nat} (kept : bus.oldest ≤ place) :
    bus.kept[place - bus.oldest]? = events[place]? := by
  rw [h.kept, List.getElem?_drop, ← h.oldest, Nat.add_sub_cancel' kept]

theorem mem_of_position? (h : bus.position? id = some position) : (id, position) ∈ bus.receivers := by
  obtain ⟨⟨i, p⟩, found, rfl⟩ := Option.map_eq_some_iff.mp h
  have own : i = id := by simpa using List.find?_some found
  exact own ▸ List.mem_of_find?_eq_some found

theorem Sound.position_le (h : bus.Sound events) (at_ : bus.position? id = some position) :
    position ≤ events.length := h.reached _ (mem_of_position? at_)

theorem Sound.move (h : bus.Sound events) {target : Nat} (le : target ≤ events.length) :
    (bus.move id target).Sound events where
  emitted := h.emitted
  kept := h.kept
  reached r hr := by
    obtain ⟨s, hs, rfl⟩ := List.mem_map.mp hr
    split
    · exact le
    · exact h.reached s hs
  numbered r hr := by
    obtain ⟨s, hs, rfl⟩ := List.mem_map.mp hr
    split
    next own => exact own ▸ h.numbered s hs
    next => exact h.numbered s hs

/-! ## What a receiver has not got -/

/-- The kept events that a receiver has not got. -/
def unread (bus : Bus) (id : Nat) : List Event :=
  match bus.position? id with
  | none => []
  | some position => bus.kept.drop (position - bus.oldest)

/-- They are the last of the log. -/
theorem Sound.unread_eq (h : bus.Sound events) (at_ : bus.position? id = some position) :
    bus.unread id = events.drop (max position (events.length - bus.room)) := by
  rw [unread, at_]
  show bus.kept.drop _ = _
  rw [h.oldest, h.kept, List.drop_drop]
  congr 1
  omega

/-- A receiver for which there is nothing left has come to the end of the log. -/
theorem Sound.position_eq (h : bus.Sound events) (room : 0 < bus.room) (at_ : bus.position? id = some position)
    (drained : bus.unread id = []) : position = events.length := by
  rw [h.unread_eq at_, List.drop_eq_nil_iff] at drained
  have le := h.position_le at_
  omega

/-- The place in the log of the first event that is kept and that a receiver has not got. -/
def place (bus : Bus) (id : Nat) : Nat := max ((bus.position? id).getD 0) bus.oldest

/-- The bus once a receiver has made up for what it missed. -/
def caughtUp (bus : Bus) (id : Nat) : Bus := if bus.lag id = 0 then bus else bus.move id bus.oldest

theorem move_move (bus : Bus) (id first second : Nat) : (bus.move id first).move id second = bus.move id second := by
  simp only [move, List.map_map]
  congr 2
  funext r
  dsimp only [Function.comp_apply]
  by_cases own : r.1 = id
  · rw [if_pos own, if_pos rfl, if_pos own]
  · rw [if_neg own, if_neg own]

theorem caughtUp_same (bus : Bus) (id : Nat) : ∃ receivers, bus.caughtUp id = { bus with receivers := receivers } := by
  unfold caughtUp
  split
  · exact ⟨_, rfl⟩
  · exact ⟨_, rfl⟩

theorem caughtUp_of_lag (h : bus.lag id = 0) : bus.caughtUp id = bus := if_pos h

theorem lag_eq (h : bus.position? id = some position) : bus.lag id = bus.oldest - position := by
  rw [lag, h]
  rfl

theorem lag_of_missing (h : bus.position? id = none) : bus.lag id = 0 := by
  rw [lag, h]
  rfl

/-- A receiver that has missed nothing finds its next event if there is one. -/
theorem look_of_lag_zero (h : bus.lag id = 0) : bus.look id =
    match bus.unread id with
    | [] => (if bus.closed then .closed else .nothing, bus)
    | e :: _ => (.event e, bus.move id (bus.place id + 1)) := by
  rw [look, unread, place]
  cases at_ : bus.position? id with
  | none => rfl
  | some position =>
    have caught : ¬ position < bus.oldest := by
      rw [lag_eq at_] at h
      omega
    have own : max position bus.oldest = position := Nat.max_eq_left (Nat.not_lt.mp caught)
    dsimp only [Option.getD_some]
    rw [if_neg caught, own]
    cases rest : bus.kept.drop (position - bus.oldest) with
    | nil => rw [List.getElem?_eq_none (List.drop_eq_nil_iff.mp rest)]
    | cons e later =>
      have found : bus.kept[position - bus.oldest]? = some e := by
        rw [← List.head?_drop, rest]
        rfl
      rw [found]

/-- A receiver that has missed something finds out about it. -/
theorem look_of_lag (h : bus.lag id ≠ 0) : bus.look id = (.missed (bus.lag id), bus.caughtUp id) := by
  cases at_ : bus.position? id with
  | none => exact absurd (lag_of_missing at_) h
  | some position =>
    have behind : position < bus.oldest := by
      rw [lag_eq at_] at h
      omega
    rw [look, at_, caughtUp, if_neg h, lag_eq at_]
    exact if_pos behind

theorem lag_caughtUp (bus : Bus) (id : Nat) : (bus.caughtUp id).lag id = 0 := by
  by_cases h : bus.lag id = 0
  · rwa [caughtUp_of_lag h]
  · exact Nat.eq_zero_of_not_pos fun positive => by
      cases at_ : bus.position? id with
      | none => exact h (lag_of_missing at_)
      | some position =>
        rw [caughtUp, if_neg h, lag_eq (position?_move at_ _)] at positive
        exact absurd positive (by rw [show (bus.move id bus.oldest).oldest = bus.oldest from rfl]; omega)

/-- Nothing is read by making up for what was missed. -/
theorem unread_caughtUp (bus : Bus) (id : Nat) : (bus.caughtUp id).unread id = bus.unread id := by
  by_cases h : bus.lag id = 0
  · rw [caughtUp_of_lag h]
  · cases at_ : bus.position? id with
    | none => exact absurd (lag_of_missing at_) h
    | some position =>
      rw [lag_eq at_] at h
      rw [caughtUp, if_neg (by rwa [lag_eq at_]), unread, unread, position?_move at_, at_]
      show bus.kept.drop (bus.oldest - bus.oldest) = bus.kept.drop (position - bus.oldest)
      congr 1
      omega

theorem move_caughtUp (bus : Bus) (id : Nat) :
    (bus.caughtUp id).move id ((bus.caughtUp id).place id + 1) = bus.move id (bus.place id + 1) := by
  by_cases h : bus.lag id = 0
  · rw [caughtUp_of_lag h]
  · cases at_ : bus.position? id with
    | none => exact absurd (lag_of_missing at_) h
    | some position =>
      have behind : position < bus.oldest := by
        rw [lag_eq at_] at h
        omega
      rw [caughtUp, if_neg h, move_move, place, place, position?_move at_, at_]
      show bus.move id (max bus.oldest bus.oldest + 1) = bus.move id (max position bus.oldest + 1)
      rw [Nat.max_self, Nat.max_eq_right (Nat.le_of_lt behind)]

theorem closed_caughtUp (bus : Bus) (id : Nat) : (bus.caughtUp id).closed = bus.closed := by
  obtain ⟨receivers, same⟩ := bus.caughtUp_same id
  rw [same]

/-- The second look finds what is there. -/
theorem look_caughtUp (bus : Bus) (id : Nat) : (bus.caughtUp id).look id =
    match bus.unread id with
    | [] => (if bus.closed then .closed else .nothing, bus.caughtUp id)
    | e :: _ => (.event e, bus.move id (bus.place id + 1)) := by
  rw [look_of_lag_zero (bus.lag_caughtUp id), unread_caughtUp, closed_caughtUp, move_caughtUp]

/-- **What a receiver tries to get** is the first event that it has not got and that is kept, if there is one. -/
theorem tryReceive_eq (bus : Bus) (id : Nat) : bus.tryReceive id =
    match bus.unread id with
    | [] => (none, bus.caughtUp id)
    | e :: _ => (some e, bus.move id (bus.place id + 1)) := by
  have second := bus.look_caughtUp id
  by_cases h : bus.lag id = 0
  · rw [caughtUp_of_lag h] at second ⊢
    rw [tryReceive, second]
    cases bus.unread id with
    | nil => cases bus.closed <;> rfl
    | cons e later => rfl
  · rw [tryReceive, look_of_lag h]
    dsimp only
    rw [second]
    cases bus.unread id with
    | nil => cases bus.closed <;> rfl
    | cons e later => rfl

theorem receive_of_lag_zero (h : bus.lag id = 0) : bus.receive id =
    match bus.unread id with
    | [] => (if bus.closed then .ends none else .waits, bus)
    | e :: _ => (.ends (some e), bus.move id (bus.place id + 1)) := by
  have first := look_of_lag_zero h
  rw [receive]
  split
  all_goals
    rename_i found
    rw [found] at first
    cases rest : bus.unread id with
    | nil =>
      rw [rest] at first
      cases closed : bus.closed <;> rw [closed] at first <;> cases first <;> rfl
    | cons e later =>
      rw [rest] at first
      cases first
      try rfl

/-- A receiver that has missed something goes on receiving. -/
theorem receive_of_lag (h : bus.lag id ≠ 0) : bus.receive id = (bus.caughtUp id).receive id := by
  have first := look_of_lag h
  rw [receive]
  split
  all_goals
    rename_i found
    rw [found] at first
    cases first
  rfl

/-- **What a receiver waits for** is the same; there will be none if the bus is closed. -/
theorem receive_eq (bus : Bus) (id : Nat) : bus.receive id =
    match bus.unread id with
    | [] => (if bus.closed then .ends none else .waits, bus.caughtUp id)
    | e :: _ => (.ends (some e), bus.move id (bus.place id + 1)) := by
  by_cases h : bus.lag id = 0
  · rw [caughtUp_of_lag h]
    exact receive_of_lag_zero h
  · rw [receive_of_lag h, receive_of_lag_zero (bus.lag_caughtUp id), unread_caughtUp, closed_caughtUp, move_caughtUp]

/-! ## One move -/

/-- The receiver that attempts to get its next event, if a move is that. -/
def Move.receiver? : Move → Option Nat
  | .look id | .tryReceive id | .receive id => some id
  | _ => none

/-- What comes of a receiver's attempt to get its next event, and the bus after it. -/
inductive Attempt (bus : Bus) (id : Nat) : Option Event → Bus → Prop
  | idle : Attempt bus id none bus
  | catchUp : Attempt bus id none (bus.caughtUp id)
  | get {e : Event} {later : List Event} : bus.unread id = e :: later →
      Attempt bus id (some e) (bus.move id (bus.place id + 1))

theorem attempt {m : Move} (h : m.receiver? = some id) (bus : Bus) :
    bus.Attempt id (m.yields id bus) (bus.after m) := by
  cases m with
  | emit | subscribe | drop | close => cases h
  | look i =>
    cases h
    rw [Move.yields, if_pos rfl, after]
    by_cases lag : bus.lag id = 0
    · rw [look_of_lag_zero lag]
      cases rest : bus.unread id with
      | nil => cases bus.closed <;> exact .idle
      | cons e later => exact .get rest
    · rw [look_of_lag lag]
      exact .catchUp
  | tryReceive i =>
    cases h
    rw [Move.yields, if_pos rfl, after, tryReceive_eq]
    cases rest : bus.unread id with
    | nil => exact .catchUp
    | cons e later => exact .get rest
  | receive i =>
    cases h
    rw [Move.yields, if_pos rfl, after, receive_eq]
    cases rest : bus.unread id with
    | nil => cases bus.closed <;> exact .catchUp
    | cons e later => exact .get rest

/-- Only by its own attempts a receiver gets events. -/
theorem yields_of_not_attempt {m : Move} (h : m.receiver? ≠ some id) (bus : Bus) : m.yields id bus = none := by
  cases m with
  | emit | subscribe | drop | close => rfl
  | look i | tryReceive i | receive i => exact if_neg fun own => h (congrArg some own)

theorem Sound.place_eq (h : bus.Sound events) (at_ : bus.position? id = some position) :
    bus.place id = max position (events.length - bus.room) := by
  rw [place, at_, h.oldest]
  rfl

theorem Sound.getElem?_place (h : bus.Sound events) {e : Event} {later : List Event}
    (rest : bus.unread id = e :: later) : events[bus.place id]? = some e := by
  cases at_ : bus.position? id with
  | none =>
    rw [unread, at_] at rest
    cases rest
  | some position =>
    rw [unread, at_] at rest
    have found : bus.kept[position - bus.oldest]? = some e := by
      rw [← List.head?_drop]
      exact congrArg List.head? rest
    have own : bus.place id - bus.oldest = position - bus.oldest := by
      rw [place, at_, Option.getD_some]
      omega
    have kept : bus.oldest ≤ bus.place id := Nat.le_max_right _ _
    rwa [← h.getElem?_kept kept, own]

theorem Sound.caughtUp (h : bus.Sound events) : (bus.caughtUp id).Sound events := by
  unfold Bus.caughtUp
  split
  · exact h
  · refine h.move ?_
    rw [h.oldest]
    exact Nat.sub_le _ _

theorem Sound.attempt (h : bus.Sound events) {found : Option Event} {next : Bus} (a : bus.Attempt id found next) :
    next.Sound events := by
  cases a with
  | idle => exact h
  | catchUp => exact h.caughtUp
  | get rest =>
    refine h.move ?_
    obtain ⟨lt, -⟩ := List.getElem?_eq_some_iff.mp (h.getElem?_place rest)
    exact lt

/-- A move leaves the bus as its log says. -/
theorem Sound.after (h : bus.Sound events) (m : Move) : (bus.after m).Sound (events ++ m.logs bus) := by
  cases m with
  | emit e =>
    rw [Bus.after, Move.logs, emit]
    split
    next => rwa [List.append_nil]
    next =>
      have more : bus.kept ++ [e] = (events ++ [e]).drop (events.length - bus.room) := by
        rw [h.kept, List.drop_append_of_le_length (Nat.sub_le _ _)]
      refine ⟨?_, ?_, fun r hr => ?_, h.numbered⟩
      · rw [List.length_append, ← h.emitted]
        rfl
      · show (bus.kept ++ [e]).drop ((bus.kept ++ [e]).length - bus.room) = (events ++ [e]).drop _
        rw [more, List.drop_drop, List.length_drop, List.length_append, List.length_singleton]
        congr 1
        show _ = events.length + 1 - bus.room
        omega
      · exact Nat.le_trans (h.reached r hr) (by simp)
  | subscribe =>
    show Sound _ (events ++ [])
    rw [List.append_nil]
    refine ⟨h.emitted, h.kept, fun r hr => ?_, fun r hr => ?_⟩
    · rcases List.mem_append.mp hr with hr | hr
      · exact h.reached r hr
      · rw [List.mem_singleton.mp hr]
        exact Nat.le_of_eq h.emitted
    · rcases List.mem_append.mp hr with hr | hr
      · exact Nat.lt_succ_of_lt (h.numbered r hr)
      · rw [List.mem_singleton.mp hr]
        exact Nat.lt_succ_self _
  | drop i =>
    show Sound _ (events ++ [])
    rw [List.append_nil]
    exact ⟨h.emitted, h.kept, fun r hr => h.reached r (List.mem_filter.mp hr).1,
      fun r hr => h.numbered r (List.mem_filter.mp hr).1⟩
  | close =>
    show Sound _ (events ++ [])
    rw [List.append_nil]
    exact ⟨h.emitted, h.kept, h.reached, h.numbered⟩
  | look i | tryReceive i | receive i =>
    show Sound _ (events ++ [])
    rw [List.append_nil]
    exact h.attempt (Bus.attempt rfl bus)

theorem Sound.run (h : bus.Sound events) (ms : List Move) : (bus.run ms).Sound (events ++ bus.log ms) := by
  induction ms generalizing bus events with
  | nil => rwa [log, List.append_nil]
  | cons m ms ih =>
    rw [log, ← List.append_assoc]
    exact ih (h.after m)

theorem position?_move_of_ne (bus : Bus) {i : Nat} (other : i ≠ id) (target : Nat) :
    (bus.move i target).position? id = bus.position? id := by
  have same : ((fun r : Nat × Nat => r.1 == id) ∘ fun r => if r.1 = i then (i, target) else r) =
      fun r => r.1 == id := by
    funext r
    dsimp only [Function.comp_apply]
    split
    next own => rw [own]
    next => rfl
  simp only [position?, Bus.move, List.find?_map, same]
  cases found : bus.receivers.find? fun r => r.1 == id with
  | none => rfl
  | some r =>
    have own : r.1 = id := by simpa using List.find?_some found
    have kept : r.1 ≠ i := fun same => other (same.symm.trans own)
    simp [kept]

theorem Attempt.position?_of_ne {i : Nat} {found : Option Event} {next : Bus} (a : bus.Attempt i found next)
    (other : i ≠ id) : next.position? id = bus.position? id := by
  cases a with
  | idle => rfl
  | catchUp =>
    unfold caughtUp
    split
    · rfl
    · exact position?_move_of_ne bus other _
  | get => exact position?_move_of_ne bus other _

/-- A receiver moves by its own attempts alone. -/
theorem position?_after (at_ : bus.position? id = some position) {m : Move}
    (stays : m ≠ .drop id) (other : m.receiver? ≠ some id) : (bus.after m).position? id = some position := by
  cases m with
  | emit e =>
    rw [after, emit]
    split <;> exact at_
  | subscribe =>
    obtain ⟨r, found, own⟩ := Option.map_eq_some_iff.mp at_
    show ((bus.receivers ++ [(bus.subscribed, bus.emitted)]).find? _).map _ = _
    rw [List.find?_append, found]
    exact congrArg some own
  | drop i =>
    have kept : (fun r : Nat × Nat => decide ((r.1 != i) = true ∧ (r.1 == id) = true)) = fun r => r.1 == id := by
      funext r
      by_cases own : r.1 = id
      · have ne : id ≠ i := fun same => stays (by rw [same])
        simp [own, ne]
      · simp [own]
    show ((bus.receivers.filter fun r => r.1 != i).find? _).map _ = _
    rw [List.find?_filter, kept]
    exact at_
  | close => exact at_
  | look i | tryReceive i | receive i =>
    rw [← at_]
    exact Attempt.position?_of_ne (attempt rfl bus) fun own => other (congrArg some own)

/-- An attempt makes no difference but to where the receiver is. -/
theorem Attempt.same {found : Option Event} {next : Bus} (a : bus.Attempt id found next) :
    ∃ receivers, next = { bus with receivers := receivers } := by
  cases a with
  | idle => exact ⟨_, rfl⟩
  | catchUp => exact bus.caughtUp_same id
  | get => exact ⟨_, rfl⟩

theorem same_of_attempt {m : Move} (h : m.receiver? = some id) (bus : Bus) :
    (bus.after m).room = bus.room ∧ (bus.after m).emitted = bus.emitted ∧ (bus.after m).closed = bus.closed := by
  obtain ⟨receivers, same⟩ := (attempt h bus).same
  rw [same]
  exact ⟨rfl, rfl, rfl⟩

theorem room_after (bus : Bus) (m : Move) : (bus.after m).room = bus.room := by
  cases own : m.receiver? with
  | some id => exact (same_of_attempt own bus).1
  | none =>
    cases m with
    | emit e =>
      rw [after, emit]
      split <;> rfl
    | subscribe | drop | close => rfl
    | look | tryReceive | receive => cases own

theorem room_run (bus : Bus) (ms : List Move) : (bus.run ms).room = bus.room := by
  induction ms generalizing bus with
  | nil => rfl
  | cons m ms ih => exact (ih _).trans (bus.room_after m)

theorem emitted_le_after (bus : Bus) (m : Move) : bus.emitted ≤ (bus.after m).emitted := by
  cases own : m.receiver? with
  | some id => exact Nat.le_of_eq (same_of_attempt own bus).2.1.symm
  | none =>
    cases m with
    | emit e =>
      rw [after, emit]
      split
      · exact Nat.le_refl _
      · exact Nat.le_succ _
    | subscribe | drop | close => exact Nat.le_refl _
    | look | tryReceive | receive => cases own

theorem position?_caughtUp (at_ : bus.position? id = some position) :
    (bus.caughtUp id).position? id = some (bus.place id) := by
  rw [place, at_, Option.getD_some, caughtUp, lag_eq at_]
  split
  next caught =>
    rw [at_]
    congr 1
    omega
  next behind =>
    rw [position?_move at_]
    congr 1
    omega

/-- What a move means for a receiver that has a position and stays: it rests there, makes up for what it missed, or
gets the first event that is left for it. -/
inductive Progress (bus : Bus) (id position : Nat) : Option Event → Bus → Prop
  | rests {next : Bus} (at_ : next.position? id = some position) : Progress bus id position none next
  | catchesUp {next : Bus} (at_ : next.position? id = some (bus.place id)) : Progress bus id position none next
  | gets {next : Bus} {e : Event} {later : List Event} (rest : bus.unread id = e :: later)
      (at_ : next.position? id = some (bus.place id + 1)) : Progress bus id position (some e) next

theorem progress {m : Move} (at_ : bus.position? id = some position) (stays : m ≠ .drop id) :
    bus.Progress id position (m.yields id bus) (bus.after m) := by
  by_cases own : m.receiver? = some id
  · have a := attempt own bus
    generalize m.yields id bus = yielded, bus.after m = next at a ⊢
    cases a with
    | idle => exact .rests at_
    | catchUp => exact .catchesUp (position?_caughtUp at_)
    | get rest => exact .gets rest (position?_move at_ _)
  · rw [yields_of_not_attempt own]
    exact .rests (position?_after at_ stays own)

theorem subscribed_le_after (bus : Bus) (m : Move) : bus.subscribed ≤ (bus.after m).subscribed := by
  cases own : m.receiver? with
  | some id =>
    obtain ⟨receivers, same⟩ := (attempt own bus).same
    exact Nat.le_of_eq (congrArg Bus.subscribed same).symm
  | none =>
    cases m with
    | emit e =>
      rw [after, emit]
      split <;> exact Nat.le_refl _
    | subscribe => exact Nat.le_succ _
    | drop | close => exact Nat.le_refl _
    | look | tryReceive | receive => cases own

theorem subscribed_le_run (bus : Bus) (ms : List Move) : bus.subscribed ≤ (bus.run ms).subscribed := by
  induction ms generalizing bus with
  | nil => exact Nat.le_refl _
  | cons m ms ih => exact Nat.le_trans (bus.subscribed_le_after m) (ih _)

end Switchboard.Bus
