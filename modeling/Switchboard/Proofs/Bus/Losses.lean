import Switchboard.Proofs.Bus.Attempts

/-!
# What receivers lose

What a receiver gets in a run are events of the log in their order, each at most once, and what is left out was no
longer kept when the receiver came to it (`losesOnlyOverwritten_run`); a receiver that is never further behind than the
bus has room gets them all (`yields_of_keepsUp`).
-/

namespace Switchboard.Bus

variable {bus : Bus} {events : List Event} {id position : Nat}

/-! ## Receipts -/

/-- An event that a receiver got. -/
structure Receipt where
  event : Event
  /-- Its place in the log. -/
  place : Nat
  /-- How many events had been put on the bus by then. -/
  emitted : Nat

/-- The receipt of a receiver by a move. -/
def Move.receipt? (id : Nat) (bus : Bus) (m : Move) : Option Receipt :=
  (m.yields id bus).map fun e => ⟨e, bus.place id, bus.emitted⟩

/-- The receipts of a receiver in a run. -/
def receipts (id : Nat) : Bus → List Move → List Receipt
  | _, [] => []
  | bus, m :: ms => (m.receipt? id bus).toList ++ receipts id (bus.after m) ms

theorem map_event_receipts (id : Nat) (bus : Bus) (ms : List Move) :
    (receipts id bus ms).map Receipt.event = yields id bus ms := by
  induction ms generalizing bus with
  | nil => rfl
  | cons m ms ih =>
    rw [receipts, List.map_append, ih, yields, Move.receipt?]
    cases m.yields id bus <;> rfl

theorem receipts_append (id : Nat) (bus : Bus) (ms ns : List Move) :
    receipts id bus (ms ++ ns) = receipts id bus ms ++ receipts id (bus.run ms) ns := by
  induction ms generalizing bus with
  | nil => rfl
  | cons m ms ih =>
    rw [List.cons_append, receipts, receipts, ih, List.append_assoc]
    rfl

/-- The receipts are of events from a place of the log on, in their order and each at most once; and what was left out
before one of them was no longer kept then, since as many later events as there is room for had come. -/
structure LosesOnlyOverwritten (room : Nat) (log : List Event) (start : Nat) (rs : List Receipt) : Prop where
  inLog : ∀ r ∈ rs, log[r.place]? = some r.event
  since : ∀ r ∈ rs, start ≤ r.place
  ordered : rs.Pairwise fun r r' => r.place < r'.place
  overwritten : ∀ before r later, rs = before ++ r :: later → ∀ place, start ≤ place → place < r.place →
    (∀ r' ∈ before, r'.place ≠ place) → place + room < r.emitted

namespace LosesOnlyOverwritten

variable {room start : Nat} {log : List Event} {rs : List Receipt}

theorem nil : LosesOnlyOverwritten room log start [] :=
  ⟨List.forall_mem_nil _, List.forall_mem_nil _, .nil, fun before r later split => by cases before <;> cases split⟩

/-- What comes before the place was no longer kept. -/
theorem earlier {place emitted : Nat} (h : LosesOnlyOverwritten room log place rs) (le : start ≤ place)
    (gone : ∀ i, i < place → start ≤ i → i + room < emitted) (later : ∀ r ∈ rs, emitted ≤ r.emitted) :
    LosesOnlyOverwritten room log start rs where
  inLog := h.inLog
  since r hr := Nat.le_trans le (h.since r hr)
  ordered := h.ordered
  overwritten before r after split i from_ lt left := by
    by_cases new : place ≤ i
    · exact h.overwritten before r after split i new lt left
    · refine Nat.lt_of_lt_of_le (gone i (Nat.lt_of_not_le new) from_) (later r ?_)
      rw [split]
      exact List.mem_append_right _ List.mem_cons_self

theorem cons {r : Receipt} (h : LosesOnlyOverwritten room log (r.place + 1) rs) (found : log[r.place]? = some r.event) :
    LosesOnlyOverwritten room log r.place (r :: rs) where
  inLog := List.forall_mem_cons.mpr ⟨found, h.inLog⟩
  since := List.forall_mem_cons.mpr ⟨Nat.le_refl _, fun r' hr' => Nat.le_of_succ_le (h.since r' hr')⟩
  ordered := List.pairwise_cons.mpr ⟨h.since, h.ordered⟩
  overwritten before r' later split i from_ lt left := by
    cases before with
    | nil =>
      cases split
      exact absurd from_ (Nat.not_le_of_lt lt)
    | cons first before =>
      obtain ⟨rfl, rest⟩ := List.cons.inj split
      have new : r.place ≠ i := left r List.mem_cons_self
      exact h.overwritten before r' later rest i (Nat.lt_of_le_of_ne from_ new) lt fun s hs =>
        left s (List.mem_cons_of_mem _ hs)

/-- The events are a part of the log, in its order. -/
theorem sublist (h : LosesOnlyOverwritten room log start rs) : (rs.map Receipt.event).Sublist (log.drop start) := by
  obtain ⟨inLog, since, ordered, -⟩ := h
  induction rs generalizing start with
  | nil => exact List.nil_sublist _
  | cons r rs ih =>
    obtain ⟨found, inLog⟩ := List.forall_mem_cons.mp inLog
    obtain ⟨from_, -⟩ := List.forall_mem_cons.mp since
    obtain ⟨later, ordered⟩ := List.pairwise_cons.mp ordered
    obtain ⟨lt, found⟩ := List.getElem?_eq_some_iff.mp found
    have rest := (ih inLog later ordered).cons_cons r.event
    have own : log.drop r.place = r.event :: log.drop (r.place + 1) := by rw [List.drop_eq_getElem_cons lt, found]
    rw [← own] at rest
    exact rest.trans (List.drop_sublist_drop_left log from_)

end LosesOnlyOverwritten

theorem emitted_le_of_mem_receipts {ms : List Move} : ∀ r ∈ receipts id bus ms, bus.emitted ≤ r.emitted := by
  induction ms generalizing bus with
  | nil => exact List.forall_mem_nil _
  | cons m ms ih =>
    intro r hr
    rcases List.mem_append.mp hr with hr | hr
    · obtain ⟨e, -, rfl⟩ := Option.map_eq_some_iff.mp (Option.mem_toList.mp hr)
      exact Nat.le_refl _
    · exact Nat.le_trans (bus.emitted_le_after m) (ih r hr)

/-- **Only overwritten events are lost** by a receiver that is there all the time. -/
theorem losesOnlyOverwritten_run {ms : List Move} (h : bus.Sound events) (at_ : bus.position? id = some position)
    (stays : .drop id ∉ ms) :
    LosesOnlyOverwritten bus.room (events ++ bus.log ms) position (receipts id bus ms) := by
  induction ms generalizing bus events position with
  | nil => exact .nil
  | cons m ms ih =>
    rw [List.mem_cons, not_or] at stays
    have sound := h.after m
    have ih : ∀ {position}, (bus.after m).position? id = some position → _ := fun at_ => ih sound at_ stays.2
    rw [room_after, List.append_assoc] at ih
    rw [receipts, log, Move.receipt?]
    -- What is behind the receiver's place is no longer kept.
    have gone : ∀ i, i < bus.place id → position ≤ i → i + bus.room < bus.emitted := by
      intro i lt from_
      rw [h.place_eq at_] at lt
      rw [h.emitted]
      omega
    have le : position ≤ bus.place id := by
      rw [h.place_eq at_]
      exact Nat.le_max_left _ _
    have later : ∀ r ∈ receipts id (bus.after m) ms, bus.emitted ≤ r.emitted := fun r hr =>
      Nat.le_trans (bus.emitted_le_after m) (emitted_le_of_mem_receipts r hr)
    have step := progress at_ (Ne.symm stays.1)
    generalize m.yields id bus = yielded at step ⊢
    cases step with
    | rests at_ => exact ih at_
    | catchesUp at_ => exact (ih at_).earlier le gone later
    | @gets _ e _ rest at_ =>
      have found := h.getElem?_place rest
      obtain ⟨lt, -⟩ := List.getElem?_eq_some_iff.mp found
      rw [← List.getElem?_append_left lt] at found
      refine ((ih at_).cons (r := ⟨e, bus.place id, bus.emitted⟩) found).earlier le gone ?_
      exact List.forall_mem_cons.mpr ⟨Nat.le_refl _, later⟩

/-! ## What is left -/

/-- The place after the last one that was got. -/
def nextPlace (start : Nat) (rs : List Receipt) : Nat := rs.foldl (fun _ r => r.place + 1) start

theorem max_nextPlace {first second least : Nat} (h : max first least = max second least) (rs : List Receipt) :
    max (nextPlace first rs) least = max (nextPlace second rs) least := by
  cases rs with
  | nil => exact h
  | cons r rs => rfl

/-- Where a receiver is after a run, but for what it may yet have to make up for. -/
theorem exists_position?_run {ms : List Move} (h : bus.Sound events) (at_ : bus.position? id = some position)
    (stays : .drop id ∉ ms) : ∃ reached, (bus.run ms).position? id = some reached ∧
      max reached ((events ++ bus.log ms).length - bus.room) =
        max (nextPlace position (receipts id bus ms)) ((events ++ bus.log ms).length - bus.room) := by
  induction ms generalizing bus events position with
  | nil => exact ⟨position, at_, rfl⟩
  | cons m ms ih =>
    rw [List.mem_cons, not_or] at stays
    have step := progress at_ (Ne.symm stays.1)
    rw [receipts, log, ← List.append_assoc, ← bus.room_after m, Move.receipt?]
    generalize m.yields id bus = yielded at step ⊢
    cases step with
    | rests at_ => exact ih (h.after m) at_ stays.2
    | catchesUp at_' =>
      obtain ⟨reached, last, e⟩ := ih (h.after m) at_' stays.2
      refine ⟨reached, last, e.trans (max_nextPlace ?_ _)⟩
      rw [h.place_eq at_, room_after]
      simp only [List.length_append]
      omega
    | gets rest at_ => exact ih (h.after m) at_ stays.2

/-- **What is left for a receiver** is what comes after all that it got, as far as it is kept. -/
theorem unread_run {ms : List Move} (h : bus.Sound events) (at_ : bus.position? id = some position)
    (stays : .drop id ∉ ms) : (bus.run ms).unread id = (events ++ bus.log ms).drop
      (max (nextPlace position (receipts id bus ms)) ((events ++ bus.log ms).length - bus.room)) := by
  obtain ⟨reached, at_', e⟩ := exists_position?_run h at_ stays
  rw [(h.run ms).unread_eq at_', room_run, e]

/-! ## Receivers that keep up -/

/-- A receiver is never further behind than the bus has room. -/
def KeepsUp (id : Nat) (bus : Bus) (ms : List Move) : Prop :=
  ∀ before later, ms = before ++ later → ∀ position, (bus.run before).position? id = some position →
    (bus.run before).emitted ≤ position + bus.room

theorem KeepsUp.tail {m : Move} {ms : List Move} (h : KeepsUp id bus (m :: ms)) : KeepsUp id (bus.after m) ms :=
  fun before later split position at_ => by
    rw [room_after]
    exact h (m :: before) later (by rw [split, List.cons_append]) position at_

/-- It is enough to look at a receiver before and after moves of which only the last makes a difference to it. -/
theorem keepsUp_append {ms ns : List Move} (start : ∀ position, bus.position? id = some position →
    bus.emitted ≤ position + bus.room)
    (before : ∀ before later, ms = before ++ later → later ≠ [] →
      (bus.run before).position? id = bus.position? id ∧ (bus.run before).emitted = bus.emitted)
    (rest : KeepsUp id (bus.run ms) ns) : KeepsUp id bus (ms ++ ns) := by
  intro first later split position at_
  rcases List.append_eq_append_iff.mp split with ⟨more, rfl, rfl⟩ | ⟨more, rfl, rfl⟩
  · rw [run_append, ← bus.room_run ms]
    rw [run_append] at at_
    exact rest more later rfl position at_
  · cases more with
    | nil =>
      rw [List.append_nil] at rest
      rw [← bus.room_run first]
      exact rest [] ns rfl position at_
    | cons m more =>
      obtain ⟨same, emitted⟩ := before first (m :: more) rfl (List.cons_ne_nil m more)
      rw [emitted]
      exact start position (same ▸ at_)

/-- **A receiver that keeps up gets all events** up to where it is. -/
theorem yields_of_keepsUp {ms : List Move} (h : bus.Sound events) (at_ : bus.position? id = some position)
    (stays : .drop id ∉ ms) (keeps : KeepsUp id bus ms) :
    ∃ reached, (bus.run ms).position? id = some reached ∧ position ≤ reached ∧
      yields id bus ms = ((events ++ bus.log ms).drop position).take (reached - position) := by
  induction ms generalizing bus events position with
  | nil => exact ⟨position, at_, Nat.le_refl _, by rw [Nat.sub_self, List.take_zero]; rfl⟩
  | cons m ms ih =>
    rw [List.mem_cons, not_or] at stays
    have ih : ∀ {position}, (bus.after m).position? id = some position → _ := fun at_ =>
      ih (h.after m) at_ stays.2 keeps.tail
    rw [List.append_assoc] at ih
    have place : bus.place id = position := by
      have behind : bus.emitted ≤ position + bus.room := keeps [] (m :: ms) rfl position at_
      rw [h.place_eq at_, ← h.emitted]
      omega
    have step := progress at_ (Ne.symm stays.1)
    rw [yields, log]
    generalize m.yields id bus = yielded at step ⊢
    cases step with
    | rests at_ => exact ih at_
    | catchesUp at_ =>
      rw [place] at at_
      exact ih at_
    | @gets _ e _ rest at_ =>
      have found := h.getElem?_place rest
      rw [place] at found at_
      obtain ⟨reached, last, le, yielded⟩ := ih at_
      refine ⟨reached, last, Nat.le_of_succ_le le, ?_⟩
      obtain ⟨lt, -⟩ := List.getElem?_eq_some_iff.mp found
      rw [← List.getElem?_append_left lt] at found
      obtain ⟨lt, here⟩ := List.getElem?_eq_some_iff.mp found
      have steps : reached - position = reached - (position + 1) + 1 := by omega
      rw [List.drop_eq_getElem_cons lt, here, steps, List.take_succ_cons, yielded]
      rfl

/-! ## What is emitted -/

/-- The event that a move emits. -/
def Move.emission? : Move → Option Event
  | .emit e => some e
  | _ => none

/-- The events that are emitted in a run, to whomever. -/
def emissions (ms : List Move) : List Event := ms.filterMap Move.emission?

/-- Of a receiver that is there, there is a place that its next event has. -/
theorem exists_position?_after {m : Move} (h : (bus.position? id).isSome) (stays : m ≠ .drop id) :
    ((bus.after m).position? id).isSome := by
  obtain ⟨position, at_⟩ := Option.isSome_iff_exists.mp h
  rw [Option.isSome_iff_exists]
  have step := progress at_ stays
  generalize m.yields id bus = yielded at step
  cases step with
  | rests at_ | catchesUp at_ | gets _ at_ => exact ⟨_, at_⟩

/-- While there is a receiver, all that is emitted is put on the bus. -/
theorem log_eq_emissions {ms : List Move} (h : (bus.position? id).isSome) (stays : .drop id ∉ ms) :
    bus.log ms = emissions ms := by
  induction ms generalizing bus with
  | nil => rfl
  | cons m ms ih =>
    rw [List.mem_cons, not_or] at stays
    rw [log, ih (exists_position?_after h (Ne.symm stays.1)) stays.2]
    cases m with
    | emit e =>
      obtain ⟨position, at_⟩ := Option.isSome_iff_exists.mp h
      have some_receiver : bus.receivers.isEmpty = false :=
        List.isEmpty_eq_false_iff.mpr (List.ne_nil_of_mem (mem_of_position? at_))
      rw [Move.logs, some_receiver]
      rfl
    | subscribe | drop | close | look | tryReceive | receive => rfl

theorem closed_after (bus : Bus) (m : Move) : (bus.after m).closed = true ↔ bus.closed = true ∨ m = .close := by
  cases own : m.receiver? with
  | some id =>
    rw [(same_of_attempt own bus).2.2]
    refine ⟨Or.inl, fun h => h.resolve_right fun close => ?_⟩
    rw [close] at own
    cases own
  | none =>
    cases m with
    | emit e =>
      rw [after, emit]
      split <;> simp
    | subscribe | drop => simp [after, subscribe, unsubscribe]
    | close => simp [after]
    | look | tryReceive | receive => cases own

/-- A bus is closed once the last one who could emit is gone. -/
theorem closed_run (bus : Bus) (ms : List Move) : (bus.run ms).closed = true ↔ bus.closed = true ∨ .close ∈ ms := by
  induction ms generalizing bus with
  | nil => simp [run]
  | cons m ms ih =>
    show ((bus.after m).run ms).closed = true ↔ _
    rw [ih, closed_after, List.mem_cons, or_assoc, @eq_comm _ m]

/-! ## New receivers -/

/-- A new receiver is at the end of the log. -/
theorem Sound.position?_subscribe (h : bus.Sound events) :
    bus.subscribe.position? bus.subscribed = some events.length := by
  have new : bus.receivers.find? (fun r => r.1 == bus.subscribed) = none := by
    refine List.find?_eq_none.mpr fun r hr own => ?_
    exact Nat.ne_of_lt (h.numbered r hr) (eq_of_beq own)
  show ((bus.receivers ++ [(bus.subscribed, bus.emitted)]).find? _).map _ = _
  rw [List.find?_append, new]
  simp [h.emitted]

end Switchboard.Bus
