import Switchboard.Proofs.Client.Beside

/-!
# Pumps

A pump that runs has one piece of work, and sleeps only while there is nothing for it to do (`Runs`). Every stroke
either keeps this and does to the bus what makes the receiver get just the event that the pump dispatches (`Drives`), or
it is the end of the pump (`Over`). So a run of a pump is a run of its receiver (`Runs.followed`).

The next look of a pump stands on the agenda under all that its dispatch brings about, so there is one dispatch after
the other (`exists_done`).
-/

namespace Switchboard.Client

open Bus (Move Receipt)

variable {receiver : Nat} {c d : Client} {work : Work} {s : Stroke}

/-! ## What a pump passes on -/

/-- The events that the pump of a receiver dispatches in a run. -/
def pumped (receiver : Nat) : Client → List Stroke → List Event
  | _, [] => []
  | c, s :: ss => ((s.pumps receiver c).map Prod.snd).toList ++ pumped receiver (c.strike s) ss

/-- The receipt of what a pump dispatches by a stroke. -/
def Stroke.receipt? (receiver : Nat) (c : Client) (s : Stroke) : Option Receipt :=
  (s.pumps receiver c).map fun dispatch => ⟨dispatch.2, c.bus.place receiver, c.bus.emitted⟩

/-- The receipts of what a pump dispatches in a run. -/
def receipts (receiver : Nat) : Client → List Stroke → List Receipt
  | _, [] => []
  | c, s :: ss => (s.receipt? receiver c).toList ++ receipts receiver (c.strike s) ss

theorem map_event_receipts (receiver : Nat) (c : Client) (ss : List Stroke) :
    (receipts receiver c ss).map Receipt.event = pumped receiver c ss := by
  induction ss generalizing c with
  | nil => rfl
  | cons s ss ih =>
    rw [receipts, List.map_append, ih, pumped, Stroke.receipt?]
    cases s.pumps receiver c <;> rfl

/-! ## A pump that runs -/

/-- A pump runs, and `n` pieces of work are its own: one, or none while it is being done. -/
structure Runs (p : Pump) (log : List Event) (n : Nat) (c : Client) : Prop where
  sound : c.bus.Sound log
  there : (c.bus.position? p.receiver).isSome
  pump : c.pump? p.receiver = some p
  count : (own p.receiver c.works).length = n
  waits : ∀ w ∈ c.waits, w.2 ≠ p.receiver
  /-- It sleeps only while there is nothing for it to do. -/
  drained : own p.receiver c.asleep ≠ [] → c.bus.unread p.receiver = [] ∧ c.bus.closed = false
  /-- It only runs, or puts off its work, during a round. -/
  begun : own p.receiver c.agenda ≠ [] ∨ own p.receiver c.putOff ≠ [] → 0 < c.turns

variable {p : Pump} {log : List Event} {n : Nat}

theorem length_own_works (receiver : Nat) (c : Client) : (own receiver c.works).length =
    (own receiver c.agenda).length + (own receiver c.queue).length + (own receiver c.asleep).length +
      (own receiver c.putOff).length := by
  simp only [works, own_append, List.length_append]

theorem own_cons_own (receiver left : Nat) (works : List Work) :
    own receiver (.pump receiver left :: works) = .pump receiver left :: own receiver works :=
  List.filter_cons_of_pos (isPump_own receiver left)

theorem Runs.beside (h : Runs p log n c) (b : c.Beside p.receiver d) : Runs p log n d := by
  obtain ⟨ms, bus, spares⟩ := b.bus
  obtain ⟨position, at_⟩ := Option.isSome_iff_exists.mp h.there
  obtain ⟨receivers, subscribed, -, same⟩ := same_spared spares c.bus
  refine ⟨?_, ?_, b.pump.trans h.pump, ?_, fun w hw => (b.waits w hw).elim (h.waits w) id, ?_, ?_⟩
  · have sound := h.sound.run ms
    rwa [log_spared spares, List.append_nil, ← bus] at sound
  · rw [bus, position?_spared spares at_]
    rfl
  · rw [← h.count, length_own_works, length_own_works, b.agenda, b.queue, b.asleep, b.putOff]
  · rw [b.asleep, bus, unread_spared spares at_, same]
    exact h.drained
  · rw [b.agenda, b.putOff]
    exact fun runs => Nat.lt_of_lt_of_le (h.begun runs) b.turns

/-- A pump begins its work during a round. -/
theorem Runs.due {left : Nat} (h : Runs p log 1 c) (due : c.due? = some (.pump p.receiver left, d)) :
    Runs p log 0 d ∧ 0 < d.turns ∧ d.bus = c.bus := by
  have all := h.count
  rw [length_own_works] at all
  rcases due?_cases due with ⟨rest, agenda, rfl⟩ | ⟨rest, agenda, queue, -, rfl⟩
  · rw [agenda, own_cons_own, List.length_cons] at all
    refine ⟨⟨h.sound, h.there, h.pump, ?_, h.waits, h.drained, fun runs => h.begun ?_⟩, h.begun (.inl ?_), rfl⟩
    · rw [length_own_works]
      dsimp only
      omega
    · refine runs.imp_left fun _ => ?_
      rw [agenda, own_cons_own]
      exact List.cons_ne_nil _ _
    · rw [agenda, own_cons_own]
      exact List.cons_ne_nil _ _
  · rw [queue, own_cons_own, List.length_cons] at all
    refine ⟨⟨h.sound, h.there, h.pump, ?_, h.waits, h.drained, fun _ => Nat.succ_pos _⟩, Nat.succ_pos _, rfl⟩
    rw [length_own_works]
    dsimp only
    omega

/-- The work in hand is put on the agenda. -/
theorem Runs.first {left : Nat} (h : Runs p log 0 c) (turns : 0 < c.turns) :
    Runs p log 1 (c.first [.pump p.receiver left]) := by
  refine ⟨h.sound, h.there, h.pump, ?_, h.waits, h.drained, fun _ => turns⟩
  have none := h.count
  rw [length_own_works] at none ⊢
  show (own _ (.pump _ _ :: c.agenda)).length + (own _ c.queue).length + (own _ c.asleep).length +
    (own _ c.putOff).length = 1
  rw [own_cons_own, List.length_cons]
  omega

/-- The work in hand is put off. -/
theorem Runs.putOff {left : Nat} (h : Runs p log 0 c) (turns : 0 < c.turns) :
    Runs p log 1 { c with putOff := .pump p.receiver left :: c.putOff } := by
  refine ⟨h.sound, h.there, h.pump, ?_, h.waits, h.drained, fun _ => turns⟩
  have none := h.count
  rw [length_own_works] at none ⊢
  dsimp only
  rw [own_cons_own, List.length_cons]
  omega

/-- The pump goes to sleep when there is nothing for it to do. -/
theorem Runs.sleep {left : Nat} (h : Runs p log 0 c) (drained : c.bus.unread p.receiver = [])
    (opened : c.bus.closed = false) : Runs p log 1 { c with asleep := c.asleep ++ [.pump p.receiver left] } := by
  refine ⟨h.sound, h.there, h.pump, ?_, h.waits, fun _ => ⟨drained, opened⟩, h.begun⟩
  have none := h.count
  rw [length_own_works] at none ⊢
  dsimp only
  rw [own_append, own_cons_own, List.length_append, List.length_cons]
  show _ + ((own _ c.asleep).length + (([] : List Work).length + 1)) + _ = 1
  rw [List.length_nil]
  omega

theorem Runs.asleep_eq_nil (h : Runs p log 0 c) : own p.receiver c.asleep = [] := by
  have none := h.count
  rw [length_own_works] at none
  exact List.eq_nil_of_length_eq_zero (by omega)

/-- While its work is in hand a pump does not sleep, so the bus may change. -/
theorem Runs.withBus {bus : Bus} {log' : List Event} (h : Runs p log 0 c) (sound : bus.Sound log')
    (there : (bus.position? p.receiver).isSome) : Runs p log' 0 { c with bus := bus } :=
  ⟨sound, there, h.pump, h.count, h.waits, fun sleeps => absurd h.asleep_eq_nil sleeps, h.begun⟩

/-- With a change of the bus everyone who sleeps is woken. -/
theorem Runs.wake {bus : Bus} {log' : List Event} (h : Runs p log n c) (sound : bus.Sound log')
    (there : (bus.position? p.receiver).isSome) : Runs p log' n ({ c with bus := bus }.wake) := by
  refine ⟨sound, there, h.pump, ?_, h.waits, fun sleeps => absurd rfl sleeps, h.begun⟩
  have all := h.count
  rw [length_own_works] at all ⊢
  show (own _ c.agenda).length + (own _ (c.queue ++ c.asleep)).length + (own _ []).length + (own _ c.putOff).length = n
  rw [own_append, List.length_append]
  show _ + _ + ([] : List Work).length + _ = n
  rw [List.length_nil]
  omega

/-- After a break all work that was put off is in the queue. -/
theorem Runs.takeBreak (h : Runs p log n c) (idle : c.agenda = []) : Runs p log n c.takeBreak := by
  refine ⟨h.sound, h.there, h.pump, ?_, h.waits, h.drained, fun runs => ?_⟩
  · have all := h.count
    rw [length_own_works] at all ⊢
    show (own _ c.agenda).length + (own _ (c.queue ++ c.putOff)).length + (own _ c.asleep).length +
      (own _ []).length = n
    rw [own_append, List.length_append]
    show _ + _ + _ + ([] : List Work).length = n
    rw [List.length_nil]
    omega
  · have none : c.takeBreak.agenda = [] := idle
    rw [none] at runs
    exact runs.elim (absurd rfl) (absurd rfl)

/-! ## One stroke -/

/-- What a stroke does to the bus: these moves, by which the receiver of a pump gets what the pump dispatches. -/
structure Drives (receiver : Nat) (c : Client) (s : Stroke) (ms : List Move) : Prop where
  bus : (c.strike s).bus = c.bus.run ms
  stays : .drop receiver ∉ ms
  receipts : Bus.receipts receiver c.bus ms = (s.receipt? receiver c).toList
  emissions : Bus.emissions ms = s.emission?.toList
  /-- Only with the last move something changes for the receiver. -/
  before : ∀ before later, ms = before ++ later → later ≠ [] →
    (c.bus.run before).position? receiver = c.bus.position? receiver ∧ (c.bus.run before).emitted = c.bus.emitted

/-- A pump that has ended. -/
structure Over (receiver : Nat) (c : Client) : Prop where
  pump : c.pump? receiver = none
  waits : ∀ w ∈ c.waits, w.2 ≠ receiver
  closed : c.bus.closed = true
  number : receiver < c.bus.subscribed

theorem Runs.number (h : Runs p log n c) : p.receiver < c.bus.subscribed := by
  obtain ⟨position, at_⟩ := Option.isSome_iff_exists.mp h.there
  exact h.sound.numbered _ (Bus.mem_of_position? at_)

theorem Runs.over (h : Runs p log n c) (closed : c.bus.closed = true) : Over p.receiver (c.stopPump p.receiver) := by
  refine ⟨List.find?_eq_none.mpr fun q hq own => ?_, h.waits, closed, h.number⟩
  have other := (List.mem_filter.mp hq).2
  rw [bne_iff_ne] at other
  exact other (eq_of_beq own)

theorem receipt?_of_pumps (h : s.pumps receiver c = none) : s.receipt? receiver c = none := by
  rw [Stroke.receipt?, h]
  rfl

theorem drives_single {m : Move} (bus : (c.strike s).bus = c.bus.after m) (stays : m ≠ .drop receiver)
    (receipt : m.receipt? receiver c.bus = s.receipt? receiver c) (emission : m.emission? = s.emission?) :
    Drives receiver c s [m] where
  bus := bus
  stays mem := stays (List.mem_singleton.mp mem).symm
  receipts := by rw [Bus.receipts, Bus.receipts, List.append_nil, receipt]
  emissions := by
    rw [Bus.emissions, List.filterMap_cons, emission]
    cases s.emission? <;> rfl
  before before later split more := by
    cases before with
    | nil => exact ⟨rfl, rfl⟩
    | cons first before =>
      have none := (List.append_eq_nil_iff.mp (List.cons.inj split).2.symm).2
      exact absurd none more

theorem drives_nothing (bus : (c.strike s).bus = c.bus) (receipt : s.receipt? receiver c = none)
    (emission : s.emission? = none) : Drives receiver c s [] where
  bus := bus
  stays := List.not_mem_nil
  receipts := by
    rw [receipt]
    rfl
  emissions := by
    rw [emission]
    rfl
  before before later split more := absurd (List.append_eq_nil_iff.mp split.symm).2 more

/-- What goes on beside a pump drives it by nothing. -/
theorem Runs.drives_beside (h : Runs p log 1 c) (b : c.Beside p.receiver (c.strike s))
    (receipt : s.receipt? p.receiver c = none) (emission : s.emission? = none) :
    ∃ ms, Drives p.receiver c s ms ∧ Runs p (log ++ c.bus.log ms) 1 (c.strike s) := by
  obtain ⟨ms, bus, spares⟩ := b.bus
  obtain ⟨position, at_⟩ := Option.isSome_iff_exists.mp h.there
  refine ⟨ms, ⟨bus, fun mem => (spares _ mem).drop rfl, ?_, ?_, fun before later split _ => ?_⟩, ?_⟩
  · rw [receipts_spared spares, receipt]
    rfl
  · rw [emissions_spared spares, emission]
    rfl
  · have spared : ∀ m ∈ before, Spares _ m := fun m hm =>
      spares m (by rw [split]; exact List.mem_append_left _ hm)
    obtain ⟨receivers, subscribed, -, same⟩ := same_spared spared c.bus
    rw [position?_spared spared at_, at_, same]
    exact ⟨rfl, rfl⟩
  · rw [log_spared spares, List.append_nil]
    exact h.beside b

/-- What comes of a pump's own work: nothing yet, a look that goes on, or the end. -/
inductive Pumped (p : Pump) (log : List Event) (c d : Client) (passed : Option (Scene × Event)) : Prop
  | nothing : d.bus = c.bus → passed = none → Runs p log 1 d → Pumped p log c d passed
  | looked : d.bus = c.bus.after (.look p.receiver) → passed.map Prod.snd = (c.bus.look p.receiver).1.event? →
      Runs p log 1 d → Pumped p log c d passed
  | ended : c.bus.closed = true → c.bus.unread p.receiver = [] → passed = none → Over p.receiver d →
      Pumped p log c d passed

theorem Runs.pumps_on (h : Runs p log 0 c) (begun : 0 < c.turns) (left : Nat) :
    Pumped p log c (c.pump p.receiver left) (c.passes p.receiver left) := by
  have running : c.pumps.find? (fun q => q.receiver == p.receiver) = some p := h.pump
  cases left with
  | zero =>
    have next : c.pump p.receiver 0 = { c with putOff := .pump p.receiver stint :: c.putOff } := by
      simp only [Client.pump, running]
    rw [next]
    exact .nothing rfl rfl (h.putOff begun)
  | succ left =>
    have passes : c.passes p.receiver (left + 1) =
        (c.bus.look p.receiver).1.event?.map fun e => (⟨p.hub, true⟩, e) := by
      rw [passes, h.pump]
      rfl
    have looked : Runs p log 0 { c with bus := c.bus.after (.look p.receiver) } :=
      h.withBus (h.sound.attempt (Bus.attempt rfl c.bus)) (Bus.exists_position?_after h.there (by simp))
    rw [passes]
    by_cases lag : c.bus.lag p.receiver = 0
    · have look := Bus.look_of_lag_zero lag
      cases rest : c.bus.unread p.receiver with
      | nil =>
        rw [rest] at look
        cases closed : c.bus.closed with
        | false =>
          rw [closed] at look
          have next : c.pump p.receiver (left + 1) = { c with asleep := c.asleep ++ [.pump p.receiver stint] } := by
            simp only [Client.pump, running, look]
            rfl
          rw [next, look]
          exact .nothing rfl rfl (h.sleep rest closed)
        | true =>
          rw [closed] at look
          have next : c.pump p.receiver (left + 1) = c.stopPump p.receiver := by
            simp only [Client.pump, running, look]
            rfl
          rw [next, look]
          exact .ended closed rest rfl (h.over closed)
      | cons e later =>
        rw [rest] at look
        have next : c.pump p.receiver (left + 1) =
            ({ c with bus := (c.bus.look p.receiver).2 }.first [.pump p.receiver left]).dispatch ⟨p.hub, true⟩ e := by
          simp only [Client.pump, running, look]
        rw [next]
        refine .looked rfl ?_ ((looked.first begun).beside ((Beside.refl p.receiver _).first (own_hearings _ _ _ _)))
        rw [look]
        rfl
    · have look := Bus.look_of_lag lag
      have next : c.pump p.receiver (left + 1) =
          { c with bus := (c.bus.look p.receiver).2 }.first [.pump p.receiver left] := by
        simp only [Client.pump, running, look]
      rw [next]
      refine .looked rfl ?_ (looked.first begun)
      rw [look]
      rfl

/-- A stroke drives a pump, or the pump ends with it. -/
inductive Struck (p : Pump) (log : List Event) (c : Client) (s : Stroke) : Prop
  | drives (ms : List Move) : Drives p.receiver c s ms → Runs p (log ++ c.bus.log ms) 1 (c.strike s) →
      Struck p log c s
  | ended : c.bus.closed = true → c.bus.unread p.receiver = [] → s.receipt? p.receiver c = none →
      s.emission? = none → Over p.receiver (c.strike s) → Struck p log c s

theorem Runs.struck_own {left : Nat} (h : Runs p log 1 c) (due : c.due? = some (.pump p.receiver left, d)) :
    Struck p log c (.moment .work) := by
  obtain ⟨runs, begun, bus⟩ := h.due due
  have work : c.strike (.moment .work) = d.pump p.receiver left := after_work_some due
  have pumps : (Stroke.moment .work).pumps p.receiver c = d.passes p.receiver left := by
    rw [Stroke.pumps, due, Option.bind_some, if_pos (isPump_own p.receiver left)]
    rfl
  cases runs.pumps_on begun left with
  | nothing same none runs =>
    rw [← pumps] at none
    refine .drives [] (drives_nothing (by rw [work, same, bus]) (receipt?_of_pumps none) rfl) ?_
    rw [work, Bus.log, List.append_nil]
    exact runs
  | looked same passed runs =>
    rw [bus] at same passed
    refine .drives [.look p.receiver] (drives_single (by rw [work, same]) (by simp) ?_ rfl) ?_
    · have found : (Move.look p.receiver).yields p.receiver c.bus = (d.passes p.receiver left).map Prod.snd :=
        (if_pos rfl).trans passed.symm
      rw [Bus.Move.receipt?, found, Stroke.receipt?, pumps, Option.map_map]
      rfl
    · have silent : c.bus.log [.look p.receiver] = [] := rfl
      rw [work, silent, List.append_nil]
      exact runs
  | ended closed drained none ended =>
    rw [bus] at closed drained
    rw [← pumps] at none
    refine .ended closed drained (receipt?_of_pumps none) rfl ?_
    rw [work]
    exact ended

/-- **One stroke.** -/
theorem Runs.struck (h : Runs p log 1 c) (respects : s.Respects p.receiver c) : Struck p log c s := by
  cases around h.waits (fun _ _ => Nat.ne_of_gt h.number) respects with
  | own left d due => exact h.struck_own due
  | emit e =>
    refine .drives [.emit e] (drives_single rfl (by simp) rfl rfl) ?_
    rw [Bus.log, Bus.log, List.append_nil]
    exact h.wake (h.sound.after (.emit e)) (Bus.exists_position?_after (m := .emit e) h.there (by simp))
  | close =>
    refine .drives [.close] (drives_single rfl (by simp) rfl rfl) ?_
    rw [Bus.log, Bus.log, List.append_nil]
    exact h.wake (h.sound.after .close) (Bus.exists_position?_after (m := .close) h.there (by simp))
  | rest idle due rests =>
    have same : c.strike (.moment .work) = c.takeBreak := rests
    have pumps : (Stroke.moment .work).pumps p.receiver c = none := by
      rw [Stroke.pumps, due]
      rfl
    refine .drives [] (drives_nothing (by rw [same]; rfl) (receipt?_of_pumps pumps) rfl) ?_
    rw [same, Bus.log, List.append_nil]
    exact h.takeBreak idle
  | beside b pumps emission =>
    obtain ⟨ms, drives, runs⟩ := h.drives_beside b (receipt?_of_pumps pumps) emission
    exact .drives ms drives runs

/-! ## After the end -/

theorem Over.beside (h : Over receiver c) (b : c.Beside receiver d) : Over receiver d := by
  obtain ⟨ms, bus, spares⟩ := b.bus
  obtain ⟨receivers, subscribed, le, same⟩ := same_spared spares c.bus
  refine ⟨b.pump.trans h.pump, fun w hw => (b.waits w hw).elim (h.waits w) id, ?_, ?_⟩
  · rw [bus, same]
    exact h.closed
  · rw [bus, same]
    exact Nat.lt_of_lt_of_le h.number le

/-- A pump that has ended stays so; it dispatches nothing any more, and nobody emits. -/
theorem Over.struck (h : Over receiver c) (respects : s.Respects receiver c) :
    Over receiver (c.strike s) ∧ s.pumps receiver c = none ∧ s.emission? = none := by
  cases around h.waits (fun _ _ => Nat.ne_of_gt h.number) respects with
  | own left d due =>
    have ended : Over receiver d := by
      rcases due?_cases due with ⟨rest, -, rfl⟩ | ⟨rest, -, -, -, rfl⟩ <;>
        exact ⟨h.pump, h.waits, h.closed, h.number⟩
    obtain ⟨idle, silent⟩ := pump_of_missing ended.pump left
    refine ⟨?_, ?_, rfl⟩
    · have same : c.strike (.moment .work) = d := (after_work_some due).trans idle
      rwa [same]
    · rw [Stroke.pumps, due, Option.bind_some, if_pos (isPump_own receiver left)]
      exact silent
  | emit e opened =>
    rw [h.closed] at opened
    cases opened
  | close => exact ⟨⟨h.pump, h.waits, rfl, h.number⟩, rfl, rfl⟩
  | rest idle due rests =>
    have same : c.strike (.moment .work) = c.takeBreak := rests
    refine ⟨?_, ?_, rfl⟩
    · rw [same]
      exact ⟨h.pump, h.waits, h.closed, h.number⟩
    · rw [Stroke.pumps, due]
      rfl
  | beside b pumps emission => exact ⟨h.beside b, pumps, emission⟩

theorem Over.strikes {ss : List Stroke} (h : Over receiver c) (respected : Respected receiver c ss) :
    Over receiver (c.strikes ss) ∧ receipts receiver c ss = [] ∧ emissions ss = [] := by
  induction ss generalizing c with
  | nil => exact ⟨h, rfl, rfl⟩
  | cons s ss ih =>
    obtain ⟨ended, pumps, emission⟩ := h.struck respected.1
    obtain ⟨ends, rest, silent⟩ := ih ended respected.2
    refine ⟨ends, ?_, ?_⟩
    · rw [receipts, receipt?_of_pumps pumps, rest]
      rfl
    · rw [emissions_cons, emission, silent]
      rfl

/-! ## Runs -/

/-- A pump is never further behind than the bus has room. -/
def KeepsUp (receiver : Nat) (c : Client) (ss : List Stroke) : Prop :=
  ∀ before later, ss = before ++ later → ∀ position, (c.strikes before).bus.position? receiver = some position →
    (c.strikes before).bus.emitted ≤ position + (c.strikes before).bus.room

theorem KeepsUp.tail {ss : List Stroke} (h : KeepsUp receiver c (s :: ss)) : KeepsUp receiver (c.strike s) ss :=
  fun before later split => h (s :: before) later (by rw [split, List.cons_append])

/-- A run of a pump: moves of the bus by which its receiver gets what the pump dispatches. -/
structure Followed (p : Pump) (log : List Event) (c : Client) (ss : List Stroke) (ms : List Move) : Prop where
  stays : .drop p.receiver ∉ ms
  receipts : Bus.receipts p.receiver c.bus ms = receipts p.receiver c ss
  emissions : Bus.emissions ms = emissions ss
  keeps : KeepsUp p.receiver c ss → Bus.KeepsUp p.receiver c.bus ms
  /-- In the end it runs on, or it has ended when there was nothing left. -/
  ends : (Runs p (log ++ c.bus.log ms) 1 (c.strikes ss) ∧ (c.strikes ss).bus = c.bus.run ms) ∨
    ((c.bus.run ms).unread p.receiver = [] ∧ Over p.receiver (c.strikes ss))

/-- **A run of a pump.** -/
theorem Runs.followed {ss : List Stroke} (h : Runs p log 1 c) (respected : Respected p.receiver c ss) :
    ∃ ms, Followed p log c ss ms := by
  induction ss generalizing c log with
  | nil =>
    refine ⟨[], List.not_mem_nil, rfl, rfl, fun keeps before later split position at_ => ?_, .inl ⟨?_, rfl⟩⟩
    · obtain ⟨rfl, rfl⟩ := List.append_eq_nil_iff.mp split.symm
      exact keeps [] [] rfl position at_
    · rwa [Bus.log, List.append_nil]
  | cons s ss ih =>
    cases h.struck respected.1 with
    | drives ms drives runs =>
      obtain ⟨ns, followed⟩ := ih runs respected.2
      have bus := drives.bus
      have stays : .drop p.receiver ∉ ms ++ ns := fun mem =>
        (List.mem_append.mp mem).elim drives.stays followed.stays
      refine ⟨ms ++ ns, stays, ?_, ?_, fun keeps => ?_, ?_⟩
      · rw [Bus.receipts_append, drives.receipts, ← bus, followed.receipts]
        rfl
      · rw [emissions_cons, ← followed.emissions, ← drives.emissions]
        exact List.filterMap_append
      · refine Bus.keepsUp_append (keeps [] (s :: ss) rfl) drives.before ?_
        rw [← bus]
        exact followed.keeps keeps.tail
      · rw [Bus.log_append, Bus.run_append, ← List.append_assoc, ← bus]
        exact followed.ends
    | ended closed drained receipt emission ended =>
      obtain ⟨ends, silent, nothing⟩ := ended.strikes respected.2
      refine ⟨[], List.not_mem_nil, ?_, ?_, fun keeps before later split position at_ => ?_, .inr ⟨drained, ends⟩⟩
      · rw [receipts, receipt, silent]
        rfl
      · rw [emissions_cons, emission, nothing]
        rfl
      · obtain ⟨rfl, rfl⟩ := List.append_eq_nil_iff.mp split.symm
        exact keeps [] (s :: ss) rfl position at_

/-- A client that has nothing to do but to wait. -/
theorem idle_of_step (idle : c.step = none) : c.agenda = [] ∧ c.queue = [] ∧ c.turns = 0 := by
  unfold step at idle
  split at idle
  next => cases idle
  next => split at idle <;> cases idle
  next agenda queue =>
    split at idle
    next begun => exact ⟨agenda, queue, begun⟩
    next => cases idle

/-- When a client has nothing to do, its pumps have nothing to pass on. -/
theorem Runs.drained_of_idle (h : Runs p log 1 c) (idle : c.step = none) : c.bus.unread p.receiver = [] := by
  obtain ⟨agenda, queue, turns⟩ := idle_of_step idle
  refine (h.drained fun awake => ?_).1
  have none : own p.receiver c.putOff = [] := by
    by_contra off
    exact Nat.ne_of_gt (h.begun (.inr off)) turns
  have all := h.count
  rw [length_own_works, agenda, queue, awake, none] at all
  cases all

/-! ## One after the other -/

theorem respected_append (receiver : Nat) (c : Client) (ss ts : List Stroke) :
    Respected receiver c (ss ++ ts) ↔ Respected receiver c ss ∧ Respected receiver (c.strikes ss) ts := by
  induction ss generalizing c with
  | nil => exact ⟨fun h => ⟨trivial, h⟩, And.right⟩
  | cons s ss ih =>
    rw [List.cons_append, Respected, Respected, ih, and_assoc]
    rfl

/-- The work of a pump stands under what is left of its last dispatch. -/
theorem own_more_eq_nil {more rest : List Work} {left : Nat} (h : Runs p log 1 c)
    (agenda : c.agenda = more ++ .pump p.receiver left :: rest) : own p.receiver more = [] := by
  have all := h.count
  rw [length_own_works, agenda, own_append, own_cons_own, List.length_append, List.length_cons] at all
  exact List.eq_nil_of_length_eq_zero (by omega)

/-- What stands on the agenda under other work stays there for a stroke. -/
theorem agenda_strike {more below : List Work} (agenda : c.agenda = more ++ below) (busy : more ≠ []) (s : Stroke) :
    ∃ more', (c.strike s).agenda = more' ++ below := by
  cases s with
  | moment o =>
    by_cases work : o = .work
    · subst work
      obtain ⟨next, more, rfl⟩ := List.exists_cons_of_ne_nil busy
      obtain ⟨new, e⟩ := agenda_work agenda
      exact ⟨new ++ more, by rw [List.append_assoc]; exact e.symm⟩
    · obtain ⟨new, e⟩ := agenda_after (c := c) work
      exact ⟨new ++ more, by rw [List.append_assoc, ← agenda]; exact e.symm⟩
  | emit | close | subscribe | drop | tryReceive | await | spawn | abort | other => exact ⟨more, agenda⟩

/-- Before a pump dispatches again, what its last dispatch put on the agenda is done. -/
theorem exists_done {more rest : List Work} {left : Nat} {mid : List Stroke} {dispatch : Scene × Event}
    (h : Runs p log 1 c) (respected : Respected p.receiver c (mid ++ [s]))
    (agenda : c.agenda = more ++ .pump p.receiver left :: rest)
    (again : s.pumps p.receiver (c.strikes mid) = some dispatch) :
    ∃ done later, mid = done ++ later ∧ (c.strikes done).agenda = .pump p.receiver left :: rest := by
  induction mid generalizing c more log with
  | nil =>
    rcases more with _ | ⟨next, more⟩
    · exact ⟨[], [], rfl, agenda⟩
    · have other : next.isPump p.receiver = false :=
        Bool.eq_false_iff.mpr (List.filter_eq_nil_iff.mp (own_more_eq_nil h agenda) next List.mem_cons_self)
      cases s with
      | moment o =>
        cases o with
        | work =>
          change Stroke.pumps p.receiver c (.moment .work) = _ at again
          rw [Stroke.pumps, due?_of_agenda agenda, Option.bind_some, other] at again
          cases again
        | listen | drop | dispatch | demand => cases again
      | emit | close | subscribe | drop | tryReceive | await | spawn | abort | other => cases again
  | cons t mid ih =>
    by_cases idle : more = []
    · exact ⟨[], t :: mid, rfl, by rw [idle] at agenda; exact agenda⟩
    · obtain ⟨more', agenda'⟩ := agenda_strike agenda idle t
      cases h.struck respected.1 with
      | drives ms drives runs =>
        obtain ⟨done, later, rfl, ends⟩ := ih runs respected.2 agenda' again
        exact ⟨t :: done, later, rfl, ends⟩
      | ended closed drained receipt emission ended =>
        obtain ⟨meanwhile, last, -⟩ := (respected_append p.receiver _ mid [s]).mp respected.2
        obtain ⟨ends, -, -⟩ := ended.strikes meanwhile
        cases again.symm.trans (ends.struck last).2.1

/-- A pump dispatches to its hub, and goes on when that is done. -/
theorem Runs.strike_of_pumps {scene : Scene} {e : Event} (h : Runs p log 1 c)
    (pumps : s.pumps p.receiver c = some (scene, e)) : scene = ⟨p.hub, true⟩ ∧ ∃ left rest,
      (c.strike s).agenda = hearings ((c.hub p.hub).on e.channel) scene e ++ .pump p.receiver left :: rest := by
  cases s with
  | moment o =>
    cases o with
    | work =>
      obtain ⟨⟨work, d⟩, due, dispatch⟩ := Option.bind_eq_some_iff.mp pumps
      dsimp only at dispatch
      split at dispatch
      next own =>
        cases work with
        | pump i left =>
          cases eq_of_beq own
          have strike : c.strike (.moment .work) = d.pump p.receiver left := after_work_some due
          obtain ⟨q, rest, found, scene, rfl, next⟩ := pump_of_passes dispatch
          obtain ⟨runs, -, -⟩ := h.due due
          cases found.symm.trans runs.pump
          refine ⟨scene, rest, d.agenda, ?_⟩
          rw [strike, next, scene, hub, ← hubs_of_due? due]
          rfl
        | hear | act | answer | refresh | receive => cases own
      next => cases dispatch
    | listen | drop | dispatch | demand => cases pumps
  | emit | close | subscribe | drop | tryReceive | await | spawn | abort | other => cases pumps

/-! ## New pumps -/

/-- A client does not know of a receiver. -/
structure Stranger (receiver : Nat) (c : Client) : Prop where
  works : own receiver c.works = []
  pump : c.pump? receiver = none
  waits : ∀ w ∈ c.waits, w.2 ≠ receiver

/-- A client knows only of receivers that there were. -/
def Numbered (c : Client) : Prop := ∀ receiver, c.bus.subscribed ≤ receiver → Stranger receiver c

/-- Only receivers that there were are used in a run, and nobody emits when all who could are gone. -/
def Proper : Client → List Stroke → Prop
  | _, [] => True
  | c, s :: ss => (∀ receiver, c.bus.subscribed ≤ receiver → s.Respects receiver c) ∧ Proper (c.strike s) ss

theorem own_works_eq_nil : own receiver c.works = [] ↔ own receiver c.agenda = [] ∧ own receiver c.queue = [] ∧
    own receiver c.asleep = [] ∧ own receiver c.putOff = [] := by
  simp only [works, own_append, List.append_eq_nil_iff, and_assoc]

theorem Stranger.strike (h : Stranger receiver c) (new : ∀ hub, s = .spawn hub → c.bus.subscribed ≠ receiver)
    (respects : s.Respects receiver c) : Stranger receiver (c.strike s) ∧ ∃ ms, (c.strike s).bus = c.bus.run ms := by
  obtain ⟨agenda, queue, asleep, putOff⟩ := own_works_eq_nil.mp h.works
  have woken : own receiver (c.queue ++ c.asleep) = [] := by rw [own_append, queue, asleep, List.append_nil]
  cases around h.waits new respects with
  | own left d due =>
    rcases due?_cases due with ⟨rest, e, -⟩ | ⟨rest, -, e, -⟩
    · rw [e, own_cons_own] at agenda
      cases agenda
    · rw [e, own_cons_own] at queue
      cases queue
  | emit e => exact ⟨⟨own_works_eq_nil.mpr ⟨agenda, woken, rfl, putOff⟩, h.pump, h.waits⟩, [.emit e], rfl⟩
  | close => exact ⟨⟨own_works_eq_nil.mpr ⟨agenda, woken, rfl, putOff⟩, h.pump, h.waits⟩, [.close], rfl⟩
  | rest idle due rests =>
    have same : c.strike (.moment .work) = c.takeBreak := rests
    have back : own receiver (c.queue ++ c.putOff) = [] := by rw [own_append, queue, putOff, List.append_nil]
    rw [same]
    exact ⟨⟨own_works_eq_nil.mpr ⟨agenda, back, asleep, rfl⟩, h.pump, h.waits⟩, [], rfl⟩
  | beside b pumps emission =>
    refine ⟨⟨own_works_eq_nil.mpr ?_, b.pump.trans h.pump, fun w hw => (b.waits w hw).elim (h.waits w) id⟩, ?_⟩
    · exact ⟨b.agenda.trans agenda, b.queue.trans queue, b.asleep.trans asleep, b.putOff.trans putOff⟩
    · obtain ⟨ms, bus, -⟩ := b.bus
      exact ⟨ms, bus⟩

theorem Numbered.strike (h : c.Numbered) (respects : ∀ receiver, c.bus.subscribed ≤ receiver → s.Respects receiver c) :
    (c.strike s).Numbered ∧ ∃ ms, (c.strike s).bus = c.bus.run ms := by
  have next : c.bus.subscribed ≤ c.bus.subscribed + 1 := Nat.le_succ _
  obtain ⟨-, ms, bus⟩ := (h _ next).strike (fun _ _ => Nat.ne_of_lt (Nat.lt_succ_self _)) (respects _ next)
  refine ⟨fun receiver le => ?_, ms, bus⟩
  have before : c.bus.subscribed ≤ receiver := by
    rw [bus] at le
    exact Nat.le_trans (c.bus.subscribed_le_run ms) le
  refine ((h receiver before).strike (fun hub spawn => ?_) (respects receiver before)).1
  subst spawn
  exact Nat.ne_of_lt le

theorem Numbered.strikes {ss : List Stroke} (h : c.Numbered) (proper : Proper c ss) :
    (c.strikes ss).Numbered ∧ ∃ ms, (c.strikes ss).bus = c.bus.run ms := by
  induction ss generalizing c with
  | nil => exact ⟨h, [], rfl⟩
  | cons s ss ih =>
    obtain ⟨numbered, ms, bus⟩ := h.strike proper.1
    obtain ⟨numbered', ns, bus'⟩ := ih numbered proper.2
    refine ⟨numbered', ms ++ ns, ?_⟩
    rw [Bus.run_append, ← bus]
    exact bus'

/-- A new pump runs. -/
theorem runs_spawn (sound : c.bus.Sound log) (new : Stranger c.bus.subscribed c) (hub : Nat) :
    Runs ⟨c.bus.subscribed, hub⟩ log 1 (c.spawn hub) := by
  obtain ⟨agenda, queue, asleep, putOff⟩ := own_works_eq_nil.mp new.works
  refine ⟨?_, ?_, ?_, ?_, new.waits, fun sleeps => absurd asleep sleeps, fun runs => ?_⟩
  · have next := sound.after .subscribe
    rwa [Move.logs, List.append_nil] at next
    simp
  · exact Option.isSome_iff_exists.mpr ⟨_, sound.position?_subscribe⟩
  · have none : c.pumps.find? (fun q => q.receiver == c.bus.subscribed) = none := new.pump
    show (c.pumps ++ [_]).find? _ = _
    rw [List.find?_append, none]
    simp
  · have last : own c.bus.subscribed (c.queue ++ [.pump c.bus.subscribed stint]) = [.pump c.bus.subscribed stint] := by
      rw [own_append, queue, own_cons_own]
      rfl
    rw [length_own_works]
    show (own _ c.agenda).length + (own _ (c.queue ++ [_])).length + (own _ c.asleep).length +
      (own _ c.putOff).length = 1
    rw [agenda, last, asleep, putOff]
    rfl
  · exact runs.elim (absurd agenda) (absurd putOff)

end Switchboard.Client
