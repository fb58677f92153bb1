import Switchboard.Proofs.Bus.Losses
import Switchboard.Proofs.Client.Dispatches

/-!
# What goes on beside a pump

A run of a client with its bus is a list of strokes (`Stroke`): moments of the client, and whatever is done with the bus
by others. Most of them leave the pump of a receiver alone: they put work of others around what the pump has to do, and
move other receivers (`Beside`). All work of a client is such, but for the pump's own (`beside_perform`), and so are all
strokes but for that work, breaks, and what wakes those who sleep (`around`).
-/

namespace Switchboard.Client

open Bus (Move)

/-! ## Strokes -/

/-- Starts a pump to a hub. -/
def spawn (c : Client) (hub : Nat) : Client :=
  let pump : Pump := ⟨c.bus.subscribed, hub⟩
  { c with bus := c.bus.subscribe, pumps := c.pumps ++ [pump] }.later [.pump pump.receiver stint]

/-- Whether a piece of work is that of a receiver's pump. -/
def Work.isPump (receiver : Nat) : Work → Bool
  | .pump r _ => r == receiver
  | _ => false

/-- What happens to a client and its bus. -/
inductive Stroke where
  | moment (o : Moment)
  | emit (e : Event)
  /-- The last one who could emit is gone. -/
  | close
  /-- Someone subscribes to the bus. -/
  | subscribe
  | drop (receiver : Nat)
  | tryReceive (receiver : Nat)
  /-- Someone waits for the next event of a receiver. -/
  | await (receiver : Nat)
  | spawn (hub : Nat)
  /-- A pump is stopped. -/
  | abort (receiver : Nat)
  /-- Something else, that has nothing to do with the bus or with work that is due. -/
  | other (d : Client)

/-- The client after a stroke. -/
def strike (c : Client) : Stroke → Client
  | .moment o => c.after o
  | .emit e => c.emit e
  | .close => { c with bus := { c.bus with closed := true } }.wake
  | .subscribe => { c with bus := c.bus.subscribe }
  | .drop i => { c with bus := c.bus.unsubscribe i }
  | .tryReceive i => { c with bus := (c.bus.tryReceive i).2 }
  | .await i => { c with waits := c.waits ++ [(c.waitsStarted, i)], waitsStarted := c.waitsStarted + 1 }
  | .spawn hub => c.spawn hub
  | .abort i => { c.stopPump i with asleep := c.asleep.filter fun w => !w.isPump i }
  | .other d =>
    { d with
      bus := c.bus
      pumps := c.pumps
      waits := c.waits
      waitsStarted := c.waitsStarted
      agenda := c.agenda
      queue := c.queue
      turns := c.turns
      asleep := c.asleep
      putOff := c.putOff }

/-- The client after a run of strokes. -/
def strikes (c : Client) (ss : List Stroke) : Client := ss.foldl strike c

theorem strikes_append (c : Client) (ss ts : List Stroke) : c.strikes (ss ++ ts) = (c.strikes ss).strikes ts :=
  List.foldl_append

/-- Nobody but its pump uses a receiver, and nobody emits when all who could are gone. -/
def Stroke.Respects (receiver : Nat) (c : Client) : Stroke → Prop
  | .moment (.demand work) => work.isPump receiver = false
  | .moment _ | .close | .subscribe | .spawn _ | .other _ => True
  | .emit _ => c.bus.closed = false
  | .drop i | .tryReceive i | .await i | .abort i => i ≠ receiver

/-- So it is in a whole run. -/
def Respected (receiver : Nat) : Client → List Stroke → Prop
  | _, [] => True
  | c, s :: ss => s.Respects receiver c ∧ Respected receiver (c.strike s) ss

/-- The event that a stroke emits. -/
def Stroke.emission? : Stroke → Option Event
  | .emit e => some e
  | _ => none

/-- The events that are emitted in a run. -/
def emissions (ss : List Stroke) : List Event := ss.filterMap Stroke.emission?

theorem emissions_cons (s : Stroke) (ss : List Stroke) : emissions (s :: ss) = s.emission?.toList ++ emissions ss := by
  rw [emissions, List.filterMap_cons]
  cases s.emission? <;> rfl

/-- What the pump of a receiver dispatches by a stroke. -/
def Stroke.pumps (receiver : Nat) (c : Client) : Stroke → Option (Scene × Event)
  | .moment .work => c.due?.bind fun next => if next.1.isPump receiver then next.1.dispatches next.2 else none
  | _ => none

/-! ## What leaves a pump alone -/

/-- A move that makes no difference to a receiver. -/
structure Spares (receiver : Nat) (m : Move) : Prop where
  attempt : m.receiver? ≠ some receiver
  drop : m ≠ .drop receiver
  emission : m.emission? = none
  close : m ≠ .close

/-- The work of a receiver's pump. -/
def own (receiver : Nat) (works : List Work) : List Work := works.filter (Work.isPump receiver)

/-- The client goes on without touching the pump of a receiver. -/
structure Beside (receiver : Nat) (c d : Client) : Prop where
  agenda : own receiver d.agenda = own receiver c.agenda
  queue : own receiver d.queue = own receiver c.queue
  asleep : own receiver d.asleep = own receiver c.asleep
  putOff : own receiver d.putOff = own receiver c.putOff
  turns : c.turns ≤ d.turns
  pump : d.pump? receiver = c.pump? receiver
  waits : ∀ w ∈ d.waits, w ∈ c.waits ∨ w.2 ≠ receiver
  bus : ∃ ms, d.bus = c.bus.run ms ∧ ∀ m ∈ ms, Spares receiver m

variable {receiver : Nat} {b c d : Client} {work : Work}

theorem own_append (receiver : Nat) (works more : List Work) :
    own receiver (works ++ more) = own receiver works ++ own receiver more := List.filter_append works more

theorem own_map {α : Type} {make : α → Work} (h : ∀ a, (make a).isPump receiver = false) (l : List α) :
    own receiver (l.map make) = [] := by
  refine List.filter_eq_nil_iff.mpr fun w hw => ?_
  obtain ⟨a, -, rfl⟩ := List.mem_map.mp hw
  exact Bool.eq_false_iff.mp (h a)

theorem own_hearings (receiver : Nat) (listeners : List (Listener Handler)) (scene : Scene) (e : Event) :
    own receiver (hearings listeners scene e) = [] := own_map (fun _ => rfl) listeners

theorem own_singleton (h : work.isPump receiver = false) : own receiver [work] = [] :=
  List.filter_cons_of_neg (Bool.eq_false_iff.mp h)

theorem own_cons_other (h : work.isPump receiver = false) (works : List Work) :
    own receiver (work :: works) = own receiver works := List.filter_cons_of_neg (Bool.eq_false_iff.mp h)

theorem own_append_other {works more : List Work} (h : own receiver more = []) :
    own receiver (works ++ more) = own receiver works := by rw [own_append, h, List.append_nil]

theorem own_other_append {works more : List Work} (h : own receiver more = []) :
    own receiver (more ++ works) = own receiver works := by rw [own_append, h, List.nil_append]

/-- Nothing is done that a pump could notice. -/
theorem beside_same (agenda : d.agenda = c.agenda) (queue : d.queue = c.queue) (asleep : d.asleep = c.asleep)
    (putOff : d.putOff = c.putOff) (turns : d.turns = c.turns) (pumps : d.pumps = c.pumps) (waits : d.waits = c.waits)
    (bus : d.bus = c.bus) : c.Beside receiver d where
  agenda := by rw [agenda]
  queue := by rw [queue]
  asleep := by rw [asleep]
  putOff := by rw [putOff]
  turns := Nat.le_of_eq turns.symm
  pump := by rw [pump?, pump?, pumps]
  waits w hw := .inl (waits ▸ hw)
  bus := ⟨[], bus, List.forall_mem_nil _⟩

namespace Beside

theorem refl (receiver : Nat) (c : Client) : c.Beside receiver c := beside_same rfl rfl rfl rfl rfl rfl rfl rfl

theorem trans (h : b.Beside receiver c) (h' : c.Beside receiver d) : b.Beside receiver d where
  agenda := h'.agenda.trans h.agenda
  queue := h'.queue.trans h.queue
  asleep := h'.asleep.trans h.asleep
  putOff := h'.putOff.trans h.putOff
  turns := Nat.le_trans h.turns h'.turns
  pump := h'.pump.trans h.pump
  waits w hw := (h'.waits w hw).elim (h.waits w) .inr
  bus := by
    obtain ⟨ms, bus, spares⟩ := h.bus
    obtain ⟨ns, bus', spares'⟩ := h'.bus
    refine ⟨ms ++ ns, ?_, fun m hm => (List.mem_append.mp hm).elim (spares m) (spares' m)⟩
    rw [bus', bus, Bus.run_append]

theorem first {new : List Work} (h : c.Beside receiver d) (others : own receiver new = []) :
    c.Beside receiver (d.first new) :=
  { h with agenda := (own_other_append others).trans h.agenda }

/-- One move of the bus. -/
theorem move {m : Move} (spares : Spares receiver m) : c.Beside receiver { c with bus := c.bus.after m } :=
  { refl receiver c with bus := ⟨[m], rfl, List.forall_mem_singleton.mpr spares⟩ }

/-- Work of others is begun. -/
theorem due (h : c.due? = some (work, d)) (other : work.isPump receiver = false) : c.Beside receiver d := by
  rcases due?_cases h with ⟨rest, agenda, rfl⟩ | ⟨rest, -, queue, -, rfl⟩
  · refine { refl receiver c with agenda := ?_ }
    rw [agenda, own_cons_other other]
  · refine { refl receiver c with queue := ?_, turns := Nat.le_succ _ }
    rw [queue, own_cons_other other]

end Beside

/-! ## Work of others -/

theorem beside_hear (handler : Handler) (payload : Json) (scene : Scene) :
    c.Beside receiver (c.hear handler payload scene).1 := by
  cases handler with
  | status | progress | features =>
    simp only [hear]
    split
    · exact beside_same rfl rfl rfl rfl rfl rfl rfl rfl
    · exact .refl _ c
  | changes =>
    simp only [hear]
    split
    · split
      · exact { Beside.refl receiver c with queue := own_append_other (own_singleton rfl) }
      · exact .refl _ c
    · exact .refl _ c
  | script name reading actions =>
    simp only [hear]
    split
    · exact (Beside.refl receiver c).first (own_map (fun _ => rfl) actions)
    · exact .refl _ c

theorem beside_act (scene : Scene) (action : Action) : c.Beside receiver (c.act scene action).1 := by
  cases action with
  | unsubscribe name =>
    obtain ⟨listeners, e⟩ := c.dropListener_eq name
    rw [act, e]
    exact beside_same rfl rfl rfl rfl rfl rfl rfl rfl
  | listen name channel reading actions =>
    rw [act, addListener_eq]
    exact beside_same rfl rfl rfl rfl rfl rfl rfl rfl
  | dispatch e => exact (Beside.refl receiver c).first (own_hearings _ _ _ _)
  | attach space =>
    obtain ⟨connection, subscriptions, e⟩ := c.startConnection_attach_eq space
    rw [act, e]
    exact beside_same rfl rfl rfl rfl rfl rfl rfl rfl
  | detach =>
    rw [act, detach, unsubscribeConnection_eq]
    exact beside_same rfl rfl rfl rfl rfl rfl rfl rfl

theorem beside_answer (reply : Backend.Reply) (ticket : Ticket) :
    c.Beside receiver (c.answer reply ticket).1 := by
  cases ticket with
  | connection id =>
    let turned := (c.turnConnection (.connection id) (.reply id reply)).1
    obtain ⟨subscriptions, e⟩ := turned.tidyConnection_eq
    show c.Beside receiver turned.tidyConnection
    rw [e]
    exact beside_same rfl rfl rfl rfl rfl rfl rfl rfl
  | registry id => exact beside_same rfl rfl rfl rfl rfl rfl rfl rfl
  | receive id => exact .refl _ c

theorem pump?_stopPump {i : Nat} (other : i ≠ receiver) : (c.stopPump i).pump? receiver = c.pump? receiver := by
  have same : (fun p : Pump => decide ((p.receiver != i) = true ∧ (p.receiver == receiver) = true)) =
      fun p => p.receiver == receiver := by
    funext p
    by_cases own : p.receiver = receiver
    · simp [own, Ne.symm other]
    · simp [own]
  show (c.pumps.filter fun p => p.receiver != i).find? _ = _
  rw [List.find?_filter, same]
  rfl

theorem spares_subscribe : Spares receiver .subscribe := ⟨by simp [Move.receiver?], by simp, rfl, by simp⟩

theorem isPump_own (receiver left : Nat) : (Work.pump receiver left).isPump receiver = true :=
  beq_self_eq_true receiver

section

variable {i : Nat} (other : i ≠ receiver)

include other

theorem spares_attempt {m : Move} (h : m.receiver? = some i) : Spares receiver m := by
  cases m with
  | look | tryReceive | receive =>
    cases h
    exact ⟨fun own => other (Option.some.inj own), by simp, rfl, by simp⟩
  | emit | subscribe | drop | close => cases h

theorem spares_drop : Spares receiver (.drop i) :=
  ⟨by simp [Move.receiver?], fun own => other (Move.drop.inj own), rfl, by simp⟩

theorem isPump_of_ne (left : Nat) : (Work.pump i left).isPump receiver = false := beq_false_of_ne other

end

/-- The work of another receiver's pump is given up. -/
theorem own_filter {i : Nat} (other : i ≠ receiver) (works : List Work) :
    own receiver (works.filter fun w => !w.isPump i) = own receiver works := by
  rw [own, List.filter_filter]
  refine List.filter_congr fun w _ => ?_
  cases w with
  | pump r left =>
    by_cases own : r = receiver
    · simp [Work.isPump, own, Ne.symm other]
    · simp [Work.isPump, own]
  | hear | act | answer | refresh | receive => rfl

/-- The pump of another receiver is stopped. -/
theorem beside_stopPump {i : Nat} (other : i ≠ receiver) : c.Beside receiver (c.stopPump i) :=
  { Beside.move (c := c) (spares_drop other) with pump := pump?_stopPump other }

/-- The pump of another receiver goes on. -/
theorem beside_pump {i : Nat} (other : i ≠ receiver) (left : Nat) : c.Beside receiver (c.pump i left) := by
  have looked {f bus} (found : c.bus.look i = (f, bus)) : c.Beside receiver { c with bus := bus } := by
    have moved := Beside.move (c := c) (spares_attempt other (m := .look i) rfl)
    rwa [Bus.after, found] at moved
  have others : ∀ left, own receiver [.pump i left] = [] := fun left => own_singleton (isPump_of_ne other left)
  unfold pump
  split
  next => exact .refl _ c
  next =>
    refine { Beside.refl receiver c with putOff := ?_ }
    exact own_cons_other (isPump_of_ne other stint) c.putOff
  next =>
    split
    next found => exact ((looked found).first (others _)).first (own_hearings _ _ _ _)
    next found => exact (looked found).first (others _)
    next found => exact { looked found with asleep := own_append_other (others _) }
    next found => exact (looked found).trans (beside_stopPump other)

theorem beside_tidyReceiver {i : Nat} (other : i ≠ receiver) : c.Beside receiver (c.tidyReceiver i) := by
  unfold tidyReceiver
  split
  · exact .refl _ c
  · exact .move (spares_drop other)

theorem beside_endWait {i : Nat} (other : i ≠ receiver) (id : Nat) (e : Option Event) :
    c.Beside receiver (c.endWait id i e).1 := by
  have ended : c.Beside receiver { c with waits := c.waits.filter fun w => w.1 != id } :=
    { Beside.refl receiver c with waits := fun w hw => .inl (List.mem_filter.mp hw).1 }
  simp only [endWait]
  split
  · exact { ended with queue := own_append_other (own_singleton rfl) }
  · exact ended.trans (beside_tidyReceiver other)

/-- Someone who waits for another receiver gets its next event, or waits on. -/
theorem beside_receive {i : Nat} (waits : ∀ w ∈ c.waits, w.2 ≠ receiver) : c.Beside receiver (c.receive i).1 := by
  unfold receive
  split
  next => exact .refl _ c
  next id first =>
    have other : i ≠ receiver := by
      obtain ⟨w, found, -⟩ := Option.map_eq_some_iff.mp first
      have own : w.2 = i := by simpa using List.find?_some found
      exact own ▸ waits w (List.mem_of_find?_eq_some found)
    have received {r bus} (found : c.bus.receive i = (r, bus)) : c.Beside receiver { c with bus := bus } := by
      have moved := Beside.move (c := c) (spares_attempt other (m := .receive i) rfl)
      rwa [Bus.after, found] at moved
    split
    next found => exact (received found).trans (beside_endWait other _ _)
    next found => exact { received found with asleep := own_append_other (own_singleton rfl) }

/-- All work but its own leaves a pump alone. -/
theorem beside_perform (waits : ∀ w ∈ c.waits, w.2 ≠ receiver) (other : work.isPump receiver = false) :
    c.Beside receiver (c.perform work).1 := by
  cases work with
  | hear handler payload scene => exact beside_hear handler payload scene
  | act action scene => exact beside_act scene action
  | answer ticket reply => exact beside_answer reply ticket
  | refresh => exact beside_same rfl rfl rfl rfl rfl rfl rfl rfl
  | pump i left => exact beside_pump (ne_of_beq_false other) left
  | receive i => exact beside_receive waits

/-! ## Strokes around a pump -/

/-- What a stroke is for the pump of a receiver: its own work, or something that it has to do with, or nothing. -/
inductive Around (receiver : Nat) (c : Client) : Stroke → Prop
  | own (left : Nat) (d : Client) : c.due? = some (.pump receiver left, d) → Around receiver c (.moment .work)
  | emit (e : Event) : c.bus.closed = false → Around receiver c (.emit e)
  | close : Around receiver c .close
  /-- Work that was put off gets in line. -/
  | rest : c.agenda = [] → c.due? = none → c.after .work = c.takeBreak → Around receiver c (.moment .work)
  | beside {s : Stroke} : c.Beside receiver (c.strike s) → s.pumps receiver c = none → s.emission? = none →
      Around receiver c s

/-- **Strokes around a pump.** -/
theorem around {s : Stroke} (waits : ∀ w ∈ c.waits, w.2 ≠ receiver)
    (new : ∀ hub, s = .spawn hub → c.bus.subscribed ≠ receiver) (respects : s.Respects receiver c) :
    Around receiver c s := by
  cases s with
  | moment o =>
    cases o with
    | work =>
      cases due : c.due? with
      | none =>
        rcases after_work_none due with rests | ⟨rests, -⟩
        · exact .rest (agenda_of_due?_none due) due rests
        · refine .beside ?_ (by rw [Stroke.pumps, due]; rfl) rfl
          show c.Beside receiver (c.after .work)
          rw [rests]
          exact .refl _ c
      | some next =>
        obtain ⟨work, d⟩ := next
        by_cases own : work.isPump receiver = true
        · cases work with
          | pump i left =>
            cases eq_of_beq own
            exact .own left d due
          | hear | act | answer | refresh | receive => cases own
        · rw [Bool.not_eq_true] at own
          have begun := Beside.due due own
          refine .beside ?_ ?_ rfl
          · show c.Beside receiver (c.after .work)
            rw [after_work_some due]
            refine begun.trans (beside_perform (fun w hw => ?_) own)
            exact (begun.waits w hw).elim (waits w) id
          · rw [Stroke.pumps, due, Option.bind_some, own]
            rfl
    | listen | drop => exact .beside (beside_same rfl rfl rfl rfl rfl rfl rfl rfl) rfl rfl
    | dispatch scene e => exact .beside ((Beside.refl receiver c).first (own_hearings _ _ _ _)) rfl rfl
    | demand work => exact .beside ((Beside.refl receiver c).first (own_singleton respects)) rfl rfl
  | emit e => exact .emit e respects
  | close => exact .close
  | subscribe => exact .beside (.move spares_subscribe) rfl rfl
  | drop i => exact .beside (.move (spares_drop respects)) rfl rfl
  | tryReceive i => exact .beside (.move (spares_attempt respects (m := .tryReceive i) rfl)) rfl rfl
  | await i =>
    refine .beside { Beside.refl receiver c with waits := fun w hw => ?_ } rfl rfl
    refine (List.mem_append.mp hw).imp_right fun added => ?_
    rw [List.mem_singleton.mp added]
    exact respects
  | spawn hub =>
    have new := new hub rfl
    refine .beside { Beside.move (c := c) spares_subscribe with queue := ?_, pump := ?_ } rfl rfl
    · exact own_append_other (own_singleton (isPump_of_ne new stint))
    · show (c.pumps ++ [_]).find? _ = c.pumps.find? _
      rw [List.find?_append, List.find?_singleton, if_neg (by simpa using new), Option.or_none]
  | abort i =>
    refine .beside { beside_stopPump (c := c) respects with asleep := ?_ } rfl rfl
    exact own_filter respects c.asleep
  | other d => exact .beside (beside_same rfl rfl rfl rfl rfl rfl rfl rfl) rfl rfl

/-! ## The bus meanwhile -/

section

variable {bus : Bus} {m : Move} {ms : List Move} {position : Nat}

theorem Spares.same (h : Spares receiver m) (bus : Bus) : ∃ receivers subscribed, bus.subscribed ≤ subscribed ∧
    bus.after m = { bus with receivers := receivers, subscribed := subscribed } := by
  cases own : m.receiver? with
  | some i =>
    obtain ⟨receivers, same⟩ := (Bus.attempt own bus).same
    exact ⟨receivers, bus.subscribed, Nat.le_refl _, same⟩
  | none =>
    cases m with
    | emit e => cases h.emission
    | subscribe => exact ⟨_, _, Nat.le_succ _, rfl⟩
    | drop i => exact ⟨_, _, Nat.le_refl _, rfl⟩
    | close => exact absurd rfl h.close
    | look | tryReceive | receive => cases own

/-- Where a receiver is spared all is the same but for other receivers. -/
theorem same_spared (h : ∀ m ∈ ms, Spares receiver m) (bus : Bus) : ∃ receivers subscribed,
    bus.subscribed ≤ subscribed ∧ bus.run ms = { bus with receivers := receivers, subscribed := subscribed } := by
  induction ms generalizing bus with
  | nil => exact ⟨_, _, Nat.le_refl _, rfl⟩
  | cons m ms ih =>
    obtain ⟨first, others⟩ := List.forall_mem_cons.mp h
    obtain ⟨receivers, subscribed, le, same⟩ := first.same bus
    obtain ⟨receivers', subscribed', le', same'⟩ := ih others (bus.after m)
    refine ⟨receivers', subscribed', ?_, ?_⟩
    · rw [same] at le'
      exact Nat.le_trans le le'
    · show (bus.after m).run ms = _
      rw [same', same]

theorem position?_spared (h : ∀ m ∈ ms, Spares receiver m) (at_ : bus.position? receiver = some position) :
    (bus.run ms).position? receiver = some position := by
  induction ms generalizing bus with
  | nil => exact at_
  | cons m ms ih =>
    obtain ⟨first, others⟩ := List.forall_mem_cons.mp h
    exact ih others (Bus.position?_after at_ first.drop first.attempt)

theorem unread_spared (h : ∀ m ∈ ms, Spares receiver m) (at_ : bus.position? receiver = some position) :
    (bus.run ms).unread receiver = bus.unread receiver := by
  obtain ⟨receivers, subscribed, -, same⟩ := same_spared h bus
  rw [Bus.unread, Bus.unread, position?_spared h at_, at_, same]
  rfl

theorem receipts_spared (h : ∀ m ∈ ms, Spares receiver m) : Bus.receipts receiver bus ms = [] := by
  induction ms generalizing bus with
  | nil => rfl
  | cons m ms ih =>
    obtain ⟨first, others⟩ := List.forall_mem_cons.mp h
    rw [Bus.receipts, Bus.Move.receipt?, Bus.yields_of_not_attempt first.attempt, ih others]
    rfl

theorem log_spared (h : ∀ m ∈ ms, Spares receiver m) : bus.log ms = [] := by
  induction ms generalizing bus with
  | nil => rfl
  | cons m ms ih =>
    obtain ⟨first, others⟩ := List.forall_mem_cons.mp h
    rw [Bus.log, ih others, List.append_nil]
    cases m with
    | emit e => cases first.emission
    | subscribe | drop | close | look | tryReceive | receive => rfl

theorem emissions_spared (h : ∀ m ∈ ms, Spares receiver m) : Bus.emissions ms = [] :=
  List.filterMap_eq_nil_iff.mpr fun m hm => (h m hm).emission

end

end Switchboard.Client
