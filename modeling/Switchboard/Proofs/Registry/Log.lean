import Switchboard.Client.Step
import Switchboard.Proofs.Registry.Fetch

/-!
# The log of the registry page

`Incident` is what happens to the registry page of a client, refreshes left for later included, and `Watched` is a
client with a log of it, the newest entry first: when a fetch of the installed list begins, when its call reaches the
backend, when the reply comes, and when something changed. `entries_start`, `entries_refresh` and `entries_reply` give
what is logged of an operation's turn; a hearing logs a change if the watch handles it (`entries_hear`), and where
nothing happens nothing is logged (`entries_of_same`).
-/

namespace Switchboard

open Backend (Reply Rejection)
open Client (Scene Effect Work)

namespace Registry

/-! ## What happens to the page of a client -/

/-- What happens to the registry page of a client. -/
inductive Incident where
  /-- An operation starts, a reply comes, or the user changes what is shown. -/
  | moment (o : Moment)
  /-- A watch hears an event. -/
  | hear (payload : Json) (scene : Scene)
  /-- A refresh that was left for later starts. -/
  | refresh

end Registry

namespace Client

open Registry (Incident)

/-- Whether a refresh was left for later. -/
def refreshDue (c : Client) : Bool := c.queue.any Work.isRefresh

/-- The client after an incident, and what the world outside gets to know. -/
def meet (c : Client) : Incident → Client × List Effect
  | .moment (.start operation) => c.startRegistry operation
  | .moment (.reply id reply) => c.perform (.answer (.registry id) reply)
  | .moment (.adjust a) => (c.adjustRegistry a, [])
  | .hear payload scene => c.perform (.hear .changes payload scene)
  | .refresh =>
    if c.refreshDue then { c with queue := c.queue.eraseP Work.isRefresh }.perform .refresh else (c, [])

end Client

namespace Registry

/-! ## The log -/

/-- What is logged. -/
inductive Entry where
  /-- A mutation is acknowledged and not declined, or a watch handles an event about the current space. -/
  | changed
  /-- The operation `id` begins to fetch the installed list. -/
  | fetches (id : Nat)
  /-- Its call for the list of a space reaches the backend. -/
  | asks (id : Nat) (space : Uuid)
  /-- The reply to that call comes. -/
  | gets (id : Nat) (space : Uuid) (list : Except Rejection (List Installation))

/-- Whether a fetch begins. -/
def Entry.isFetch : Entry → Bool
  | .fetches _ => true
  | _ => false

/-- What a reply brings to the operation that waits for it. A mutation changes something unless it is declined. -/
def received (id : Nat) (reply : Reply) : Task → List Entry
  | .mutation m space =>
    match m.declined? space reply with
    | none => [.changed]
    | some _ => []
  | task =>
    match task.call with
    | .installed space => [.gets id space (reply.installed space)]
    | _ => []

/-- Whether a watch handles an event: the store is still there, the event is about its space, and work can be left for
later. -/
def handles (c : Client) (payload : Json) (scene : Scene) : Bool :=
  match ServerChanged.decode payload with
  | .ok e => c.registryAlive && c.registry.state.space == some e.spaceId && scene.background
  | .error _ => false

/-- What an incident brings to the page. -/
def news (c : Client) : Incident → List Entry
  | .moment (.reply id reply) => ((c.registry.task? id).map (received id reply)).getD []
  | .hear payload scene => if handles c payload scene then [.changed] else []
  | _ => []

/-- The operation that takes a turn in an incident. -/
def actor (c : Client) : Incident → Option Nat
  | .moment (.start _) | .refresh => some c.registry.started
  | .moment (.reply id _) => some id
  | .moment (.adjust _) | .hear .. => none

/-- The call for an installed list. -/
def asked? : Effect → Option Entry
  | .call (.registry id) (.installed space) => some (.asks id space)
  | _ => none

/-- The beginning of a fetch, if an operation is found to fetch that did not fetch before. -/
def begun (before after : Store) (id : Nat) : List Entry :=
  if !inFlight before id && inFlight after id then [.fetches id] else []

/-- What is logged of an incident, the newest entry first. -/
def entries (c : Client) (o : Incident) : List Entry :=
  (c.meet o).2.filterMap asked? ++ (((actor c o).map (begun c.registry (c.meet o).1.registry)).getD [] ++ news c o)

/-- A client with the log of its registry page, the newest entry first. -/
structure Watched where
  client : Client
  log : List Entry := []

/-- Takes in an incident. -/
def Watched.after (w : Watched) (o : Incident) : Watched := ⟨(w.client.meet o).1, entries w.client o ++ w.log⟩

/-- A new client after a run of incidents. -/
def watched (bus : Bus) (os : List Incident) : Watched := os.foldl Watched.after ⟨{ bus := bus }, []⟩

/-- The operation that began the last fetch. -/
def lastFetch? : List Entry → Option Nat
  | [] => none
  | .fetches id :: _ => some id
  | _ :: older => lastFetch? older

/-- The entries since the last fetch began. -/
def sinceFetch (log : List Entry) : List Entry := log.takeWhile fun e => !e.isFetch

theorem lastFetch?_append {new : List Entry} (plain : ∀ e ∈ new, e.isFetch = false) (log : List Entry) :
    lastFetch? (new ++ log) = lastFetch? log := by
  induction new with
  | nil => rfl
  | cons e new ih =>
    have rest := ih fun e' he' => plain e' (List.mem_cons_of_mem _ he')
    cases e with
    | fetches id => cases plain _ List.mem_cons_self
    | changed | asks id space | gets id space list => exact rest

theorem sinceFetch_append {new : List Entry} (plain : ∀ e ∈ new, e.isFetch = false) (log : List Entry) :
    sinceFetch (new ++ log) = new ++ sinceFetch log :=
  List.takeWhile_append_of_pos fun e he => by rw [plain e he]; rfl

/-! ## Turns -/

/-- The call for an installed list that an operation makes when it waits on. -/
def asks (id : Nat) (next : Next Task) : List Entry :=
  match next.task?.map Task.call with
  | some (.installed space) => [.asks id space]
  | _ => []

theorem mem_asks_iff {id : Nat} {next : Next Task} {e : Entry} :
    e ∈ asks id next ↔ ∃ task space, next.task? = some task ∧ task.call = .installed space ∧ e = .asks id space := by
  unfold asks
  constructor
  · intro he
    split at he
    · rename_i space call
      obtain ⟨task, waits, call⟩ := Option.map_eq_some_iff.mp call
      exact ⟨task, space, waits, call, List.mem_singleton.mp he⟩
    · cases he
  · rintro ⟨task, space, waits, call, rfl⟩
    rw [waits, Option.map_some, call]
    exact List.mem_singleton_self _

theorem filterMap_effects (id : Nat) (turn : Turn State Task) :
    (Client.effects (.registry id) Task.call (some turn)).filterMap asked? = asks id turn.next := by
  have notes : (turn.notes.map Effect.note).filterMap asked? = [] := by
    rw [List.filterMap_map, List.filterMap_eq_nil_iff]
    exact fun _ _ => rfl
  rw [Client.effects, List.filterMap_append, notes, List.nil_append, asks]
  cases turn.next with
  | waits task =>
    show ((asked? (.call (.registry id) task.call)).toList : List Entry) = _
    cases h : task.call <;> simp [asked?, Next.task?, h]
  | ends outcome => rfl

theorem isFetch_of_mem_asks {id : Nat} {next : Next Task} {e : Entry} (h : e ∈ asks id next) : e.isFetch = false := by
  obtain ⟨_, _, -, -, rfl⟩ := mem_asks_iff.mp h
  rfl

/-- Nothing but a call is logged when an operation waits on. -/
theorem mem_of_mem_asks_append {id : Nat} {next : Next Task} {log : List Entry} {e : Entry}
    (other : ∀ space, e ≠ .asks id space) (h : e ∈ asks id next ++ log) : e ∈ log := by
  rcases List.mem_append.mp h with h | h
  · obtain ⟨task, space, -, -, rfl⟩ := mem_asks_iff.mp h
    exact absurd rfl (other space)
  · exact h

theorem received_of_call {task : Task} {space : Uuid} (h : task.call = .installed space) (id : Nat) (reply : Reply) :
    received id reply task = [.gets id space (reply.installed space)] := by
  cases task with
  | mutation m space' => cases m <;> cases h
  | config load | home load config | catalog load config featured | offline load config featured catalog => cases h
  | installed load config featured catalog offline | refresh space' number =>
    cases h
    rfl

theorem received_of_fetch {task : Task} {fetch : Fetch} (is_fetch : task.fetch? = some fetch)
    (other : ∀ space, task.call ≠ .installed space) (id : Nat) (reply : Reply) : received id reply task = [] := by
  cases task with
  | config load | home load config | catalog load config featured | offline load config featured catalog => rfl
  | installed load config featured catalog offline => exact absurd rfl (other load.space)
  | refresh space number => exact absurd rfl (other space)
  | mutation m space => cases is_fetch

theorem asks_of_no_fetch {id : Nat} {next : Next Task} (h : ∀ task, next.task? = some task → task.fetch? = none) :
    asks id next = [] := by
  refine List.eq_nil_iff_forall_not_mem.mpr fun e he => ?_
  obtain ⟨task, space, waits, call, -⟩ := mem_asks_iff.mp he
  obtain ⟨fetch, is_fetch⟩ := Task.fetch?_isSome_of_call call
  rw [h task waits] at is_fetch
  cases is_fetch

theorem any_of_no_fetch {next : Next Task} (h : ∀ task, next.task? = some task → task.fetch? = none) :
    (next.task?.any fun task => task.fetch?.isSome) = false := by
  cases waits : next.task? with
  | none => rfl
  | some task =>
    rw [Option.any_some, h task waits]
    rfl

section Begun

variable {f : Store}

theorem begun_start (numbered : f.Numbered) (operation : Operation) :
    begun f (f.after behaviour (.start operation)) f.started =
      if (f.state.start operation).next.task?.any fun task => task.fetch?.isSome then [.fetches f.started] else [] := by
  rw [begun, inFlight, inFlight, task?_start, numbered f.started (Nat.le_refl _), Option.none_or, if_pos rfl]
  rfl

theorem begun_reply {id : Nat} {task : Task} (waits : f.task? id = some task) (reply : Reply) :
    begun f (f.after behaviour (.reply id reply)) id =
      if !task.fetch?.isSome && (f.state.resume reply task).next.task?.any fun task => task.fetch?.isSome then
        [.fetches id] else [] := by
  rw [begun, inFlight, inFlight, task?_reply waits, if_pos rfl, waits]
  rfl

theorem begun_self (f : Store) (id : Nat) : begun f f id = [] := by
  unfold begun
  cases inFlight f id <;> rfl

end Begun

section Client

variable (c : Client)

theorem entries_start (operation : Operation) :
    entries c (.moment (.start operation)) = asks c.registry.started (c.registry.state.start operation).next ++
      begun c.registry (c.registry.after behaviour (.start operation)) c.registry.started := by
  rw [← filterMap_effects]
  exact congrArg _ (List.append_nil _)

theorem entries_refresh (due : c.refreshDue = true) :
    entries c .refresh = asks c.registry.started (c.registry.state.start .refresh).next ++
      begun c.registry (c.registry.after behaviour (.start .refresh)) c.registry.started := by
  rw [← filterMap_effects]
  unfold entries Client.meet
  rw [if_pos due]
  exact congrArg _ (List.append_nil _)

variable {c} {id : Nat} {task : Task}

theorem meet_reply_of_waits (waits : c.registry.task? id = some task) (reply : Reply) :
    c.meet (.moment (.reply id reply)) = ({ c with registry := c.registry.after behaviour (.reply id reply) },
      Client.effects (.registry id) Task.call (some (c.registry.state.resume reply task))) := by
  simp only [Client.meet, Client.perform, Client.answer, Client.turnRegistry, Flight.after, Flight.take, waits]
  rfl

theorem entries_reply (waits : c.registry.task? id = some task) (reply : Reply) :
    entries c (.moment (.reply id reply)) = asks id (c.registry.state.resume reply task).next ++
      (begun c.registry (c.registry.after behaviour (.reply id reply)) id ++ received id reply task) := by
  rw [← filterMap_effects, entries, meet_reply_of_waits waits]
  simp only [news, waits]
  rfl

/-- Nothing is logged where nothing happens. -/
theorem entries_of_same {o : Incident} (same : c.meet o = (c, [])) (none : news c o = []) : entries c o = [] := by
  rw [entries, same, none]
  cases actor c o with
  | none => rfl
  | some id => exact (List.append_nil _).trans (begun_self _ _)

theorem meet_reply_of_over (finished : c.registry.task? id = none) (reply : Reply) :
    c.meet (.moment (.reply id reply)) = (c, []) := by
  simp only [Client.meet, Client.perform, Client.answer, Client.turnRegistry, Flight.take, finished]
  rfl

theorem meet_hear (payload : Json) (scene : Scene) :
    c.meet (.hear payload scene) = (if handles c payload scene then c.later [.refresh] else c, []) := by
  show c.hear .changes payload scene = _
  cases decoded : ServerChanged.decode payload with
  | ok e =>
    simp only [Client.hear, handles, decoded]
    split <;> rfl
  | error fault =>
    simp only [Client.hear, handles, decoded]
    rfl

theorem handles_of_unbound (unbound : c.registry.state.space = none) (payload : Json) (scene : Scene) :
    handles c payload scene = false := by
  unfold handles
  cases ServerChanged.decode payload with
  | ok e =>
    show (c.registryAlive && c.registry.state.space == some e.spaceId && scene.background) = false
    rw [unbound, Option.none_beq_some, Bool.and_false, Bool.false_and]
  | error fault => rfl

theorem entries_hear {payload : Json} {scene : Scene} (hears : handles c payload scene = true) :
    entries c (.hear payload scene) = [.changed] := by
  rw [entries, meet_hear, hears]
  simp only [news, hears]
  rfl

theorem refreshDue_later : (c.later [.refresh]).refreshDue = true := by
  rw [Client.refreshDue, Client.later, List.any_append]
  exact Bool.or_true _

end Client

end Registry

end Switchboard
