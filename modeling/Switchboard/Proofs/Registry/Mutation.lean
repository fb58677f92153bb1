import Switchboard.Client.Step
import Switchboard.Proofs.Course
import Switchboard.Proofs.Registry.Alike
import Switchboard.Proofs.Registry.Run

/-!
# What a mutation does

What the world outside gets to know of one operation are the effects of its turns, in order (`effectsOf`). A mutation
that is in flight has made its call, and nothing else tells of it but the changes under way: the run is alike to that
without the mutation, whatever other operations do meanwhile (`Attempt.shadows`). When its reply comes, a declined
mutation says why and leaves it at that, and an accepted one goes on as a refresh that starts just then. Main statement:
`mutation_outcomes`.
-/

namespace Switchboard.Registry

open Backend (Call Rejection Reply)
open Client (Effect)

/-! ## The first turn of a mutation -/

namespace State

variable (s : State) (m : Mutation) {space : Uuid}

/-- A mutation in a space waits for its reply. -/
theorem start_mutate_of_known (known : s.space = some space) : s.start (.mutate m) =
    ⟨s.withPending (s.pending.add m.server), .waits (.mutation m space), []⟩ := by
  obtain ⟨current⟩ := s
  cases known
  rfl

/-- Without a space there is nothing to change. -/
theorem start_mutate_of_unknown (unknown : s.space = none) :
    s.start (.mutate m) = ⟨s, .ends (.error .notAttached), []⟩ := by
  obtain ⟨current⟩ := s
  cases unknown
  rfl

end State

/-! ## One operation of a run -/

/-- What the world outside gets to know of the operation numbered `id` in a run. -/
def effectsIn (f : Store) (id : Nat) (os : List Moment) : List Effect :=
  (f.course behaviour id os).flatMap fun turn => Client.effects (.registry id) Task.call (some turn)

/-- What the world outside gets to know of the operation numbered `id` in a run from the start. -/
def effectsOf (os : List Moment) (id : Nat) : List Effect := effectsIn fresh id os

theorem effectsIn_append (f : Store) (id : Nat) (os ps : List Moment) :
    effectsIn f id (os ++ ps) = effectsIn f id os ++ effectsIn (f.run behaviour os) id ps := by
  rw [effectsIn, Flight.course_append, List.flatMap_append]
  rfl

theorem effectsIn_cons (f : Store) (id : Nat) (o : Moment) (os : List Moment) :
    effectsIn f id (o :: os) =
      ((f.turn? behaviour id o).toList.flatMap fun turn => Client.effects (.registry id) Task.call (some turn)) ++
        effectsIn (f.after behaviour o) id os := by
  rw [effectsIn, Flight.course, List.flatMap_append]
  rfl

theorem effectsIn_of_unanswered {f : Store} {id : Nat} (given : id < f.started) {os : List Moment}
    (unanswered : os.any (Occurrence.answers id) = false) : effectsIn f id os = [] := by
  rw [effectsIn, Flight.course_of_unanswered given unanswered]
  rfl

theorem effectsIn_of_over {f : Store} {id : Nat} (given : id < f.started) (finished : f.task? id = none)
    (os : List Moment) : effectsIn f id os = [] := by
  rw [effectsIn, Flight.course_of_over given finished]
  rfl

/-- An operation has no effects before it is started; the first are those of its first turn. -/
theorem effectsOf_start (before : List Moment) (operation : Operation) (rest : List Moment) :
    effectsOf (before ++ .start operation :: rest) (reached before).started =
      Client.effects (.registry (reached before).started) Task.call (some ((reached before).state.start operation)) ++
        effectsIn ((reached before).after behaviour (.start operation)) (reached before).started rest := by
  have numbered : fresh.Numbered := fun _ _ => rfl
  have none : fresh.course behaviour (reached before).started before = [] :=
    Flight.course_of_not_started numbered (Nat.le_refl _)
  have first := (reached before).turn?_start behaviour operation
  have later : fresh.run behaviour before = reached before := rfl
  rw [effectsOf, effectsIn_append, effectsIn, none, List.flatMap_nil, List.nil_append, later, effectsIn_cons, first,
    Option.toList_some, List.flatMap_singleton]
  rfl

/-- The last effect of a refresh is that it is done, once its reply came. -/
theorem effectsIn_refresh {f : Store} {id : Nat} {space : Uuid} {fetch : Nat} (given : id < f.started)
    (waits : f.task? id = some (.refresh space fetch)) (os : List Moment) :
    effectsIn f id os =
      if os.any (Occurrence.answers id) then [.finished (.registry id) (.outcome (.ok ()))] else [] := by
  rcases Flight.exists_course_of_last (b := behaviour) given waits (fun _ _ => rfl) os with
    ⟨unanswered, none⟩ | ⟨answered, s, reply, last⟩
  · rw [effectsIn, none, unanswered]
    rfl
  · rw [effectsIn, last, answered]
    rfl

/-! ## A mutation in a run -/

/-- A mutation that begins in a space, and what happens while its reply is awaited. -/
structure Attempt where
  before : List Moment
  mutation : Mutation
  space : Uuid
  during : List Moment
  current : (reached before).state.space = some space
  unanswered : during.any (Occurrence.answers (reached before).started) = false

namespace Attempt

variable (a : Attempt)

/-- The number of the mutation among the operations. -/
def number : Nat := (reached a.before).started

/-- The run until the reply comes. -/
def inFlight : List Moment := a.before ++ .start (.mutate a.mutation) :: a.during

/-- The same run without the mutation. -/
def bare : List Moment := a.before ++ a.during.filterMap (Occurrence.renumber (Flight.without a.number))

/-- What the mutation asks of the backend. -/
def call : Call := a.mutation.call a.space

/-- The name of the server when the reply comes. -/
def name : String := (reached a.inFlight).state.serverName a.mutation.server

/-- The store when the mutation has begun. -/
def begun : Store := (reached a.before).after behaviour (.start (.mutate a.mutation))

theorem reached_inFlight : reached a.inFlight = a.begun.run behaviour a.during := reached_append a.before _

theorem first_turn : (reached a.before).state.start (.mutate a.mutation) =
    ⟨(reached a.before).state.withPending ((reached a.before).state.pending.add a.mutation.server),
      .waits (.mutation a.mutation a.space), []⟩ :=
  State.start_mutate_of_known _ _ a.current

theorem given_begun : a.number < a.begun.started := by
  rw [begun, Flight.started_after]
  exact Nat.lt_succ_self _

theorem given : a.number < (reached a.inFlight).started := by
  have := a.given_begun
  rw [reached_inFlight, Flight.started_run]
  omega

/-- The mutation waits until its reply comes. -/
theorem waits : (reached a.inFlight).task? a.number = some (.mutation a.mutation a.space) := by
  have first : a.begun.task? a.number = some (.mutation a.mutation a.space) := by
    rw [begun, task?_start, a.first_turn, numbered_reached a.before a.number (Nat.le_refl _), number, if_pos rfl]
    rfl
  rw [reached_inFlight]
  exact Flight.task?_run_of_waits behaviour first (Occurrence.reply_not_mem a.unanswered)

/-- Until its reply comes, a mutation has made its call, and nothing else. -/
theorem effects_inFlight : effectsOf a.inFlight a.number = [.call (.registry a.number) a.call] := by
  have silent : effectsIn a.begun a.number a.during = [] := effectsIn_of_unanswered a.given_begun a.unanswered
  have first := effectsOf_start a.before (.mutate a.mutation) a.during
  rw [a.first_turn] at first
  exact first.trans (congrArg _ silent)

/-- Until its reply comes, nothing but the changes under way tells of the mutation. -/
theorem shadows : Flight.Shadows Alike (Flight.without a.number) (reached a.inFlight) (reached a.bare) := by
  have start : Flight.Shadows Alike (Flight.without a.number) a.begun (reached a.before) := by
    refine Flight.shadows_start (numbered_reached a.before) ?_
    rw [show behaviour.start = State.start from rfl, a.first_turn]
    rfl
  rw [reached_inFlight, bare, reached_append]
  exact start.run keeps_alike (Flight.lost_of_unanswered a.unanswered)

/-- When the reply comes, some space is current. -/
theorem exists_space : ∃ current, (reached a.inFlight).state.space = some current :=
  reached_append a.before _ ▸ exists_space_run a.current _

section Reply

variable (reply : Reply) (after : List Moment)

/-- The run with the reply and what comes after it. -/
def answered : List Moment := a.inFlight ++ .reply a.number reply :: after

/-- The store when the reply has come. -/
def told : Store := (reached a.inFlight).after behaviour (.reply a.number reply)

theorem reached_answered : reached (a.answered reply after) = (a.told reply).run behaviour after :=
  reached_append a.inFlight _

theorem given_told : a.number < (a.told reply).started := Flight.given_after a.given _

/-- What the mutation still has to do when its reply has come. -/
theorem task?_told : (a.told reply).task? a.number =
    ((reached a.inFlight).state.finishMutation a.mutation a.space reply).next.task? := by
  rw [told, task?_reply a.waits, if_pos rfl, State.resume]

/-- The effects of the reply come after the call. -/
theorem effects_answered : effectsOf (a.answered reply after) a.number =
    .call (.registry a.number) a.call ::
      (Client.effects (.registry a.number) Task.call
        (some ((reached a.inFlight).state.finishMutation a.mutation a.space reply)) ++
      effectsIn (a.told reply) a.number after) := by
  have turn : (reached a.inFlight).turn? behaviour a.number (.reply a.number reply) =
      some ((reached a.inFlight).state.finishMutation a.mutation a.space reply) :=
    Flight.turn?_reply behaviour _ _ a.waits reply
  have call : effectsIn fresh a.number a.inFlight = [.call (.registry a.number) a.call] := a.effects_inFlight
  have later : fresh.run behaviour a.inFlight = reached a.inFlight := rfl
  rw [effectsOf, answered, effectsIn_append, call, later, effectsIn_cons, turn, Option.toList_some,
    List.flatMap_singleton]
  rfl

variable {reply}

/-! ### Declined -/

section Declined

variable {r : Rejection} (declined : a.mutation.declined? a.space reply = some r)

include declined

theorem over_declined : (a.told reply).task? a.number = none := by
  rw [task?_told, State.finishMutation_declined _ _ declined]
  rfl

/-- A declined mutation tells why, and is over. -/
theorem effects_declined : effectsOf (a.answered reply after) a.number = [
    .call (.registry a.number) a.call,
    .note (.error (a.call.command ++ " failed for " ++ a.name ++ ": " ++ r.message)),
    .finished (.registry a.number) (.outcome (.error (.command a.call.command r.message)))] := by
  have silent := effectsIn_of_over (a.given_told reply) (a.over_declined declined) after
  rw [effects_answered, State.finishMutation_declined _ _ declined, silent]
  rfl

/-- The reply to a declined mutation changes nothing else. -/
theorem shadows_declined : Flight.Shadows Alike (Flight.without a.number) (a.told reply) (reached a.bare) := by
  refine a.shadows.reply_of_lost (Flight.without_eq_none_iff.mpr rfl) a.waits reply ?_
  show Alike (State.finishMutation _ _ _ _).state _
  rw [State.finishMutation_declined _ _ declined]
  exact a.shadows.state

/-- A declined mutation changes nothing, whatever comes after it. -/
theorem settled_declined : (reached (a.answered reply after)).state.settled =
    (reached (a.bare ++ after.filterMap (Occurrence.renumber (Flight.without a.number)))).state.settled := by
  have finished := a.over_declined declined
  rw [reached_answered, reached_append]
  exact ((a.shadows_declined declined).run keeps_alike (Flight.lost_of_over (a.given_told reply) finished)).state

end Declined

/-! ### Accepted -/

section Accepted

variable (accepted : a.mutation.declined? a.space reply = none)

include accepted

/-- An accepted mutation says so, fetches the installed list of the current space, and is over when that is there. -/
theorem effects_accepted {current : Uuid} (known : (reached a.inFlight).state.space = some current) :
    effectsOf (a.answered reply after) a.number = [
      .call (.registry a.number) a.call,
      .note (.success (a.mutation.verb ++ " " ++ a.name)),
      .call (.registry a.number) (.installed current)] ++
      if after.any (Occurrence.answers a.number) then [.finished (.registry a.number) (.outcome (.ok ()))] else [] := by
  have turn := (reached a.inFlight).state.finishMutation_accepted a.mutation accepted known
  have fetches : (a.told reply).task? a.number =
      some (.refresh current ((reached a.inFlight).state.fetches + 1)) := by
    rw [task?_told, turn]
    rfl
  rw [effects_answered, turn, effectsIn_refresh (a.given_told reply) fetches]
  rfl

/-- The reply to an accepted mutation changes what the start of a refresh does. -/
theorem shadows_accepted : Flight.Shadows Alike (Flight.handedOver a.number (reached a.bare).started) (a.told reply)
    ((reached a.bare).after behaviour (.start .refresh)) := by
  obtain ⟨current, known⟩ := a.exists_space
  have turn := (reached a.inFlight).state.finishMutation_accepted a.mutation accepted known
  obtain ⟨pending, alike⟩ := a.shadows.state.exists_eq
  have refresh : (reached a.bare).state.start .refresh = ⟨((reached a.inFlight).state.withPending pending).fetching,
      .waits (.refresh current ((reached a.inFlight).state.fetches + 1)), []⟩ := by
    rw [alike]
    exact State.beginRefresh_of_known (State.withPending _ pending) known []
  refine a.shadows.hand_over a.given (numbered_reached _) (numbered_reached _) a.waits reply Operation.refresh ?_ ?_
  · show Alike (State.finishMutation _ _ _ _).state (State.start _ _).state
    rw [turn, refresh]
    rfl
  · show (State.finishMutation _ _ _ _).next.task? = (State.start _ _).next.task?
    rw [turn, refresh]

/-- An accepted mutation changes what a refresh does that starts when the reply comes. -/
theorem settled_accepted : (reached (a.answered reply after)).state.settled =
    (reached (a.bare ++ .start .refresh ::
      after.filterMap (Occurrence.renumber (Flight.handedOver a.number (reached a.bare).started)))).state.settled := by
  rw [reached_answered, reached_append, Flight.run_cons]
  exact ((a.shadows_accepted accepted).run keeps_alike Flight.lost_handedOver).state

end Accepted

end Reply

end Attempt

/-! ## Without a space -/

section Unknown

variable {before : List Moment} (unknown : (reached before).state.space = none) (m : Mutation) (rest : List Moment)

theorem given_started (before : List Moment) (operation : Operation) :
    (reached before).started < ((reached before).after behaviour (.start operation)).started := by
  rw [Flight.started_after]
  exact Nat.lt_succ_self _

include unknown

theorem over_unknown :
    ((reached before).after behaviour (.start (.mutate m))).task? (reached before).started = none := by
  rw [task?_start, State.start_mutate_of_unknown _ m unknown, numbered_reached before _ (Nat.le_refl _), if_pos rfl]
  rfl

/-- Without a space a mutation is over at once. -/
theorem effects_unknown : effectsOf (before ++ .start (.mutate m) :: rest) (reached before).started =
    [.finished (.registry (reached before).started) (.outcome (.error .notAttached))] := by
  rw [effectsOf_start, State.start_mutate_of_unknown _ m unknown,
    effectsIn_of_over (given_started before _) (over_unknown unknown m)]
  rfl

/-- Without a space a mutation changes nothing. -/
theorem state_unknown : (reached (before ++ .start (.mutate m) :: rest)).state =
    (reached (before ++ rest.filterMap (Occurrence.renumber (Flight.without (reached before).started)))).state := by
  have start : Flight.Shadows Eq (Flight.without (reached before).started)
      ((reached before).after behaviour (.start (.mutate m))) (reached before) := by
    refine Flight.shadows_start (numbered_reached before) ?_
    rw [show behaviour.start = State.start from rfl, State.start_mutate_of_unknown _ m unknown]
  have finished := over_unknown unknown m
  rw [reached_append, reached_append, Flight.run_cons]
  exact (start.run behaviour.keeps_eq (Flight.lost_of_over (given_started before _) finished)).state

end Unknown

/-! ## How a mutation ends -/

/-- **A declined mutation leaves nothing behind but its report.** Without a space a mutation fails at once, with no call
and no note, and changes nothing. In a space it makes its call; whatever happens while that is under way, the state is
the same as without the mutation but for the changes under way. If it is declined, it fails with the reason, in one note
and no other call, and the state remains the same as without it. If it is accepted, it says so in one note and fetches
the installed list of the current space, once; it succeeds when that fetch is answered, and the state is the same as
with a refresh in its place that starts when the mutation is accepted. -/
theorem mutation_outcomes :
    (∀ (before : List Moment) (m : Mutation) (rest : List Moment), (reached before).state.space = none →
      effectsOf (before ++ .start (.mutate m) :: rest) (reached before).started =
        [.finished (.registry (reached before).started) (.outcome (.error .notAttached))] ∧
      (reached (before ++ .start (.mutate m) :: rest)).state =
        (reached (before ++ rest.filterMap (Occurrence.renumber (Flight.without (reached before).started)))).state) ∧
    ∀ a : Attempt,
      (effectsOf a.inFlight a.number = [.call (.registry a.number) a.call] ∧
        (reached a.inFlight).state.settled = (reached a.bare).state.settled) ∧
      (∀ (reply : Reply) (after : List Moment) (r : Rejection), a.mutation.declined? a.space reply = some r →
        effectsOf (a.answered reply after) a.number = [
          .call (.registry a.number) a.call,
          .note (.error (a.call.command ++ " failed for " ++ a.name ++ ": " ++ r.message)),
          .finished (.registry a.number) (.outcome (.error (.command a.call.command r.message)))] ∧
        (reached (a.answered reply after)).state.settled =
          (reached (a.bare ++ after.filterMap (Occurrence.renumber (Flight.without a.number)))).state.settled) ∧
      ∀ (reply : Reply) (after : List Moment), a.mutation.declined? a.space reply = none →
        ∃ current, (reached a.inFlight).state.space = some current ∧
        effectsOf (a.answered reply after) a.number = [
          .call (.registry a.number) a.call,
          .note (.success (a.mutation.verb ++ " " ++ a.name)),
          .call (.registry a.number) (.installed current)] ++
          (if after.any (Occurrence.answers a.number) then [.finished (.registry a.number) (.outcome (.ok ()))]
            else []) ∧
        (reached (a.answered reply after)).state.settled =
          (reached (a.bare ++ .start .refresh :: after.filterMap
            (Occurrence.renumber (Flight.handedOver a.number (reached a.bare).started)))).state.settled := by
  refine ⟨fun before m rest unknown => ⟨effects_unknown unknown m rest, state_unknown unknown m rest⟩, fun a => ?_⟩
  refine ⟨⟨a.effects_inFlight, a.shadows.state⟩, ?_, ?_⟩
  · exact fun reply after r declined => ⟨a.effects_declined after declined, a.settled_declined after declined⟩
  · intro reply after accepted
    obtain ⟨current, known⟩ := a.exists_space
    exact ⟨current, known, a.effects_accepted after accepted known, a.settled_accepted after accepted⟩

/-- A server is uninstalled from a space, and before the reply comes another space is loaded. -/
def removal : Attempt where
  before := [.start (.load ⟨1⟩)]
  mutation := .uninstall "gh"
  space := ⟨1⟩
  during := [.start (.load ⟨2⟩), .start .refresh]
  current := rfl
  unanswered := rfl

theorem removal_outcomes :
    effectsOf [.start (.mutate (.uninstall "gh"))] 0 = [.finished (.registry 0) (.outcome (.error .notAttached))] ∧
    effectsOf (removal.answered (.rejected "disk full" []) [.reply 3 (.ok (.arr []))]) 1 = [
      .call (.registry 1) (.uninstall "gh" ⟨1⟩),
      .note (.error "uninstall_server failed for gh: uninstall_server rejected: disk full"),
      .finished (.registry 1)
        (.outcome (.error (.command "uninstall_server" "uninstall_server rejected: disk full")))] ∧
    (reached (removal.answered (.rejected "disk full" []) [.reply 3 (.ok (.arr []))])).state.settled =
      (reached [.start (.load ⟨1⟩), .start (.load ⟨2⟩), .start .refresh, .reply 2 (.ok (.arr []))]).state.settled ∧
    effectsOf (removal.answered (.ok .null) [.reply 1 (.ok (.arr []))]) 1 = [
      .call (.registry 1) (.uninstall "gh" ⟨1⟩), .note (.success "Uninstalled gh"),
      .call (.registry 1) (.installed ⟨2⟩), .finished (.registry 1) (.outcome (.ok ()))] := by
  obtain ⟨unknown, attempts⟩ := mutation_outcomes
  obtain ⟨-, declined, accepted⟩ := attempts removal
  obtain ⟨told, same⟩ := declined (.rejected "disk full" []) [.reply 3 (.ok (.arr []))] _ rfl
  obtain ⟨current, known, fetched, -⟩ := accepted (.ok .null) [.reply 1 (.ok (.arr []))] rfl
  have second : (reached removal.inFlight).state.space = some ⟨2⟩ := rfl
  obtain rfl : (⟨2⟩ : Uuid) = current := Option.some.inj (second.symm.trans known)
  exact ⟨(unknown [] (.uninstall "gh") [] rfl).1, told, same, fetched⟩

end Switchboard.Registry
