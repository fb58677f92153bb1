import Switchboard.Proofs.Connection.Binding
import Switchboard.Proofs.Mark

/-!
# Requests under way

A server is marked as pending when a request is made for it. The marks are a set: they do not say how many requests
wait, nor of which binding. So the reply to any request for a server clears its mark, if only that request was made for
the space that is bound when the reply comes.

`pending_iff_uncleared` says what a mark is worth. A pending server has a request under way that was made in the
current binding; of the requests under way it is one that no reply about the server came after. The others are not shown
(`overlap_not_pending`): with two requests for a server the first reply clears the mark for both, and a late reply from
an earlier binding of the same space clears that of the current one.
-/

namespace Switchboard.Connection

open Backend (Reply Request)

/-- Whether a task waits for the acknowledgement of a request for a server. -/
def Task.isFor (server : String) : Task → Bool
  | .request _ _ s => s = server
  | .snapshot .. => false

/-- Whether the reply to a task clears the mark of a server. -/
def State.clears (s : State) (server : String) : Task → Bool
  | .request _ space s' => s' = server && s.isBoundTo space
  | .snapshot .. => false

/-- The mark of a server. A new binding gives it up. -/
def pendingMark (server : String) : Mark State Task Operation Reply Adjustment where
  shown s := s.pending.contains server
  sets := Task.isFor server
  clears s := s.clears server
  givesUp _ := binds

/-- The operation numbered `id` is a request for a server, made in the current binding and not answered yet. -/
def UnderWay (os : List Moment) (server : String) (id : Nat) : Prop :=
  (∃ r space, (reached os).task? id = some (.request r space server)) ∧
    fresh.noneSince behaviour (fun _ => binds) id os = true

/-! ## What a turn does to the marks -/

namespace State

variable (s : State)

theorem pending_start_request (r : Request) (server : String) :
    (s.start (.request r server)).state.pending = if s.space.isSome then s.pending.add server else s.pending := by
  simp only [start]
  cases s.space <;> rfl

theorem pending_resume (reply : Reply) (task : Task) :
    (s.resume reply task).state.pending = match task with
      | .request _ space server => (s.acknowledged space server).pending
      | .snapshot .. => s.pending := by
  cases task with
  | snapshot space n =>
    simp only [resume, finishAttach]
    repeat' split
    all_goals rfl
  | request r space server =>
    simp only [resume]
    split <;> rfl

theorem pending_adjust (a : Adjustment) :
    (s.adjust a).pending = if binds (.adjust a) then .empty else s.pending := by
  cases a with
  | unbind => rfl
  | status e =>
    simp only [adjust, acceptStatus]
    split <;> rfl
  | progress e =>
    simp only [adjust, acceptProgress]
    split <;> rfl
  | features e =>
    simp only [adjust, acceptFeatures]
    split <;> rfl
  | collapse server => rfl
  | dismissError => rfl

end State

theorem lawful_pendingMark (server : String) : (pendingMark server).Lawful behaviour where
  start s operation := by
    cases operation with
    | attach space =>
      show false = (s.pending.contains server && false || false)
      rw [Bool.and_false, Bool.or_false]
    | request r server' =>
      show (s.start (.request r server')).state.pending.contains server =
        (s.pending.contains server && true || (s.start (.request r server')).next.task?.any (Task.isFor server))
      rw [s.pending_start_request, Bool.and_true]
      cases bound : s.space with
      | none => simp [State.start, bound, Next.task?]
      | some space => simp [State.start, bound, Next.task?, KeySet.add, Task.isFor, Bool.or_comm]
  resume s reply task := by
    show (s.resume reply task).state.pending.contains server = (s.pending.contains server && !s.clears server task)
    rw [s.pending_resume]
    cases task with
    | snapshot space n => exact (Bool.and_true _).symm
    | request r space server' =>
      by_cases bound : s.isBoundTo space = true <;> simp [State.acknowledged, State.clears, bound, Bool.and_comm]
  resume_sets s reply task := by
    show (s.resume reply task).next.task?.any (Task.isFor server) = false
    rw [s.task?_resume]
    rfl
  adjust s a := by
    show (s.adjust a).pending.contains server = (s.pending.contains server && !binds (.adjust a))
    rw [s.pending_adjust]
    cases binds (.adjust a)
    · exact (Bool.and_true _).symm
    · exact (Bool.and_false _).symm
  reply _ _ _ := rfl

/-- A request made in the current binding is for the bound space. -/
theorem space_of_underWay {os : List Moment} {id : Nat} {r : Request} {space : Uuid} {server : String}
    (waits : (reached os).task? id = some (.request r space server))
    (since : fresh.noneSince behaviour (fun _ => binds) id os = true) : (reached os).state.space = some space := by
  induction os using List.reverseRecOn with
  | nil => cases waits
  | append_singleton os o ih =>
    obtain ⟨k, h⟩ := exists_expects_reached os
    have split : reached (os ++ [o]) = (reached os).after behaviour o := fresh.run_append behaviour os [o]
    have since := Flight.noneSince_concat_iff.mp since
    rw [split] at waits ⊢
    by_cases given : id < (reached os).started
    · -- the request waited before, and no binding came in between
      have stays : binds o = false := since.2 given
      rw [(h.after stays).space, ← h.space]
      refine ih ?_ since.1
      cases o with
      | start operation =>
        rw [Flight.task?_after_start, if_neg (by omega), Option.or_none] at waits
        exact waits
      | reply i reply =>
        rw [task?_after_answer] at waits
        split at waits
        · cases waits
        · exact waits
      | adjust a => exact waits
    · -- it is made right now
      have numbered := h.numbered id (Nat.not_lt.mp given)
      cases o with
      | start operation =>
        rw [Flight.task?_after_start, numbered, Option.none_or] at waits
        split at waits
        · cases operation with
          | attach space' => cases waits
          | request r' server' =>
            have made : ((reached os).state.start (.request r' server')).next.task? = _ := waits
            rw [Flight.state_after_start]
            show ((reached os).state.start (.request r' server')).state.space = some space
            cases bound : (reached os).state.space with
            | none =>
              simp only [State.start, bound] at made
              cases made
            | some space' =>
              simp only [State.start, bound] at made ⊢
              cases made
              rfl
        · cases waits
      | reply i reply =>
        rw [task?_after_answer, numbered, ite_self] at waits
        cases waits
      | adjust a => cases numbered.symm.trans waits

theorem clearsOwn_pendingMark (server : String) : (pendingMark server).ClearsOwn behaviour fresh := by
  intro os id task waits sets since
  cases task with
  | snapshot space n => cases sets
  | request r space server' =>
    have own : decide (server' = server) = true := sets
    have bound : (reached os).state.space = some space := space_of_underWay waits since
    show (decide (server' = server) && (reached os).state.isBoundTo space) = true
    rw [own, State.isBoundTo, bound, beq_self_eq_true]
    rfl

/-- **What a mark says.** Whatever happens to a store in whatever order, a server is pending iff a request for it is
under way that was made in the current binding, and since that request was made no reply to another one cleared the
mark: none to a request for the same server and the bound space. -/
theorem pending_iff_uncleared (os : List Moment) (server : String) :
    (reached os).state.pending.contains server = true ↔
      ∃ id, UnderWay os server id ∧ fresh.noneSince behaviour (pendingMark server).cleared id os = true := by
  refine (Mark.shown_iff (lawful_pendingMark server) (clearsOwn_pendingMark server) rfl rfl os).trans ?_
  constructor
  · rintro ⟨id, task, waits, sets, since, uncleared⟩
    cases task with
    | snapshot space n => cases sets
    | request r space server' =>
      cases of_decide_eq_true sets
      exact ⟨id, ⟨⟨r, space, waits⟩, since⟩, uncleared⟩
  · rintro ⟨id, ⟨⟨r, space, waits⟩, since⟩, uncleared⟩
    exact ⟨id, _, waits, decide_eq_true rfl, since, uncleared⟩

/-- A server is connected, and before the backend answers the attempt is given up. The answer to the attempt comes
first. -/
def givenUp : List Moment :=
  [.start (.attach ⟨1⟩), .start (.request .connect "gh"), .start (.request .cancel "gh"), .reply 1 (.ok .null)]

/-- A request is under way, and yet its server is not pending. -/
theorem overlap_not_pending : ¬ ∀ (os : List Moment) (server : String),
    (reached os).state.pending.contains server = true ↔ ∃ id, UnderWay os server id := by
  intro claim
  have cleared : (reached givenUp).state.pending.contains "gh" = false := by decide
  have underWay : UnderWay givenUp "gh" 2 := ⟨⟨.cancel, ⟨1⟩, by decide⟩, by decide⟩
  rw [(claim givenUp "gh").mpr ⟨2, underWay⟩] at cleared
  cases cleared

/-- The reply to a request of an earlier binding of the same space clears the mark as well. -/
example : (reached [.start (.attach ⟨1⟩), .start (.request .connect "gh"), .start (.attach ⟨2⟩), .start (.attach ⟨1⟩),
    .start (.request .connect "gh"), .reply 1 (.ok .null)]).state.pending.contains "gh" = false := by decide

end Switchboard.Connection
