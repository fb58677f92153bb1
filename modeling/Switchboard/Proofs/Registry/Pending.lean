import Switchboard.Proofs.Mark
import Switchboard.Proofs.Registry.Run

/-!
# Mutations under way

A server is marked as pending when a mutation of it is begun. A load of another space gives up all marks, and the reply
to any mutation of the server clears its mark, even if the mutation was begun for a space that is left by now.

`pending_iff_unmet` says what a mark is worth. A pending server has a mutation under way that was begun since the last
change of space; of the mutations under way it is one that no reply about the server came after. The others are not
shown (`left_behind_not_pending`): with two mutations of a server the first reply clears the mark for both, and a late
reply from the space that was left clears that of the current one.
-/

namespace Switchboard.Registry

open Backend (Reply)

/-- Whether a task waits for the reply to a mutation of a server. -/
def Task.mutates (server : String) : Task → Bool
  | .mutation m _ => m.server = server
  | _ => false

/-- Whether a moment changes the space of the page. -/
def switches (s : State) : Moment → Bool
  | .start (.load space) => s.space != some space
  | _ => false

/-- The mark of a server. A change of space gives it up. -/
def pendingMark (server : String) : Mark State Task Operation Reply Adjustment where
  shown s := s.pending.contains server
  sets := Task.mutates server
  clears _ := Task.mutates server
  givesUp := switches

/-- The operation numbered `id` is a mutation of a server, begun since the last change of space and not answered yet. -/
def UnderWay (os : List Moment) (server : String) (id : Nat) : Prop :=
  (∃ m space, m.server = server ∧ (reached os).task? id = some (.mutation m space)) ∧
    fresh.noneSince behaviour (fun f => switches f.state) id os = true

/-! ## What a turn does to the marks -/

namespace State

variable (s : State)

theorem pending_start (operation : Operation) :
    (s.start operation).state.pending = match operation with
      | .load space => if s.space = some space then s.pending else .empty
      | .refresh => s.pending
      | .mutate m => if s.space.isSome then s.pending.add m.server else s.pending := by
  cases operation with
  | load space => rfl
  | refresh =>
    obtain ⟨fetches, e⟩ := s.beginRefresh_eq []
    show (s.beginRefresh []).state.pending = s.pending
    rw [e]
  | mutate m =>
    simp only [start, beginMutation]
    cases s.space <;> rfl

theorem pending_resume (reply : Reply) (task : Task) :
    (s.resume reply task).state.pending = match task with
      | .mutation m _ => s.pending.erase m.server
      | _ => s.pending := by
  cases task with
  | config load | home load config | catalog load config featured | offline load config featured catalog => rfl
  | installed load config featured catalog offline =>
    show (s.finishLoad load config featured catalog offline (reply.installed load.space)).pending = s.pending
    by_cases last : s.loads = load.number
    · obtain ⟨config', sort, error, e⟩ := s.finishLoad_of_eq config featured catalog offline
        (reply.installed load.space) last
      rw [e]
    · rw [s.finishLoad_of_ne config featured catalog offline (reply.installed load.space) last]
  | mutation m space =>
    simp only [resume, finishMutation]
    split
    · obtain ⟨fetches, e⟩ := beginRefresh_eq { s with pending := s.pending.erase m.server }
        [.success (m.verb ++ " " ++ { s with pending := s.pending.erase m.server }.serverName m.server)]
      exact congrArg State.pending e
    · rfl
  | refresh space fetch =>
    obtain ⟨error, e⟩ := s.finishRefresh_eq fetch (reply.installed space)
    show (s.finishRefresh fetch (reply.installed space)).pending = s.pending
    rw [e]

/-- Only the start of a mutation waits for a reply to a mutation. -/
theorem mutates_start (operation : Operation) (server : String) :
    (s.start operation).next.task?.any (Task.mutates server) = match operation with
      | .mutate m => s.space.isSome && (m.server = server : Bool)
      | _ => false := by
  cases operation with
  | load space => rfl
  | refresh =>
    simp only [start, beginRefresh]
    cases s.space <;> rfl
  | mutate m =>
    simp only [start, beginMutation]
    cases s.space <;> rfl

/-- No operation goes on as a mutation. -/
theorem mutates_resume (reply : Reply) (task : Task) (server : String) :
    (s.resume reply task).next.task?.any (Task.mutates server) = false := by
  cases task with
  | config load | home load config | catalog load config featured | offline load config featured catalog
  | installed load config featured catalog offline | refresh space fetch => rfl
  | mutation m space =>
    simp only [resume, finishMutation, beginRefresh]
    split
    · cases s.space <;> rfl
    · rfl

end State

theorem lawful_pendingMark (server : String) : (pendingMark server).Lawful behaviour where
  start s operation := by
    show (s.start operation).state.pending.contains server =
      (s.pending.contains server && !switches s (.start operation) ||
        (s.start operation).next.task?.any (Task.mutates server))
    rw [s.pending_start, s.mutates_start]
    cases operation with
    | load space => by_cases same : s.space = some space <;> simp [switches, same, KeyMap.contains]
    | refresh => simp [switches]
    | mutate m => cases s.space <;> simp [switches, KeySet.add, Bool.or_comm]
  resume s reply task := by
    show (s.resume reply task).state.pending.contains server =
      (s.pending.contains server && !Task.mutates server task)
    rw [s.pending_resume]
    cases task with
    | mutation m space => simp [Task.mutates, Bool.and_comm]
    | _ => exact (Bool.and_true _).symm
  resume_sets s reply task := s.mutates_resume reply task server
  adjust s a := by
    obtain ⟨selections, query, sort, page, error, e⟩ := s.adjust_eq a
    show (s.adjust a).pending.contains server = (s.pending.contains server && true)
    rw [e, Bool.and_true]
  reply _ _ _ := rfl

/-- **What a mark says.** Whatever happens to the registry in whatever order, a server is pending iff a mutation of it
is under way that was begun since the last change of space, and since that mutation was begun no reply to another
mutation of the server came, of whatever space. -/
theorem pending_iff_unmet (os : List Moment) (server : String) :
    (reached os).state.pending.contains server = true ↔
      ∃ id, UnderWay os server id ∧ fresh.noneSince behaviour (pendingMark server).cleared id os = true := by
  refine (Mark.shown_iff (lawful_pendingMark server) (fun _ _ _ _ own _ => own) rfl rfl os).trans ?_
  constructor
  · rintro ⟨id, task, waits, sets, since, uncleared⟩
    cases task with
    | mutation m space => exact ⟨id, ⟨⟨m, space, of_decide_eq_true sets, waits⟩, since⟩, uncleared⟩
    | _ => cases sets
  · rintro ⟨id, ⟨⟨m, space, own, waits⟩, since⟩, uncleared⟩
    exact ⟨id, _, waits, decide_eq_true own, since, uncleared⟩

/-- A server is installed in a space that is left for another before the backend answers, and in that one as well. The
answer to the first mutation comes first. -/
def leftBehind : List Moment :=
  [.start (.load ⟨1⟩), .start (.mutate (.install "gh")), .start (.load ⟨2⟩), .start (.mutate (.install "gh")),
    .reply 1 (.rejected "gone" [])]

/-- A mutation is under way, and yet its server is not pending. -/
theorem left_behind_not_pending : ¬ ∀ (os : List Moment) (server : String),
    (reached os).state.pending.contains server = true ↔ ∃ id, UnderWay os server id := by
  intro claim
  have cleared : (reached leftBehind).state.pending.contains "gh" = false := by decide
  have underWay : UnderWay leftBehind "gh" 3 := ⟨⟨.install "gh", ⟨2⟩, rfl, rfl⟩, by decide⟩
  rw [(claim leftBehind "gh").mpr ⟨3, underWay⟩] at cleared
  cases cleared

/-- With two mutations of a server in one space the first reply clears the mark as well. -/
example : (reached [.start (.load ⟨1⟩), .start (.mutate (.setEnabled "gh" true)),
    .start (.mutate (.setEnabled "gh" false)), .reply 1 (.ok .null)]).state.pending.contains "gh" = false := by decide

end Switchboard.Registry
