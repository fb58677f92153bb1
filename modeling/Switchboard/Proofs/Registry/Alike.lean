import Switchboard.Proofs.Registry.Run
import Switchboard.Proofs.Renumber

/-!
# States that differ in the changes under way

Which changes are under way is shown to the user and decides nothing: no turn of an operation and no change apart from
them depends on it (`keeps_alike`). So two runs with states that are `Alike` stay so, whatever happens to both.
-/

namespace Switchboard.Registry

open Backend (Rejection Reply)

/-- A state but for the changes under way. -/
def State.settled (s : State) : State := s.withPending .empty

/-- The states differ at most in the changes under way. -/
def Alike (s t : State) : Prop := s.settled = t.settled

theorem Alike.exists_eq {s t : State} (h : Alike s t) : ∃ pending, t = s.withPending pending := by
  refine ⟨t.pending, ?_⟩
  cases s
  cases t
  simp_all [Alike, State.settled, State.withPending]

namespace State

variable (s : State) (pending : KeySet)

theorem alike_withPending : Alike s (s.withPending pending) := rfl

theorem takeConfig_withPending (config : Option Catalog.Config) :
    (s.withPending pending).takeConfig config = (s.takeConfig config).withPending pending := by
  cases config <;> rfl

theorem takeCatalog_withPending (offline : Bool) (catalog : Except Rejection (List Definition)) :
    (s.withPending pending).takeCatalog offline catalog = (s.takeCatalog offline catalog).withPending pending := by
  cases catalog <;> rfl

theorem takeInstalled_withPending (fetch : Nat) (list : Except Rejection (List Installation)) :
    (s.withPending pending).takeInstalled fetch list = (s.takeInstalled fetch list).withPending pending := by
  unfold takeInstalled
  by_cases last : s.fetches = fetch
  · have last' : (s.withPending pending).fetches = fetch := last
    rw [if_pos last, if_pos last']
    cases list <;> rfl
  · have last' : ¬ (s.withPending pending).fetches = fetch := last
    rw [if_neg last, if_neg last']

theorem finishLoad_withPending (load : Load) (config : Option Catalog.Config) (featured : List String)
    (catalog : Except Rejection (List Definition)) (offline : Bool) (list : Except Rejection (List Installation)) :
    (s.withPending pending).finishLoad load config featured catalog offline list =
      (s.finishLoad load config featured catalog offline list).withPending pending := by
  unfold finishLoad
  by_cases last : s.loads = load.number
  · have last' : (s.withPending pending).loads = load.number := last
    rw [if_pos last, if_pos last', takeConfig_withPending]
    -- the featured ids, which are taken in next, are beside the changes under way
    show { (takeCatalog (withPending { s.takeConfig config with featuredIds := featured } pending) offline
      catalog).takeInstalled load.fetch list with loading := false } = _
    rw [takeCatalog_withPending, takeInstalled_withPending]
    rfl
  · have last' : ¬ (s.withPending pending).loads = load.number := last
    rw [if_neg last, if_neg last']

theorem finishRefresh_withPending (fetch : Nat) (list : Except Rejection (List Installation)) :
    (s.withPending pending).finishRefresh fetch list = (s.finishRefresh fetch list).withPending pending := by
  unfold finishRefresh
  by_cases last : s.fetches = fetch
  · have last' : (s.withPending pending).fetches = fetch := last
    rw [if_pos last, if_pos last']
    cases list <;> rfl
  · have last' : ¬ (s.withPending pending).fetches = fetch := last
    rw [if_neg last, if_neg last']

theorem start_withPending (operation : Operation) :
    Alike (s.start operation).state ((s.withPending pending).start operation).state ∧
      (s.start operation).next.task? = ((s.withPending pending).start operation).next.task? := by
  obtain ⟨space⟩ := s
  cases operation with
  | load space' => exact ⟨rfl, rfl⟩
  | refresh | mutate m => cases space <;> exact ⟨rfl, rfl⟩

theorem resume_withPending (reply : Reply) (task : Task) :
    Alike (s.resume reply task).state ((s.withPending pending).resume reply task).state ∧
      (s.resume reply task).next.task? = ((s.withPending pending).resume reply task).next.task? := by
  cases task with
  | config load | home load config | catalog load config featured | offline load config featured catalog =>
    exact ⟨rfl, rfl⟩
  | installed load config featured catalog offline =>
    refine ⟨?_, rfl⟩
    rw [resume, resume, finishLoad_withPending]
    exact alike_withPending _ _
  | mutation m space =>
    obtain ⟨current⟩ := s
    simp only [resume, finishMutation]
    cases m.read space reply with
    | error r => exact ⟨rfl, rfl⟩
    | ok => cases current <;> exact ⟨rfl, rfl⟩
  | refresh space fetch =>
    refine ⟨?_, rfl⟩
    rw [resume, resume, finishRefresh_withPending]
    exact alike_withPending _ _

theorem adjust_withPending (a : Adjustment) : Alike (s.adjust a) ((s.withPending pending).adjust a) := by
  cases a <;> rfl

end State

/-- Nothing that a turn does depends on which changes are under way. -/
theorem keeps_alike : behaviour.Keeps Alike where
  start s t operation alike := by
    obtain ⟨pending, rfl⟩ := alike.exists_eq
    exact s.start_withPending pending operation
  resume s t reply task alike := by
    obtain ⟨pending, rfl⟩ := alike.exists_eq
    exact s.resume_withPending pending reply task
  adjust s t a alike := by
    obtain ⟨pending, rfl⟩ := alike.exists_eq
    exact s.adjust_withPending pending a

end Switchboard.Registry
