import Switchboard.Proofs.Registry.Run

/-!
# Fetches of the installed list

A load and a refresh both fetch the installed list of a space. They draw their numbers from one counter, so the list
of the fetch that began last is taken in and no other (`State.installed_resume_of_eq`, `State.installed_resume_of_ne`).
`Current last f` says that `last` began the last fetch, for the space that is current, and that no other load began
after it if it is a load; so nothing keeps its list from being taken in.
-/

namespace Switchboard.Registry

open Backend (Reply)

/-- A fetch of the installed list: the space, and its place among the fetches. -/
structure Fetch where
  space : Uuid
  number : Nat
  deriving DecidableEq, Repr

/-- The fetch that a task is a part of. -/
def Task.fetch? : Task → Option Fetch
  | .config load | .home load _ | .catalog load .. | .offline load .. | .installed load .. =>
    some ⟨load.space, load.fetch⟩
  | .refresh space number => some ⟨space, number⟩
  | .mutation .. => none

/-- Whether an operation is in flight that fetches the installed list. -/
def inFlight (f : Store) (id : Nat) : Bool := (f.task? id).any fun task => task.fetch?.isSome

theorem Task.fetch?_isSome_of_call {task : Task} {space : Uuid} (h : task.call = .installed space) :
    ∃ fetch, task.fetch? = some fetch := by
  cases task with
  | mutation m space' => cases m <;> cases h
  | config load | home load config | catalog load config featured | offline load config featured catalog
  | installed load config featured catalog offline | refresh space' number => exact ⟨_, rfl⟩

theorem Task.fetch?_of_load {task : Task} {load : Load} (h : task.load? = some load) :
    task.fetch? = some ⟨load.space, load.fetch⟩ := by
  cases task <;> cases h <;> rfl

namespace State

section Fetch

variable (s : State) (reply : Reply) {task : Task} {fetch : Fetch}

/-- A fetch waits on, and nothing changes, or this was the reply to its call for the list. -/
theorem resume_fetch_cases (h : task.fetch? = some fetch) :
    (∃ task', s.resume reply task = ⟨s, .waits task', []⟩ ∧ task'.fetch? = some fetch ∧
      ∀ space, task.call ≠ .installed space) ∨
    (task.call = .installed fetch.space ∧ (s.resume reply task).next = .ends (.ok ())) := by
  cases task with
  | config load | home load config | catalog load config featured | offline load config featured catalog =>
    cases h
    exact Or.inl ⟨_, rfl, rfl, nofun⟩
  | installed load config featured catalog offline | refresh space number =>
    cases h
    exact Or.inr ⟨rfl, rfl⟩
  | mutation m space => cases h

/-- A fetch goes on as a part of the same fetch. -/
theorem fetch?_resume (h : task.fetch? = some fetch) {task' : Task}
    (next : (s.resume reply task).next.task? = some task') : task'.fetch? = some fetch := by
  rcases s.resume_fetch_cases reply h with ⟨task'', turn, is_fetch, -⟩ | ⟨-, ends⟩
  · rw [turn] at next
    cases next
    exact is_fetch
  · rw [ends] at next
    cases next

/-- The number of fetches does not change with a reply to a fetch. -/
theorem fetches_resume (h : task.fetch? = some fetch) : (s.resume reply task).state.fetches = s.fetches := by
  cases task with
  | config load | home load config | catalog load config featured | offline load config featured catalog => rfl
  | installed load config featured catalog offline =>
    show (s.finishLoad load config featured catalog offline (reply.installed load.space)).fetches = s.fetches
    by_cases last : s.loads = load.number
    · obtain ⟨config', sort, error, e⟩ := s.finishLoad_of_eq config featured catalog offline
        (reply.installed load.space) last
      rw [e]
    · rw [s.finishLoad_of_ne config featured catalog offline (reply.installed load.space) last]
  | refresh space number =>
    obtain ⟨error, e⟩ := s.finishRefresh_eq number (reply.installed space)
    show (s.finishRefresh number (reply.installed space)).fetches = s.fetches
    rw [e]
  | mutation m space => cases h

/-- A fetch that is not the last one leaves the installed list as it is. -/
theorem installed_resume_of_ne (h : task.fetch? = some fetch) (ne : s.fetches ≠ fetch.number) :
    (s.resume reply task).state.installed = s.installed := by
  cases task with
  | config load | home load config | catalog load config featured | offline load config featured catalog => rfl
  | installed load config featured catalog offline =>
    cases h
    show (s.finishLoad load config featured catalog offline (reply.installed load.space)).installed = s.installed
    by_cases last : s.loads = load.number
    · obtain ⟨config', sort, error, e⟩ := s.finishLoad_of_eq config featured catalog offline
        (reply.installed load.space) last
      rw [e]
      exact if_neg ne
    · rw [s.finishLoad_of_ne config featured catalog offline (reply.installed load.space) last]
  | refresh space number =>
    cases h
    obtain ⟨error, e⟩ := s.finishRefresh_eq number (reply.installed space)
    exact (congrArg State.installed e).trans (if_neg ne)
  | mutation m space => cases h

/-- The last fetch shows the list that it gets, or leaves the list as it is if it gets none. -/
theorem installed_resume_of_eq (h : task.fetch? = some fetch) (last : s.fetches = fetch.number)
    (last_load : ∀ load, task.load? = some load → s.loads = load.number)
    (ends : (s.resume reply task).next = .ends (.ok ())) :
    (s.resume reply task).state.installed = (reply.installed fetch.space).toOption.getD s.installed := by
  cases task with
  | config load | home load config | catalog load config featured | offline load config featured catalog => cases ends
  | installed load config featured catalog offline =>
    cases h
    obtain ⟨config', sort, error, e⟩ := s.finishLoad_of_eq config featured catalog offline
      (reply.installed load.space) (last_load load rfl)
    exact (congrArg State.installed e).trans (if_pos last)
  | refresh space number =>
    cases h
    obtain ⟨error, e⟩ := s.finishRefresh_eq number (reply.installed space)
    exact (congrArg State.installed e).trans (if_pos last)
  | mutation m space => cases h

/-- A reply to a fetch does not change the space or the number of loads or fetches. -/
theorem resume_fetch_keeps (h : task.fetch? = some fetch) :
    (s.resume reply task).state.space = s.space ∧ (s.resume reply task).state.loads = s.loads ∧
      (s.resume reply task).state.fetches = s.fetches :=
  ⟨(s.resume_keeps reply task).1, (s.resume_keeps reply task).2, s.fetches_resume reply h⟩

end Fetch

end State

/-! ## The last fetch -/

/-- The operation that began the last fetch fetches for the current space, and if it is a load, no load began since. -/
structure Current (last : Option Nat) (f : Store) : Prop where
  latest : Latest (fun task => task.fetch?.map Fetch.number) State.fetches last f
  space : ∀ id task fetch, last = some id → f.task? id = some task → task.fetch? = some fetch →
    f.state.space = some fetch.space
  load : ∀ id task load, last = some id → f.task? id = some task → task.load? = some load →
    f.state.loads = load.number

namespace Current

variable {last : Option Nat} {f g : Store} {id : Nat} {task : Task} {fetch : Fetch}

theorem fresh : Current none fresh := ⟨Latest.fresh _, nofun, nofun⟩

/-- A fetch holds the present number of fetches iff it began last. -/
theorem number_iff (h : Current last f) (waits : f.task? id = some task) (is_fetch : task.fetch? = some fetch) :
    f.state.fetches = fetch.number ↔ last = some id :=
  h.latest.holds_iff waits (by rw [is_fetch]; rfl)

/-- Space and number of loads are as before, and whatever fetches now was a part of the same fetch before. -/
theorem keep (h : Current last f)
    (latest : Latest (fun task => task.fetch?.map Fetch.number) State.fetches last g)
    (space : g.state.space = f.state.space) (loads : g.state.loads = f.state.loads)
    (tasks : ∀ id task fetch, g.task? id = some task → task.fetch? = some fetch →
      ∃ task', f.task? id = some task' ∧ task'.fetch? = some fetch ∧ task'.load? = task.load?) : Current last g := by
  refine ⟨latest, ?_, ?_⟩
  · intro id task fetch own waits is_fetch
    obtain ⟨task', waits', is_fetch', -⟩ := tasks id task fetch waits is_fetch
    rw [space]
    exact h.space id task' fetch own waits' is_fetch'
  · intro id task load own waits is_load
    obtain ⟨task', waits', -, same⟩ := tasks id task _ waits (Task.fetch?_of_load is_load)
    rw [loads]
    exact h.load id task' load own waits' (same.trans is_load)

/-- A fetch takes in a reply. -/
theorem reply (h : Current last f) (waits : f.task? id = some task) (is_fetch : task.fetch? = some fetch)
    (reply : Reply) : Current last (f.after behaviour (.reply id reply)) := by
  obtain ⟨space, loads, fetches⟩ := f.state.resume_fetch_keeps reply is_fetch
  rw [← state_reply waits] at space loads
  refine h.keep (h.latest.after_reply behaviour waits fetches fun task' next => ?_) space loads ?_
  · rw [is_fetch, f.state.fetch?_resume reply is_fetch next]
  · intro i task' fetch' waits' is_fetch'
    rw [task?_reply waits] at waits'
    split at waits'
    · rename_i hi
      subst hi
      cases (f.state.fetch?_resume reply is_fetch waits').symm.trans is_fetch'
      exact ⟨task, waits, is_fetch, f.state.load?_resume reply waits'⟩
    · exact ⟨task', waits', is_fetch', rfl⟩

/-- A fetch begins. -/
theorem begin (latest : Latest (fun task => task.fetch?.map Fetch.number) State.fetches (some id) g)
    (own : g.task? id = some task) (is_fetch : task.fetch? = some fetch) (space : g.state.space = some fetch.space)
    (load : ∀ load, task.load? = some load → g.state.loads = load.number) : Current (some id) g := by
  refine ⟨latest, ?_, ?_⟩
  · rintro _ task' fetch' ⟨⟩ waits is_fetch'
    cases own.symm.trans waits
    cases is_fetch.symm.trans is_fetch'
    exact space
  · rintro _ task' load' ⟨⟩ waits is_load
    cases own.symm.trans waits
    exact load load' is_load

end Current

end Switchboard.Registry
