import Switchboard.Registry.Store
import Switchboard.Proofs.Latest

/-!
# Runs of the registry

What happens to the registry page from the start: operations start, replies come in any order, and the user changes
what is shown. Here are the runs, the operations that a run starts, and what a single turn does and leaves alone.

A declined mutation is over (`finishMutation_declined`), any other goes on as a refresh (`finishMutation_accepted`). A
load is five replies away from its end; only the last of them changes anything (`finishLoad_of_eq`), and only of the
load that was started last. Space and number of loads change with the start of a load and with nothing else (`start_eq`,
`resume_keeps`, `adjust_eq`).
-/

namespace Switchboard.Registry

open Backend (Reply Rejection)

/-- What happens to the registry. -/
abbrev Moment := Occurrence Operation Reply Adjustment

/-- A store that nothing happened to. -/
def fresh : Store := { state := {} }

/-- The store after a run from the start. -/
def reached (os : List Moment) : Store := fresh.run behaviour os

/-- The operations that a run starts; each is numbered by its place. -/
def operations (os : List Moment) : List Operation :=
  os.filterMap fun
    | .start operation => some operation
    | _ => none

theorem reached_append (os ps : List Moment) : reached (os ++ ps) = (reached os).run behaviour ps :=
  fresh.run_append behaviour os ps

theorem reached_concat (os : List Moment) (o : Moment) : reached (os ++ [o]) = (reached os).after behaviour o :=
  fresh.run_append behaviour os [o]

theorem operations_concat_start (os : List Moment) (operation : Operation) :
    operations (os ++ [.start operation]) = operations os ++ [operation] := List.filterMap_append

theorem operations_concat_reply (os : List Moment) (id : Nat) (reply : Reply) :
    operations (os ++ [.reply id reply]) = operations os := by
  rw [operations, List.filterMap_append]
  exact List.append_nil _

theorem operations_concat_adjust (os : List Moment) (a : Adjustment) :
    operations (os ++ [.adjust a]) = operations os := by
  rw [operations, List.filterMap_append]
  exact List.append_nil _

theorem started_reached (os : List Moment) : (reached os).started = (operations os).length := by
  rw [reached, Flight.started_run, operations, List.length_filterMap_eq_countP]
  refine (Nat.zero_add _).trans (congrArg (List.countP · os) ?_)
  funext o
  cases o <;> rfl

theorem numbered_reached (os : List Moment) : (reached os).Numbered :=
  Flight.Numbered.run behaviour (fun _ _ => rfl) os

section Turns

variable (f : Store)

theorem state_start (operation : Operation) :
    (f.after behaviour (.start operation)).state = (f.state.start operation).state :=
  f.state_after_start behaviour operation

theorem task?_start (operation : Operation) (i : Nat) :
    (f.after behaviour (.start operation)).task? i =
      (f.task? i).or (if f.started = i then (f.state.start operation).next.task? else none) :=
  f.task?_after_start behaviour operation i

variable {f} {id : Nat} {task : Task}

theorem state_reply (waits : f.task? id = some task) (reply : Reply) :
    (f.after behaviour (.reply id reply)).state = (f.state.resume reply task).state :=
  f.state_after_reply behaviour waits reply

theorem task?_reply (waits : f.task? id = some task) (reply : Reply) (i : Nat) :
    (f.after behaviour (.reply id reply)).task? i =
      if id = i then (f.state.resume reply task).next.task? else f.task? i :=
  f.task?_after_reply behaviour waits reply i

end Turns

/-! ## Loads -/

/-- The load that a task is a part of. -/
def Task.load? : Task → Option Load
  | .config load | .home load _ | .catalog load .. | .offline load .. | .installed load .. => some load
  | .mutation .. | .refresh .. => none

/-- The space that an operation loads, if it is a load. -/
def Operation.space? : Operation → Option Uuid
  | .load space => some space
  | .refresh | .mutate _ => none

/-! ## Mutations -/

namespace Mutation

/-- Whether the backend answers with the installation that was changed. -/
def givesInstallation : Mutation → Bool
  | install _ | saveInputs .. => true
  | uninstall _ | setEnabled .. => false

/-- Why a mutation was declined, if it was: it was rejected, or the installation that it gives cannot be read. -/
def declined? (m : Mutation) (space : Uuid) : Reply → Option Rejection
  | .rejected cause contexts => some (Reply.refusal (m.call space).command cause contexts)
  | .ok body =>
    if m.givesInstallation then
      match Installation.decode body with
      | .ok _ => none
      | .error fault => some (Reply.misfit (m.call space).command fault)
    else none

/-- A mutation succeeds unless it is declined. -/
theorem read_eq (m : Mutation) (space : Uuid) (reply : Reply) :
    m.read space reply = (m.declined? space reply).elim (.ok ()) .error := by
  cases m with
  | install server | saveInputs server inputs =>
    cases reply with
    | rejected cause contexts => rfl
    | ok body =>
      simp only [read, Reply.installation, Reply.read, declined?, givesInstallation, if_true]
      cases Installation.decode body <;> rfl
  | uninstall server | setEnabled server enabled => cases reply <;> rfl

end Mutation

namespace State

variable (s : State) (m : Mutation) {space : Uuid} {reply : Reply}

/-- The state with other changes under way. -/
def withPending (pending : KeySet) : State := { s with pending := pending }

/-- The state with one more fetch of the installed list. -/
def fetching : State := { s with fetches := s.fetches + 1 }

/-- A refresh in a space waits for its reply. -/
theorem beginRefresh_of_known (known : s.space = some space) (notes : List Note) :
    s.beginRefresh notes = ⟨s.fetching, .waits (.refresh space (s.fetches + 1)), notes⟩ := by
  obtain ⟨current⟩ := s
  cases known
  rfl

/-- A declined mutation is over; the user is told why. -/
theorem finishMutation_declined {r : Rejection} (declined : m.declined? space reply = some r) :
    s.finishMutation m space reply =
      ⟨s.withPending (s.pending.erase m.server), .ends (.error (.command (m.call space).command r.message)),
        [.error ((m.call space).command ++ " failed for " ++ s.serverName m.server ++ ": " ++ r.message)]⟩ := by
  have read : m.read space reply = .error r := by rw [m.read_eq, declined, Option.elim_some]
  simp only [finishMutation, read]
  rfl

/-- An accepted mutation goes on as a refresh of the current space. -/
theorem finishMutation_accepted (accepted : m.declined? space reply = none) {current : Uuid}
    (known : s.space = some current) : s.finishMutation m space reply =
      ⟨(s.withPending (s.pending.erase m.server)).fetching, .waits (.refresh current (s.fetches + 1)),
        [.success (m.verb ++ " " ++ s.serverName m.server)]⟩ := by
  have read : m.read space reply = .ok () := by rw [m.read_eq, accepted, Option.elim_none]
  simp only [finishMutation, read]
  exact beginRefresh_of_known (s.withPending (s.pending.erase m.server)) known _

end State

namespace State

variable (s : State)

/-! ## What the end of a load changes -/

theorem takeConfig_eq (config : Option Catalog.Config) :
    ∃ taken sort, s.takeConfig config = { s with config := taken, sort := sort } := by
  cases config with
  | none => exact ⟨s.config, s.sort, rfl⟩
  | some c => exact ⟨c, _, rfl⟩

theorem takeInstalled_eq (fetch : Nat) (installed : Except Rejection (List Installation)) :
    ∃ error, s.takeInstalled fetch installed =
      { s with
        installed := if s.fetches = fetch then installed.toOption.getD s.installed else s.installed
        error := error } := by
  unfold takeInstalled
  split
  · cases installed with
    | ok list => exact ⟨s.error, rfl⟩
    | error r => exact ⟨_, rfl⟩
  · exact ⟨s.error, rfl⟩

section

variable {load : Load} (config : Option Catalog.Config) (featured : List String)
  (catalog : Except Rejection (List Definition)) (offline : Bool) (installed : Except Rejection (List Installation))

/-- A load that is not the last one changes nothing. -/
theorem finishLoad_of_ne (h : s.loads ≠ load.number) :
    s.finishLoad load config featured catalog offline installed = s := if_neg h

/-- The last load takes in what it fetched, the installed list only if no fetch was started later. -/
theorem finishLoad_of_eq (h : s.loads = load.number) :
    ∃ config' sort error, s.finishLoad load config featured catalog offline installed =
      { s with
        config := config'
        sort := sort
        featuredIds := featured
        definitions := catalog.toOption.getD []
        offline := catalog.toOption.elim true fun _ => offline
        installed := if s.fetches = load.fetch then installed.toOption.getD s.installed else s.installed
        error := error
        loading := false } := by
  obtain ⟨taken, sort, e⟩ := s.takeConfig_eq config
  rw [finishLoad, if_pos h, e]
  cases catalog with
  | ok definitions =>
    obtain ⟨error, e⟩ := takeInstalled_eq
      { s with config := taken, sort := sort, featuredIds := featured, definitions := definitions, offline := offline }
      load.fetch installed
    refine ⟨taken, sort, error, ?_⟩
    simp only [takeCatalog, e]
    rfl
  | error r =>
    obtain ⟨error, e⟩ := takeInstalled_eq
      { s with
        config := taken, sort := sort, featuredIds := featured, definitions := [], offline := true
        error := some ("Failed to load registry: " ++ r.message) }
      load.fetch installed
    refine ⟨taken, sort, error, ?_⟩
    simp only [takeCatalog, e]
    rfl

end

/-! ## What a turn leaves alone -/

/-- A refresh that ends changes at most the installed list and the error. -/
theorem finishRefresh_eq (fetch : Nat) (installed : Except Rejection (List Installation)) :
    ∃ error, s.finishRefresh fetch installed =
      { s with
        installed := if s.fetches = fetch then installed.toOption.getD s.installed else s.installed
        error := error } := by
  unfold finishRefresh
  split
  · cases installed with
    | ok list => exact ⟨s.error, rfl⟩
    | error r => exact ⟨_, rfl⟩
  · exact ⟨s.error, rfl⟩

/-- A refresh that begins changes at most the number of fetches. -/
theorem beginRefresh_eq (notes : List Note) :
    ∃ fetches, (s.beginRefresh notes).state = { s with fetches := fetches } := by
  unfold beginRefresh
  split
  · exact ⟨s.fetches, rfl⟩
  · exact ⟨_, rfl⟩

/-- A mutation that begins changes at most the changes under way. -/
theorem start_mutate_eq (m : Mutation) : ∃ pending, (s.start (.mutate m)).state = { s with pending := pending } := by
  simp only [start, beginMutation]
  split
  · exact ⟨s.pending, rfl⟩
  · exact ⟨_, rfl⟩

/-- The start of a refresh or a mutation changes at most the number of fetches and the changes under way. -/
theorem start_eq {operation : Operation} (h : operation.space? = none) :
    ∃ fetches pending, (s.start operation).state = { s with fetches := fetches, pending := pending } := by
  cases operation with
  | load space => cases h
  | refresh =>
    obtain ⟨fetches, e⟩ := s.beginRefresh_eq []
    exact ⟨fetches, s.pending, e⟩
  | mutate m =>
    obtain ⟨pending, e⟩ := s.start_mutate_eq m
    exact ⟨s.fetches, pending, e⟩

/-- So does the end of a mutation. -/
theorem resume_mutation_eq (reply : Reply) (m : Mutation) (space : Uuid) :
    ∃ fetches pending, (s.resume reply (.mutation m space)).state =
      { s with fetches := fetches, pending := pending } := by
  simp only [resume, finishMutation]
  split
  · obtain ⟨fetches, e⟩ := beginRefresh_eq { s with pending := s.pending.erase m.server }
      [.success (m.verb ++ " " ++ { s with pending := s.pending.erase m.server }.serverName m.server)]
    exact ⟨fetches, _, e⟩
  · exact ⟨s.fetches, _, rfl⟩

/-- A turn of a refresh or a mutation changes nothing that belongs to the catalog. -/
theorem resume_eq_of_no_load (reply : Reply) {task : Task} (h : task.load? = none) :
    ∃ installed error fetches pending, (s.resume reply task).state =
      { s with installed := installed, error := error, fetches := fetches, pending := pending } := by
  cases task with
  | config load | home load config | catalog load config featured | offline load config featured catalog
  | installed load config featured catalog offline => cases h
  | mutation m space =>
    obtain ⟨fetches, pending, e⟩ := s.resume_mutation_eq reply m space
    exact ⟨s.installed, s.error, fetches, pending, e⟩
  | refresh space fetch =>
    obtain ⟨error, e⟩ := s.finishRefresh_eq fetch (reply.installed space)
    exact ⟨_, error, s.fetches, s.pending, e⟩

/-- A load waits on and changes nothing, or it is at its end. -/
theorem resume_load_cases (reply : Reply) {task : Task} {load : Load} (h : task.load? = some load) :
    (∃ task', s.resume reply task = ⟨s, .waits task', []⟩ ∧ task'.load? = some load) ∨
    ∃ config featured catalog offline, task = .installed load config featured catalog offline := by
  cases task with
  | config load' | home load' config | catalog load' config featured | offline load' config featured catalog =>
    cases h
    exact Or.inl ⟨_, rfl, rfl⟩
  | installed load' config featured catalog offline =>
    cases h
    exact Or.inr ⟨config, featured, catalog, offline, rfl⟩
  | mutation m space => cases h
  | refresh space fetch => cases h

/-- What the user changes apart from any operation. -/
theorem adjust_eq (a : Adjustment) :
    ∃ selections query sort page error, s.adjust a =
      { s with selections := selections, query := query, sort := sort, page := page, error := error } := by
  cases a with
  | select filter option => exact ⟨_, _, s.sort, _, s.error, rfl⟩
  | search query => exact ⟨s.selections, _, s.sort, _, s.error, rfl⟩
  | sort sort => exact ⟨s.selections, s.query, _, _, s.error, rfl⟩
  | clearFilters => exact ⟨_, s.query, s.sort, _, s.error, rfl⟩
  | goTo page => exact ⟨s.selections, s.query, s.sort, _, s.error, rfl⟩
  | dismissError => exact ⟨s.selections, s.query, s.sort, s.page, _, rfl⟩

/-- No turn after the first changes the space or the number of loads. -/
theorem resume_keeps (reply : Reply) (task : Task) :
    (s.resume reply task).state.space = s.space ∧ (s.resume reply task).state.loads = s.loads := by
  cases h : task.load? with
  | none =>
    obtain ⟨installed, error, fetches, pending, e⟩ := s.resume_eq_of_no_load reply h
    rw [e]
    exact ⟨rfl, rfl⟩
  | some load =>
    rcases s.resume_load_cases reply h with ⟨task', e, -⟩ | ⟨config, featured, catalog, offline, rfl⟩
    · rw [e]
      exact ⟨rfl, rfl⟩
    · show (s.finishLoad load config featured catalog offline (reply.installed load.space)).space = s.space ∧
        (s.finishLoad load config featured catalog offline (reply.installed load.space)).loads = s.loads
      by_cases last : s.loads = load.number
      · obtain ⟨config', sort, error, e⟩ := s.finishLoad_of_eq config featured catalog offline
          (reply.installed load.space) last
        rw [e]
        exact ⟨rfl, rfl⟩
      · rw [s.finishLoad_of_ne config featured catalog offline (reply.installed load.space) last]
        exact ⟨rfl, rfl⟩

/-- A load goes on as a part of the same load; no other operation becomes a load. -/
theorem load?_resume (reply : Reply) {task task' : Task} (h : (s.resume reply task).next.task? = some task') :
    task.load? = task'.load? := by
  cases task with
  | config load | home load config | catalog load config featured | offline load config featured catalog =>
    cases h
    rfl
  | installed load config featured catalog offline => cases h
  | refresh space fetch => cases h
  | mutation m space =>
    simp only [resume, finishMutation, beginRefresh] at h
    split at h
    · split at h
      · cases h
      · cases h
        rfl
    · cases h

/-- The first task of an operation: that of a load is a part of a load of its space. -/
theorem load?_start {operation : Operation} {task : Task} (h : (s.start operation).next.task? = some task) :
    operation.space? = task.load?.map Load.space := by
  cases operation with
  | load space =>
    cases h
    rfl
  | refresh =>
    simp only [start, beginRefresh] at h
    split at h
    · cases h
    · cases h
      rfl
  | mutate m =>
    simp only [start, beginMutation] at h
    split at h
    · cases h
    · cases h
      rfl

end State

/-- Once a space is current, some space stays current. -/
theorem exists_space_run {f : Store} {space : Uuid} (current : f.state.space = some space) (os : List Moment) :
    ∃ space', (f.run behaviour os).state.space = some space' := by
  refine f.run_invariant behaviour (P := fun s => ∃ space, s.space = some space) ?_ ?_ ?_ os ⟨space, current⟩
  · intro s operation known
    cases other : operation.space? with
    | none =>
      obtain ⟨fetches, pending, e⟩ := s.start_eq other
      rw [show behaviour.start = State.start from rfl, e]
      exact known
    | some space' =>
      cases operation with
      | load space' => exact ⟨space', rfl⟩
      | refresh | mutate m => cases other
  · intro s reply task known
    rw [show behaviour.resume = State.resume from rfl, (s.resume_keeps reply task).1]
    exact known
  · intro s a known
    obtain ⟨_, _, _, _, _, e⟩ := s.adjust_eq a
    rw [show behaviour.adjust = State.adjust from rfl, e]
    exact known

end Switchboard.Registry
