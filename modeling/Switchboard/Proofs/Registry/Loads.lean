import Mathlib.Data.List.Induction
import Switchboard.Proofs.Registry.Run

/-!
# Loads that overlap

Of several loads in flight only the one started last counts. `Loading last f` says that `last`, the number of an
operation and a space, is that load: the page is of its space, and it is loading as long as the operation waits. Every
moment keeps this (`Loading.start_load`, `Loading.start_other`, `Loading.reply`, `Loading.adjust`), and a reply to any
other load changes nothing (`Loading.resume_of_superseded`).

`answers os id` are the replies that an operation took in during a run. They determine the task that a load waits with
(`Load.taskAfter`), and what the page shows of the catalog is made of the replies to one load (`Accounted`).
`load_supersedes` puts these together for every run from the start.
-/

namespace Switchboard.Registry

open Backend (Reply Rejection)

/-! ## The loads of a run -/

/-- The loads that a run starts, in order: the number of the operation, and the space. -/
def loads (os : List Moment) : List (Nat × Uuid) :=
  (operations os).zipIdx.filterMap fun (operation, id) => operation.space?.map fun space => (id, space)

/-- The load that was started last. -/
def lastLoad? (os : List Moment) : Option (Nat × Uuid) := (loads os).getLast?

theorem mem_loads_iff {os : List Moment} {id : Nat} {space : Uuid} :
    (id, space) ∈ loads os ↔ (operations os)[id]? = some (.load space) := by
  simp only [loads, List.mem_filterMap, Prod.exists, List.mk_mem_zipIdx_iff_getElem?, Option.map_eq_some_iff,
    Prod.mk.injEq]
  constructor
  · rintro ⟨operation, _, found, _, is_load, rfl, rfl⟩
    cases operation with
    | load space' =>
      cases is_load
      exact found
    | refresh => cases is_load
    | mutate m => cases is_load
  · intro found
    exact ⟨.load space, id, found, space, rfl, rfl, rfl⟩

theorem loads_concat_start (os : List Moment) (operation : Operation) :
    loads (os ++ [.start operation]) =
      loads os ++ (operation.space?.map fun space => ((operations os).length, space)).toList := by
  simp only [loads, operations_concat_start, List.zipIdx_append, List.filterMap_append, Nat.zero_add]
  congr 1

/-! ## Of the loads in flight the last one counts -/

/-- The load `last` was started last. -/
structure Loading (last : Option (Nat × Uuid)) (f : Store) : Prop where
  latest : Latest (fun task => task.load?.map Load.number) State.loads (last.map Prod.fst) f
  space : f.state.space = last.map Prod.snd
  loading : f.state.loading = ((last.map Prod.fst).bind f.task?).isSome

namespace Loading

variable {last : Option (Nat × Uuid)} {f : Store}

theorem fresh : Loading none fresh := ⟨Latest.fresh _, rfl, rfl⟩

theorem start_load (h : Loading last f) (space : Uuid) :
    Loading (some (f.started, space)) (f.after behaviour (.start (.load space))) := by
  refine ⟨h.latest.begin_start behaviour rfl ?_, rfl, ?_⟩
  · rintro task ⟨⟩
    rfl
  · have waits : (f.after behaviour (.start (.load space))).task? f.started =
        some (.config ⟨space, f.state.loads + 1, f.state.fetches + 1⟩) := by
      rw [task?_start, h.latest.numbered f.started (Nat.le_refl _), Option.none_or, if_pos rfl]
      rfl
    rw [Option.map_some, Option.bind_some, waits]
    rfl

theorem start_other (h : Loading last f) {operation : Operation} (other : operation.space? = none) :
    Loading last (f.after behaviour (.start operation)) := by
  obtain ⟨fetches, pending, e⟩ := f.state.start_eq other
  have state : (f.after behaviour (.start operation)).state = { f.state with fetches := fetches, pending := pending } :=
    (state_start f operation).trans e
  refine ⟨h.latest.after_start behaviour ((congrArg State.loads e).trans rfl) ?_, ?_, ?_⟩
  · intro task first
    have := f.state.load?_start first
    rw [other, eq_comm, Option.map_eq_none_iff] at this
    rw [this]
    rfl
  · rw [state]
    exact h.space
  · rw [state]
    refine h.loading.trans ?_
    cases own : last.map Prod.fst with
    | none => rfl
    | some id =>
      have := h.latest.given id own
      rw [Option.bind_some, Option.bind_some, task?_start, if_neg (by omega), Option.or_none]

theorem adjust (h : Loading last f) (a : Adjustment) : Loading last (f.after behaviour (.adjust a)) := by
  obtain ⟨selections, query, sort, page, error, e⟩ := f.state.adjust_eq a
  have state : (f.after behaviour (.adjust a)).state =
      { f.state with selections := selections, query := query, sort := sort, page := page, error := error } := e
  refine ⟨h.latest.after_adjust behaviour ((congrArg State.loads e).trans rfl), ?_, ?_⟩
  · rw [state]
    exact h.space
  · rw [state]
    exact h.loading

section Reply

variable {id : Nat} {task : Task} {load : Load}

/-- The number of a load that waits is the number of loads iff the load is the last one. -/
theorem number_eq_iff (h : Loading last f) (waits : f.task? id = some task) (is_load : task.load? = some load) :
    f.state.loads = load.number ↔ last.map Prod.fst = some id :=
  h.latest.holds_iff waits (by rw [is_load]; rfl)

/-- A reply to a load that is not the last one changes nothing. -/
theorem resume_of_superseded (h : Loading last f) (waits : f.task? id = some task) (is_load : task.load? = some load)
    (superseded : last.map Prod.fst ≠ some id) (reply : Reply) : (f.state.resume reply task).state = f.state := by
  rcases f.state.resume_load_cases reply is_load with ⟨task', e, -⟩ | ⟨config, featured, catalog, offline, rfl⟩
  · rw [e]
  · refine f.state.finishLoad_of_ne config featured catalog offline _ fun number => superseded ?_
    exact (h.number_eq_iff waits is_load).mp number

/-- After a reply to the last load the page is loading iff the load waits on. -/
theorem loading_resume_of_last (h : Loading last f) (waits : f.task? id = some task)
    (is_last : last.map Prod.fst = some id) (reply : Reply) :
    (f.state.resume reply task).state.loading = (f.state.resume reply task).next.task?.isSome := by
  have holds := h.latest.own id task is_last waits
  obtain ⟨load, is_load, number⟩ := Option.map_eq_some_iff.mp holds
  rcases f.state.resume_load_cases reply is_load with ⟨task', e, -⟩ | ⟨config, featured, catalog, offline, rfl⟩
  · rw [e, h.loading, is_last, Option.bind_some, waits]
    rfl
  · obtain ⟨config', sort, error, e⟩ := f.state.finishLoad_of_eq config featured catalog offline
      (reply.installed load.space) number.symm
    exact congrArg State.loading e

/-- A reply to any other operation does not change whether the page is loading. -/
theorem loading_resume_of_ne (h : Loading last f) (waits : f.task? id = some task)
    (other : last.map Prod.fst ≠ some id) (reply : Reply) :
    (f.state.resume reply task).state.loading = f.state.loading := by
  cases is_load : task.load? with
  | some load => rw [h.resume_of_superseded waits is_load other reply]
  | none =>
    obtain ⟨installed, error, fetches, pending, e⟩ := f.state.resume_eq_of_no_load reply is_load
    rw [e]

theorem reply (h : Loading last f) (id : Nat) (reply : Reply) : Loading last (f.after behaviour (.reply id reply)) := by
  cases waits : f.task? id with
  | none =>
    rw [Flight.after_reply_of_none _ _ waits]
    exact h
  | some task =>
    obtain ⟨space, number⟩ := f.state.resume_keeps reply task
    have state := state_reply waits reply
    refine ⟨h.latest.after_reply behaviour waits number ?_, ?_, ?_⟩
    · intro task' next
      rw [f.state.load?_resume reply next]
    · rw [state]
      exact space.trans h.space
    · rw [state]
      by_cases own : last.map Prod.fst = some id
      · rw [own, Option.bind_some, task?_reply waits, if_pos rfl]
        exact h.loading_resume_of_last waits own reply
      · refine (h.loading_resume_of_ne waits own reply).trans (h.loading.trans ?_)
        cases same : last.map Prod.fst with
        | none => rfl
        | some i =>
          have hi : id ≠ i := fun e => own (same.trans (congrArg some e.symm))
          rw [Option.bind_some, Option.bind_some, task?_reply waits, if_neg hi]

end Reply

end Loading

theorem loading_reached (os : List Moment) : Loading (lastLoad? os) (reached os) := by
  induction os using List.reverseRecOn with
  | nil => exact Loading.fresh
  | append_singleton os o ih =>
    rw [reached_concat]
    cases o with
    | start operation =>
      rw [lastLoad?, loads_concat_start, ← started_reached]
      cases is_load : operation.space? with
      | none =>
        rw [Option.map_none, Option.toList_none, List.append_nil]
        exact ih.start_other is_load
      | some space =>
        rw [Option.map_some, Option.toList_some, List.getLast?_concat]
        cases operation with
        | load space' =>
          cases is_load
          exact ih.start_load space
        | refresh => cases is_load
        | mutate m => cases is_load
    | reply id reply =>
      rw [lastLoad?, loads, operations_concat_reply]
      exact ih.reply id reply
    | adjust a =>
      rw [lastLoad?, loads, operations_concat_adjust]
      exact ih.adjust a

/-! ## Replies and what is made of them -/

/-- The reply of a moment that an operation takes in: one that it waits for. -/
def taken? (f : Store) (id : Nat) : Moment → Option Reply
  | .reply i reply => if i = id ∧ (f.task? id).isSome then some reply else none
  | _ => none

/-- The replies that an operation takes in during a run, in order. -/
def answersIn (f : Store) (id : Nat) : List Moment → List Reply
  | [] => []
  | o :: os => (taken? f id o).toList ++ answersIn (f.after behaviour o) id os

/-- The replies that an operation took in during a run from the start. -/
def answers (os : List Moment) (id : Nat) : List Reply := answersIn fresh id os

theorem answersIn_append (f : Store) (id : Nat) (os ps : List Moment) :
    answersIn f id (os ++ ps) = answersIn f id os ++ answersIn (f.run behaviour os) id ps := by
  induction os generalizing f with
  | nil => rfl
  | cons o os ih => rw [List.cons_append, answersIn, answersIn, ih, List.append_assoc, Flight.run_cons]

theorem answers_concat (os : List Moment) (o : Moment) (id : Nat) :
    answers (os ++ [o]) id = answers os id ++ (taken? (reached os) id o).toList := by
  rw [answers, answersIn_append, answersIn, answersIn, List.append_nil]
  rfl

theorem answers_concat_of_none {os : List Moment} {o : Moment} {id : Nat} (h : taken? (reached os) id o = none) :
    answers (os ++ [o]) id = answers os id := by
  rw [answers_concat, h, Option.toList_none, List.append_nil]

/-- The ids of the featured servers that a reply names. -/
def featuredIn (home : Reply) : List String := (home.home.toOption.join.map Catalog.Home.featured).getD []

/-- Whether a reply says that the backend has no catalog of its own at hand. -/
def saysOffline (offline : Reply) : Bool := offline.offline.toOption.getD false

/-- The task of a load after the replies so far. -/
def Load.taskAfter (load : Load) : List Reply → Option Task
  | [] => some (.config load)
  | [config] => some (.home load config.catalogConfig.toOption)
  | [config, home] => some (.catalog load config.catalogConfig.toOption (featuredIn home))
  | [config, home, catalog] =>
    some (.offline load config.catalogConfig.toOption (featuredIn home) catalog.catalog)
  | [config, home, catalog, offline] =>
    some (.installed load config.catalogConfig.toOption (featuredIn home) catalog.catalog (saysOffline offline))
  | _ => none

namespace Load

variable {l : Load} {replies : List Reply}

theorem task?_resume (s : State) {task : Task} (h : l.taskAfter replies = some task) (reply : Reply) :
    (s.resume reply task).next.task? = l.taskAfter (replies ++ [reply]) := by
  match replies with
  | [] | [_] | [_, _] | [_, _, _] | [_, _, _, _] =>
    cases h
    rfl
  | _ :: _ :: _ :: _ :: _ :: _ => cases h

/-- A load at its end had four replies. -/
theorem replies_of_installed {load : Load} {config : Option Catalog.Config} {featured : List String}
    {catalog : Except Rejection (List Definition)} {offline : Bool}
    (h : l.taskAfter replies = some (.installed load config featured catalog offline)) :
    ∃ first home listed source, replies = [first, home, listed, source] ∧ featured = featuredIn home ∧
      catalog = listed.catalog ∧ offline = saysOffline source := by
  match replies with
  | [first, home, listed, source] =>
    cases h
    exact ⟨first, home, listed, source, rfl, rfl, rfl, rfl⟩
  | [] | [_] | [_, _] | [_, _, _] => cases h
  | _ :: _ :: _ :: _ :: _ :: _ => cases h

end Load

/-- What the page shows of the catalog. -/
structure Listing where
  definitions : List Definition := []
  offline : Bool := false
  featuredIds : List String := []

/-- What a page shows of the catalog. -/
def State.listing (s : State) : Listing := ⟨s.definitions, s.offline, s.featuredIds⟩

/-- What these replies make of the catalog; without the catalog itself there is nothing to list. -/
def Listing.ofReplies (home catalog offline : Reply) : Listing where
  definitions := catalog.catalog.toOption.getD []
  offline := catalog.catalog.toOption.elim true fun _ => saysOffline offline
  featuredIds := featuredIn home

/-- The page shows what a load made of the replies it took in. -/
def Shows (os : List Moment) (l : Nat × Uuid) : Prop :=
  ∃ config home catalog offline installed, answers os l.1 = [config, home, catalog, offline, installed] ∧
    (reached os).state.listing = .ofReplies home catalog offline

theorem State.listing_start (s : State) (operation : Operation) : (s.start operation).state.listing = s.listing := by
  cases is_load : operation.space? with
  | none =>
    obtain ⟨fetches, pending, e⟩ := s.start_eq is_load
    rw [e]
    rfl
  | some space =>
    cases operation with
    | load space' => rfl
    | refresh => cases is_load
    | mutate m => cases is_load

/-- The replies account for all tasks of loads and for what is shown. -/
structure Accounted (os : List Moment) : Prop where
  operation : ∀ id task, (reached os).task? id = some task →
    ∃ operation, (operations os)[id]? = some operation ∧ operation.space? = task.load?.map Load.space
  steps : ∀ id task load, (reached os).task? id = some task → task.load? = some load →
    load.taskAfter (answers os id) = some task
  unasked : ∀ id, (operations os).length ≤ id → answers os id = []
  listing : (reached os).state.listing = {} ∨ ∃ l ∈ loads os, (reached os).task? l.1 = none ∧ Shows os l

namespace Accounted

variable {os : List Moment}

theorem nil : Accounted [] := ⟨nofun, nofun, fun _ _ => rfl, Or.inl rfl⟩

/-- What was shown before is shown as long as nothing is taken in by a load that is over. -/
theorem listing_keep (h : Accounted os) {o : Moment}
    (same : (reached (os ++ [o])).state.listing = (reached os).state.listing)
    (fewer : ∀ l ∈ loads os, l ∈ loads (os ++ [o])) :
    (reached (os ++ [o])).state.listing = {} ∨
      ∃ l ∈ loads (os ++ [o]), (reached (os ++ [o])).task? l.1 = none ∧ Shows (os ++ [o]) l := by
  rcases h.listing with initial | ⟨⟨id, space⟩, hl, finished, config, home, catalog, offline, installed, replies, shown⟩
  · exact Or.inl (same.trans initial)
  · have given : id < (reached os).started := by
      rw [started_reached]
      exact (List.getElem?_eq_some_iff.mp (mem_loads_iff.mp hl)).1
    refine Or.inr ⟨(id, space), fewer _ hl, ?_, config, home, catalog, offline, installed, ?_, same.trans shown⟩
    · rw [reached_concat]
      exact Flight.task?_after_of_over behaviour finished given o
    · refine (answers_concat_of_none ?_).trans replies
      cases o with
      | start operation => rfl
      | reply i reply =>
        have finished : (reached os).task? id = none := finished
        simp [taken?, finished]
      | adjust a => rfl

theorem start (h : Accounted os) (operation : Operation) : Accounted (os ++ [.start operation]) := by
  have tasks : ∀ id task, (reached (os ++ [.start operation])).task? id = some task →
      (reached os).task? id = some task ∨
        (id = (operations os).length ∧ ((reached os).state.start operation).next.task? = some task) := by
    intro id task waits
    rw [reached_concat, Flight.task?_after_start, Option.or_eq_some_iff, started_reached] at waits
    rcases waits with old | ⟨-, new⟩
    · exact Or.inl old
    · split at new
      · rename_i own
        exact Or.inr ⟨own.symm, new⟩
      · cases new
  refine ⟨?_, ?_, ?_, ?_⟩
  · intro id task waits
    rw [operations_concat_start]
    rcases tasks id task waits with old | ⟨rfl, new⟩
    · obtain ⟨op, found, is_load⟩ := h.operation id task old
      have within := (List.getElem?_eq_some_iff.mp found).1
      exact ⟨op, (List.getElem?_append_left within).trans found, is_load⟩
    · exact ⟨operation, List.getElem?_concat_length, (reached os).state.load?_start new⟩
  · intro id task load waits is_load
    rw [answers_concat_of_none rfl]
    rcases tasks id task waits with old | ⟨rfl, new⟩
    · exact h.steps id task load old is_load
    · rw [h.unasked _ (Nat.le_refl _)]
      have := (reached os).state.load?_start new
      rw [is_load] at this
      cases operation with
      | load space =>
        cases new
        cases is_load
        rfl
      | refresh => cases this
      | mutate m => cases this
  · intro id past
    rw [operations_concat_start, List.length_append, List.length_singleton] at past
    rw [answers_concat_of_none rfl]
    exact h.unasked id (by omega)
  · refine h.listing_keep ?_ fun l hl => ?_
    · rw [reached_concat, Flight.state_after_start]
      exact (reached os).state.listing_start operation
    · rw [loads_concat_start]
      exact List.mem_append_left _ hl

theorem adjust (h : Accounted os) (a : Adjustment) : Accounted (os ++ [.adjust a]) := by
  have tasks : ∀ id, (reached (os ++ [.adjust a])).task? id = (reached os).task? id := by
    intro id
    rw [reached_concat]
    rfl
  have same : ∀ id, answers (os ++ [.adjust a]) id = answers os id := fun id => answers_concat_of_none rfl
  refine ⟨?_, ?_, ?_, ?_⟩
  · intro id task waits
    rw [tasks] at waits
    rw [operations_concat_adjust]
    exact h.operation id task waits
  · intro id task load waits is_load
    rw [tasks] at waits
    rw [same]
    exact h.steps id task load waits is_load
  · intro id past
    rw [operations_concat_adjust] at past
    rw [same]
    exact h.unasked id past
  · refine h.listing_keep ?_ fun l hl => ?_
    · obtain ⟨selections, query, sort, page, error, e⟩ := (reached os).state.adjust_eq a
      rw [reached_concat, Flight.state_after_adjust]
      show ((reached os).state.adjust a).listing = _
      rw [e]
      rfl
    · rw [loads, operations_concat_adjust]
      exact hl

section Reply

variable {id : Nat} {task : Task}

theorem answers_concat_reply (waits : (reached os).task? id = some task) (reply : Reply) (i : Nat) :
    answers (os ++ [.reply id reply]) i = answers os i ++ if id = i then [reply] else [] := by
  rw [answers_concat, taken?]
  by_cases hi : id = i
  · subst hi
    simp [waits]
  · simp [hi]

/-- The end of the last load shows what it fetched; no other reply changes what is shown. -/
theorem listing_resume (h : Accounted os) (waits : (reached os).task? id = some task) (reply : Reply) :
    ((reached os).state.resume reply task).state.listing = (reached os).state.listing ∨
    ∃ space config home catalog offline, (id, space) ∈ loads os ∧
      answers os id = [config, home, catalog, offline] ∧ ((reached os).state.resume reply task).next.task? = none ∧
      ((reached os).state.resume reply task).state.listing = .ofReplies home catalog offline := by
  cases is_load : task.load? with
  | none =>
    obtain ⟨installed, error, fetches, pending, e⟩ := (reached os).state.resume_eq_of_no_load reply is_load
    left
    rw [e]
    rfl
  | some load =>
    by_cases last : (lastLoad? os).map Prod.fst = some id
    · rcases (reached os).state.resume_load_cases reply is_load with
        ⟨task', e, -⟩ | ⟨config, featured, catalog, offline, rfl⟩
      · left
        rw [e]
      · right
        obtain ⟨operation, found, is_load'⟩ := h.operation id _ waits
        obtain ⟨first, home, listed, source, replies, rfl, rfl, rfl⟩ :=
          Load.replies_of_installed (h.steps id _ load waits rfl)
        have number := ((loading_reached os).number_eq_iff waits rfl).mpr last
        obtain ⟨config', sort, error, e⟩ := (reached os).state.finishLoad_of_eq config (featuredIn home) listed.catalog
          (saysOffline source) (reply.installed load.space) number
        refine ⟨load.space, first, home, listed, source, ?_, replies, rfl, ?_⟩
        · cases operation with
          | load space =>
            cases is_load'
            exact mem_loads_iff.mpr found
          | refresh => cases is_load'
          | mutate m => cases is_load'
        · exact congrArg State.listing e
    · left
      rw [(loading_reached os).resume_of_superseded waits is_load last reply]

theorem reply_of_waits (h : Accounted os) (waits : (reached os).task? id = some task) (reply : Reply) :
    Accounted (os ++ [.reply id reply]) := by
  have tasks : ∀ i, (reached (os ++ [.reply id reply])).task? i =
      if id = i then ((reached os).state.resume reply task).next.task? else (reached os).task? i := by
    intro i
    rw [reached_concat, Flight.task?_after_reply _ _ waits]
    rfl
  have same := operations_concat_reply os id reply
  refine ⟨?_, ?_, ?_, ?_⟩
  · intro i task' waits'
    rw [tasks] at waits'
    rw [same]
    split at waits'
    · rename_i hi
      subst hi
      rw [← (reached os).state.load?_resume reply waits']
      exact h.operation id task waits
    · exact h.operation i task' waits'
  · intro i task' load waits' is_load
    rw [tasks] at waits'
    rw [answers_concat_reply waits]
    split at waits'
    · rename_i hi
      subst hi
      rw [← (reached os).state.load?_resume reply waits'] at is_load
      rw [if_pos rfl, ← Load.task?_resume (reached os).state (h.steps id task load waits is_load) reply]
      exact waits'
    · rename_i hi
      rw [if_neg hi, List.append_nil]
      exact h.steps i task' load waits' is_load
  · intro i past
    rw [same] at past
    have given := (numbered_reached os).lt_of_waits waits
    rw [started_reached] at given
    rw [answers_concat_reply waits, if_neg (by omega), List.append_nil]
    exact h.unasked i past
  · have loads_same : loads (os ++ [.reply id reply]) = loads os := by rw [loads, same, loads]
    have state : (reached (os ++ [.reply id reply])).state = ((reached os).state.resume reply task).state := by
      rw [reached_concat, Flight.state_after_reply _ _ waits]
      rfl
    rcases h.listing_resume waits reply with
      kept | ⟨space, config, home, catalog, offline, hl, replies, finished, shown⟩
    · refine h.listing_keep ?_ fun l hl => ?_
      · rw [state]
        exact kept
      · rw [loads_same]
        exact hl
    · refine Or.inr ⟨(id, space), ?_, ?_, config, home, catalog, offline, reply, ?_, ?_⟩
      · rw [loads_same]
        exact hl
      · rw [tasks, if_pos rfl]
        exact finished
      · rw [answers_concat_reply waits, replies, if_pos rfl]
        rfl
      · rw [state]
        exact shown

/-- A reply that nothing waits for leaves everything accounted for. -/
theorem reply_of_none (h : Accounted os) (none : (reached os).task? id = none) (reply : Reply) :
    Accounted (os ++ [.reply id reply]) := by
  have same : reached (os ++ [.reply id reply]) = reached os := by
    rw [reached_concat, Flight.after_reply_of_none _ _ none]
  have untaken : ∀ i, answers (os ++ [.reply id reply]) i = answers os i := by
    intro i
    refine answers_concat_of_none ?_
    rw [taken?, if_neg]
    rintro ⟨rfl, waits⟩
    rw [none] at waits
    cases waits
  refine ⟨?_, ?_, ?_, h.listing_keep (by rw [same]) fun l hl => ?_⟩
  · rw [same, operations_concat_reply]
    exact h.operation
  · intro i task load waits
    rw [same] at waits
    rw [untaken]
    exact h.steps i task load waits
  · intro i past
    rw [operations_concat_reply] at past
    rw [untaken]
    exact h.unasked i past
  · rw [loads, operations_concat_reply]
    exact hl

end Reply

end Accounted

theorem accounted_reached (os : List Moment) : Accounted os := by
  -- from the end of the run: what a moment adds depends on all moments before it
  induction os using List.reverseRecOn with
  | nil => exact Accounted.nil
  | append_singleton os o ih =>
    cases o with
    | start operation => exact ih.start operation
    | reply id reply =>
      cases waits : (reached os).task? id with
      | none => exact ih.reply_of_none waits reply
      | some task => exact ih.reply_of_waits waits reply
    | adjust a => exact ih.adjust a

/-- A load other than the last one has a number other than that of the last one. -/
theorem number_ne_of_superseded {os : List Moment} {l : Nat × Uuid} (hl : l ∈ loads os)
    (superseded : lastLoad? os ≠ some l) :
    (lastLoad? os).map Prod.fst ≠ some l.1 := by
  intro number
  obtain ⟨⟨id, space⟩, last, rfl⟩ := Option.map_eq_some_iff.mp number
  have found := mem_loads_iff.mp (List.mem_of_getLast? last)
  rw [mem_loads_iff.mp hl] at found
  cases found
  exact superseded last

/-- **The last load counts.** Whatever happens in whatever order, the page is of the space of the load that was started
last and is loading as long as that load waits for a reply; a reply to a load that was started before changes nothing;
and what is shown of the catalog is as at the start, or it is made of the five replies to one load. -/
theorem load_supersedes (os : List Moment) :
    ((reached os).state.loading = true ↔ ∃ l, lastLoad? os = some l ∧ ((reached os).task? l.1).isSome) ∧
    (reached os).state.space = (lastLoad? os).map Prod.snd ∧
    (∀ l ∈ loads os, lastLoad? os ≠ some l → ∀ reply,
      ((reached os).after behaviour (.reply l.1 reply)).state = (reached os).state) ∧
    ((reached os).state.listing = {} ∨ ∃ l ∈ loads os, Shows os l) := by
  have loading := loading_reached os
  have accounted := accounted_reached os
  refine ⟨?_, loading.space, ?_, ?_⟩
  · rw [loading.loading]
    cases lastLoad? os with
    | none => simp
    | some l => simp
  · intro l hl superseded reply
    have other := number_ne_of_superseded hl superseded
    cases waits : (reached os).task? l.1 with
    | none => rw [Flight.after_reply_of_none _ _ waits]
    | some task =>
      obtain ⟨operation, found, is_load⟩ := accounted.operation l.1 task waits
      rw [mem_loads_iff.mp hl] at found
      cases found
      obtain ⟨load, is_load, -⟩ := Option.map_eq_some_iff.mp is_load.symm
      rw [Flight.state_after_reply _ _ waits]
      exact loading.resume_of_superseded waits is_load other reply
  · rcases accounted.listing with initial | ⟨l, hl, -, shown⟩
    · exact Or.inl initial
    · exact Or.inr ⟨l, hl, shown⟩

/-- A load of another space begins while the replies to a load still come. -/
def overlap : List Moment :=
  [.start (.load ⟨1⟩), .reply 0 (.ok .null), .start (.load ⟨2⟩), .reply 0 (.ok .null), .reply 0 (.ok (.arr [])),
    .reply 0 (.ok (.bool true))]

theorem overlap_superseded : (reached overlap).state.loading = true ∧ (reached overlap).state.space = some ⟨2⟩ ∧
    ((reached overlap).after behaviour (.reply 0 (.ok (.arr [])))).state = (reached overlap).state := by
  obtain ⟨loading, space, superseded, -⟩ := load_supersedes overlap
  exact ⟨loading.mpr ⟨(1, ⟨2⟩), rfl, rfl⟩, space, superseded (0, ⟨1⟩) (by decide) (by decide) _⟩

end Switchboard.Registry
