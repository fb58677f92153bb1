import Switchboard.Proofs.Registry.Log

/-!
# The installed list keeps up

The installed list of a page is fetched by loads and refreshes, and a refresh also follows every successful mutation
and every event that a watch hears about the current space. `Follows log f due` relates the log of a page to its store:
the last fetch of the log is the one that counts, what is shown is the list it got, and a change that no fetch
followed so far has left a refresh for later. Fetches begin (`Follows.begin`), go on (`Follows.goOn`) and end
(`Follows.finish`), watches hear of changes (`Follows.hear`), and nothing else matters (`Follows.quiet`).

`installed_keeps_up` draws the conclusions for every run: what is shown is a list of the current space; a fetch that
another one followed changes nothing of it; and when no refresh is left for later, it is the list of the last fetch,
asked for after all changes.
-/

namespace Switchboard.Registry

open Backend (Reply Rejection)
open Client (Effect Scene)

/-- The operation `id` called for the list of a space; if it began the last fetch, it did so since. -/
def Asked (log : List Entry) (id : Nat) (space : Uuid) : Prop :=
  .asks id space ∈ log ∧ (lastFetch? log = some id → .asks id space ∈ sinceFetch log)

theorem Asked.append {log new : List Entry} {id : Nat} {space : Uuid} (h : Asked log id space)
    (plain : ∀ e ∈ new, e.isFetch = false) : Asked (new ++ log) id space := by
  refine ⟨List.mem_append_right _ h.1, fun last => ?_⟩
  rw [lastFetch?_append plain] at last
  rw [sinceFetch_append plain]
  exact List.mem_append_right _ (h.2 last)

theorem Asked.of_mem {log new : List Entry} {id : Nat} {space : Uuid} (h : .asks id space ∈ new)
    (plain : ∀ e ∈ new, e.isFetch = false) : Asked (new ++ log) id space := by
  refine ⟨List.mem_append_left _ h, fun _ => ?_⟩
  rw [sinceFetch_append plain]
  exact List.mem_append_left _ h

/-- The log tells what counts in the store; `due` says whether a refresh was left for later. -/
structure Follows (log : List Entry) (f : Store) (due : Bool) : Prop where
  current : Current (lastFetch? log) f
  idle : f.state.space = none → log = [] ∧ ∀ id, f.task? id = none
  shown : f.state.installed = [] ∨
    ∃ id space, f.state.space = some space ∧ Entry.gets id space (.ok f.state.installed) ∈ log
  finished : ∀ id space list, Entry.gets id space list ∈ log → id < f.started ∧ f.task? id = none
  asked : ∀ id task space, f.task? id = some task → task.call = .installed space → Asked log id space
  answered : ∀ id space list, Entry.gets id space list ∈ log → Asked log id space
  got : ∀ id space list, lastFetch? log = some id → Entry.gets id space (.ok list) ∈ log → f.state.installed = list
  missed : Entry.changed ∈ sinceFetch log → due = true

namespace Follows

variable {log : List Entry} {f g : Store} {due : Bool}

theorem start (due : Bool) : Follows [] fresh due :=
  ⟨Current.fresh, fun _ => ⟨rfl, fun _ => rfl⟩, Or.inl rfl, nofun, nofun, nofun, nofun, nofun⟩

/-- An operation waits only where there is a space. -/
theorem bound (h : Follows log f due) {id : Nat} {task : Task} (waits : f.task? id = some task) :
    f.state.space ≠ none := by
  intro unbound
  rw [(h.idle unbound).2 id] at waits
  cases waits

/-- Whatever adds no fetch and shows no other list leaves the log as it is. -/
theorem quiet (h : Follows log f due)
    (latest : Latest (fun task => task.fetch?.map Fetch.number) State.fetches (lastFetch? log) g)
    (started : f.started ≤ g.started)
    (state : g.state.space = f.state.space ∧ g.state.installed = f.state.installed ∧ g.state.loads = f.state.loads)
    (tasks : ∀ id task, g.task? id = some task →
      f.task? id = some task ∨ (f.state.space ≠ none ∧ task.fetch? = none))
    (finished : ∀ id, id < f.started → f.task? id = none → g.task? id = none) : Follows log g due := by
  obtain ⟨space, installed, loads⟩ := state
  have fetches : ∀ id task fetch, g.task? id = some task → task.fetch? = some fetch → f.task? id = some task := by
    intro id task fetch waits is_fetch
    rcases tasks id task waits with old | ⟨-, none⟩
    · exact old
    · rw [none] at is_fetch
      cases is_fetch
  refine ⟨?_, ?_, ?_, ?_, ?_, h.answered, ?_, h.missed⟩
  · exact h.current.keep latest space loads fun id task fetch waits is_fetch =>
      ⟨task, fetches id task fetch waits is_fetch, is_fetch, rfl⟩
  · intro unbound
    rw [space] at unbound
    refine ⟨(h.idle unbound).1, fun id => Option.eq_none_iff_forall_ne_some.mpr fun task waits => ?_⟩
    rcases tasks id task waits with old | ⟨bound, -⟩
    · exact h.bound old unbound
    · exact bound unbound
  · rw [space, installed]
    exact h.shown
  · intro id space' list told
    obtain ⟨given, ended⟩ := h.finished id space' list told
    exact ⟨Nat.lt_of_lt_of_le given started, finished id given ended⟩
  · intro id task space' waits call
    obtain ⟨fetch, is_fetch⟩ := Task.fetch?_isSome_of_call call
    exact h.asked id task space' (fetches id task fetch waits is_fetch) call
  · rw [installed]
    exact h.got

section Reply

variable {id : Nat} {task : Task} {fetch : Fetch} {reply : Reply}

/-- A fetch waits on. -/
theorem goOn (h : Follows log f due) (waits : f.task? id = some task) (is_fetch : task.fetch? = some fetch)
    {task' : Task} (turn : f.state.resume reply task = ⟨f.state, .waits task', []⟩) :
    Follows (asks id (.waits task') ++ log) (f.after behaviour (.reply id reply)) due := by
  have state : (f.after behaviour (.reply id reply)).state = f.state :=
    (state_reply waits reply).trans (congrArg Turn.state turn)
  have tasks : ∀ i, (f.after behaviour (.reply id reply)).task? i = if id = i then some task' else f.task? i := by
    intro i
    rw [task?_reply waits, turn]
    rfl
  have started : (f.after behaviour (.reply id reply)).started = f.started := f.started_after behaviour _
  have plain : ∀ e ∈ asks id (.waits task'), e.isFetch = false := fun _ => isFetch_of_mem_asks
  refine ⟨?_, ?_, ?_, ?_, ?_, ?_, ?_, ?_⟩
  · rw [lastFetch?_append plain]
    exact h.current.reply waits is_fetch reply
  · intro unbound
    rw [state] at unbound
    exact absurd unbound (h.bound waits)
  · rw [state]
    exact h.shown.imp_right fun ⟨i, space, bound, told⟩ => ⟨i, space, bound, List.mem_append_right _ told⟩
  · intro i space list told
    obtain ⟨given, ended⟩ := h.finished i space list (mem_of_mem_asks_append (fun _ => nofun) told)
    have hi : id ≠ i := by
      rintro rfl
      rw [ended] at waits
      cases waits
    rw [started, tasks, if_neg hi]
    exact ⟨given, ended⟩
  · intro i t space waits' call
    rw [tasks] at waits'
    split at waits'
    · rename_i hi
      subst hi
      exact Asked.of_mem (mem_asks_iff.mpr ⟨t, space, waits', call, rfl⟩) plain
    · exact (h.asked i t space waits' call).append plain
  · intro i space list told
    exact (h.answered i space list (mem_of_mem_asks_append (fun _ => nofun) told)).append plain
  · intro i space list last told
    rw [lastFetch?_append plain] at last
    rw [state]
    exact h.got i space list last (mem_of_mem_asks_append (fun _ => nofun) told)
  · intro changed
    rw [sinceFetch_append plain] at changed
    exact h.missed (mem_of_mem_asks_append (fun _ => nofun) changed)

/-- The reply to the call of the last fetch shows its list, if it got one. -/
theorem installed_of_last (h : Follows log f due) (waits : f.task? id = some task)
    (is_fetch : task.fetch? = some fetch) (ends : (f.state.resume reply task).next = .ends (.ok ()))
    (last : lastFetch? log = some id) : (f.after behaviour (.reply id reply)).state.installed =
      (reply.installed fetch.space).toOption.getD f.state.installed := by
  rw [state_reply waits]
  exact f.state.installed_resume_of_eq reply is_fetch ((h.current.number_iff waits is_fetch).mpr last)
    (fun load is_load => h.current.load id task load last waits is_load) ends

/-- The reply to a call of another fetch shows no other list. -/
theorem installed_of_superseded (h : Follows log f due) (waits : f.task? id = some task)
    (is_fetch : task.fetch? = some fetch) (superseded : lastFetch? log ≠ some id) :
    (f.after behaviour (.reply id reply)).state.installed = f.state.installed := by
  rw [state_reply waits]
  exact f.state.installed_resume_of_ne reply is_fetch fun number =>
    superseded ((h.current.number_iff waits is_fetch).mp number)

/-- After the reply to the call of a fetch, what is shown is the list of that call or what was shown before. -/
theorem shown_of_reply (h : Follows log f due) (waits : f.task? id = some task) (is_fetch : task.fetch? = some fetch)
    (ends : (f.state.resume reply task).next = .ends (.ok ())) :
    (f.after behaviour (.reply id reply)).state.installed = [] ∨ ∃ i space, f.state.space = some space ∧
      Entry.gets i space (.ok (f.after behaviour (.reply id reply)).state.installed) ∈
        .gets id fetch.space (reply.installed fetch.space) :: log := by
  have before : f.state.installed = [] ∨ ∃ i space, f.state.space = some space ∧
      Entry.gets i space (.ok f.state.installed) ∈ .gets id fetch.space (reply.installed fetch.space) :: log :=
    h.shown.imp_right fun ⟨i, space, bound, told⟩ => ⟨i, space, bound, List.mem_cons_of_mem _ told⟩
  -- only the last fetch shows its list, and only if it got one
  by_cases last : lastFetch? log = some id
  · rw [h.installed_of_last waits is_fetch ends last]
    cases list : reply.installed fetch.space with
    | ok l => exact Or.inr ⟨id, fetch.space, h.current.space id task fetch last waits is_fetch, List.mem_cons_self⟩
    | error r =>
      rw [list] at before
      exact before
  · rw [h.installed_of_superseded waits is_fetch last]
    exact before

/-- After the reply to the call of a fetch, the list that the last fetch got is shown, if it got one. -/
theorem got_of_reply (h : Follows log f due) (waits : f.task? id = some task) (is_fetch : task.fetch? = some fetch)
    (ends : (f.state.resume reply task).next = .ends (.ok ())) {i : Nat} {space : Uuid} {list : List Installation}
    (last : lastFetch? log = some i)
    (told : Entry.gets i space (.ok list) ∈ .gets id fetch.space (reply.installed fetch.space) :: log) :
    (f.after behaviour (.reply id reply)).state.installed = list := by
  rcases List.mem_cons.mp told with new | old
  · injection new with own _ got
    subst own
    rw [h.installed_of_last waits is_fetch ends last, ← got]
    rfl
  · -- the log holds no list of an operation that still waited
    have other : lastFetch? log ≠ some id := by
      intro own
      cases own.symm.trans last
      rw [(h.finished id space _ old).2] at waits
      cases waits
    rw [h.installed_of_superseded waits is_fetch other]
    exact h.got i space list last old

/-- The reply to the call of a fetch comes. -/
theorem finish (h : Follows log f due) (waits : f.task? id = some task) (is_fetch : task.fetch? = some fetch)
    (call : task.call = .installed fetch.space) (ends : (f.state.resume reply task).next = .ends (.ok ())) :
    Follows ([.gets id fetch.space (reply.installed fetch.space)] ++ log) (f.after behaviour (.reply id reply))
      due := by
  have space : (f.after behaviour (.reply id reply)).state.space = f.state.space := by
    rw [state_reply waits]
    exact (f.state.resume_fetch_keeps reply is_fetch).1
  have tasks : ∀ i, (f.after behaviour (.reply id reply)).task? i = if id = i then none else f.task? i := by
    intro i
    rw [task?_reply waits, ends]
    rfl
  have waited : ∀ i t, (f.after behaviour (.reply id reply)).task? i = some t → f.task? i = some t := by
    intro i t ht
    rw [tasks] at ht
    split at ht
    · cases ht
    · exact ht
  have started : (f.after behaviour (.reply id reply)).started = f.started := f.started_after behaviour _
  have plain : ∀ e ∈ [Entry.gets id fetch.space (reply.installed fetch.space)], e.isFetch = false := by
    rintro _ (_ | ⟨_, ⟨⟩⟩)
    rfl
  refine ⟨h.current.reply waits is_fetch reply, ?_, ?_, ?_, ?_, ?_, ?_, ?_⟩
  · intro unbound
    rw [space] at unbound
    exact absurd unbound (h.bound waits)
  · rw [space]
    exact h.shown_of_reply waits is_fetch ends
  · intro i space' list told
    rw [started, tasks]
    rcases List.mem_cons.mp told with new | old
    · cases new
      exact ⟨h.current.latest.numbered.lt_of_waits waits, if_pos rfl⟩
    · obtain ⟨given, ended⟩ := h.finished i space' list old
      exact ⟨given, by rw [ended, ite_self]⟩
  · exact fun i t space' waits' call' => (h.asked i t space' (waited i t waits') call').append plain
  · intro i space' list told
    rcases List.mem_cons.mp told with new | old
    · cases new
      exact (h.asked id task _ waits call).append plain
    · exact (h.answered i space' list old).append plain
  · exact fun i space' list last told => h.got_of_reply waits is_fetch ends last told
  · intro changed
    rcases List.mem_cons.mp changed with new | old
    · cases new
    · exact h.missed old

end Reply

/-- A fetch begins. Whatever changed before, the fetch will tell. -/
theorem begin (h : Follows log f due) {id : Nat} {task : Task} {fetch : Fetch} {changes : List Entry}
    (latest : Latest (fun task => task.fetch?.map Fetch.number) State.fetches (some id) g)
    (started : f.started ≤ g.started) (own : g.task? id = some task) (is_fetch : task.fetch? = some fetch)
    (others : ∀ i, id ≠ i → g.task? i = f.task? i) (first : ¬(id < f.started ∧ f.task? id = none))
    (space : g.state.space = some fetch.space) (load : ∀ load, task.load? = some load → g.state.loads = load.number)
    (installed : g.state.installed = [] ∨
      (g.state.space = f.state.space ∧ g.state.installed = f.state.installed))
    (only : ∀ e ∈ changes, e = .changed) (due' : Bool) :
    Follows (asks id (.waits task) ++ .fetches id :: (changes ++ log)) g due' := by
  have plain : ∀ e ∈ asks id (.waits task), e.isFetch = false := fun _ => isFetch_of_mem_asks
  have last : lastFetch? (asks id (.waits task) ++ .fetches id :: (changes ++ log)) = some id :=
    lastFetch?_append plain _
  have since : sinceFetch (asks id (.waits task) ++ .fetches id :: (changes ++ log)) = asks id (.waits task) :=
    (sinceFetch_append plain _).trans (List.append_nil _)
  have old : ∀ e ∈ log, e ∈ asks id (.waits task) ++ .fetches id :: (changes ++ log) := fun e he =>
    List.mem_append_right _ (List.mem_cons_of_mem _ (List.mem_append_right _ he))
  have told : ∀ i space list, Entry.gets i space list ∈ asks id (.waits task) ++ .fetches id :: (changes ++ log) →
      Entry.gets i space list ∈ log ∧ id ≠ i := by
    intro i space list hi
    have hi : Entry.gets i space list ∈ .fetches id :: (changes ++ log) := mem_of_mem_asks_append (fun _ => nofun) hi
    have hi : Entry.gets i space list ∈ log := by
      rcases List.mem_cons.mp hi with hi | hi
      · cases hi
      · rcases List.mem_append.mp hi with hi | hi
        · cases only _ hi
        · exact hi
    -- an operation that got its list is over, so it begins no fetch
    refine ⟨hi, ?_⟩
    rintro rfl
    exact first (h.finished id space list hi)
  -- another operation began no fetch since
  have asked : ∀ i space, id ≠ i → Asked log i space →
      Asked (asks id (.waits task) ++ .fetches id :: (changes ++ log)) i space := fun i space other asked =>
    ⟨old _ asked.1, fun own => absurd (Option.some.inj (last.symm.trans own)) other⟩
  refine ⟨?_, ?_, ?_, ?_, ?_, ?_, ?_, ?_⟩
  · rw [last]
    exact Current.begin latest own is_fetch space load
  · intro unbound
    rw [space] at unbound
    cases unbound
  · rcases installed with empty | ⟨same_space, same⟩
    · exact Or.inl empty
    · rw [same_space, same]
      exact h.shown.imp_right fun ⟨i, space', bound, got⟩ => ⟨i, space', bound, old _ got⟩
  · intro i space' list hi
    obtain ⟨hi, other⟩ := told i space' list hi
    obtain ⟨given, ended⟩ := h.finished i space' list hi
    exact ⟨Nat.lt_of_lt_of_le given started, (others i other).trans ended⟩
  · intro i t space' waits call
    by_cases hi : id = i
    · subst hi
      exact Asked.of_mem (mem_asks_iff.mpr ⟨t, space', own.symm.trans waits, call, rfl⟩) plain
    · rw [others i hi] at waits
      exact asked i space' hi (h.asked i t space' waits call)
  · intro i space' list hi
    obtain ⟨hi, other⟩ := told i space' list hi
    exact asked i space' other (h.answered i space' list hi)
  · intro i space' list own hi
    exact absurd (Option.some.inj (last.symm.trans own)) (told i space' _ hi).2
  · intro changed
    rw [since] at changed
    obtain ⟨_, _, -, -, e⟩ := mem_asks_iff.mp changed
    cases e

/-- A watch hears of a change and leaves a refresh for later. -/
theorem hear (h : Follows log f due) (bound : f.state.space ≠ none) : Follows ([.changed] ++ log) f true := by
  have plain : ∀ e ∈ [Entry.changed], e.isFetch = false := by
    rintro _ (_ | ⟨_, ⟨⟩⟩)
    rfl
  have told : ∀ {id space list}, Entry.gets id space list ∈ [.changed] ++ log → Entry.gets id space list ∈ log := by
    intro id space list hi
    rcases List.mem_cons.mp hi with hi | hi
    · cases hi
    · exact hi
  refine ⟨h.current, fun unbound => absurd unbound bound, ?_, ?_, ?_, ?_, ?_, fun _ => rfl⟩
  · exact h.shown.imp_right fun ⟨i, space, bound, told⟩ => ⟨i, space, bound, List.mem_cons_of_mem _ told⟩
  · exact fun id space list hi => h.finished id space list (told hi)
  · exact fun id task space waits call => (h.asked id task space waits call).append plain
  · exact fun id space list hi => (h.answered id space list (told hi)).append plain
  · exact fun id space list last hi => h.got id space list last (told hi)

/-! ## One turn -/

/-- Before anything is logged a refresh that was left for later makes no difference. -/
theorem of_nil (h : Follows [] f due) (due' : Bool) : Follows [] f due' := { h with missed := nofun }

/-- An operation starts, and not to fetch. -/
theorem quiet_start (h : Follows log f due) {operation : Operation}
    (state : (f.state.start operation).state.space = f.state.space ∧
      (f.state.start operation).state.installed = f.state.installed ∧
      (f.state.start operation).state.loads = f.state.loads)
    (fetches : (f.state.start operation).state.fetches = f.state.fetches)
    (no_fetch : ∀ task, (f.state.start operation).next.task? = some task → f.state.space ≠ none ∧ task.fetch? = none) :
    Follows log (f.after behaviour (.start operation)) due := by
  refine h.quiet (h.current.latest.after_start behaviour fetches fun task first => ?_) (Nat.le_succ _) ?_ ?_ ?_
  · rw [(no_fetch task first).2]
    rfl
  · rw [state_start]
    exact state
  · intro id task waits
    rw [task?_start, Option.or_eq_some_iff] at waits
    rcases waits with old | ⟨-, new⟩
    · exact Or.inl old
    · split at new
      · exact Or.inr (no_fetch task new)
      · cases new
  · intro id given finished
    rw [task?_start, finished, if_neg (by omega), Option.or_none]

/-- An operation starts to fetch. -/
theorem begin_start (h : Follows log f due) {operation : Operation} {task : Task} {fetch : Fetch}
    (first : (f.state.start operation).next = .waits task) (is_fetch : task.fetch? = some fetch)
    (up : (f.state.start operation).state.fetches = f.state.fetches + 1) (number : fetch.number = f.state.fetches + 1)
    (space : (f.state.start operation).state.space = some fetch.space)
    (load : ∀ load, task.load? = some load → (f.state.start operation).state.loads = load.number)
    (installed : (f.state.start operation).state.installed = [] ∨
      ((f.state.start operation).state.space = f.state.space ∧
        (f.state.start operation).state.installed = f.state.installed)) (due' : Bool) :
    Follows (asks f.started (.waits task) ++ .fetches f.started :: log) (f.after behaviour (.start operation))
      due' := by
  have next : (f.state.start operation).next.task? = some task := congrArg Next.task? first
  have own : (f.after behaviour (.start operation)).task? f.started = some task := by
    rw [task?_start, h.current.latest.numbered f.started (Nat.le_refl _), Option.none_or, if_pos rfl, next]
  have latest := h.current.latest.begin_start behaviour up fun t ht => by
    cases ht.symm.trans next
    rw [is_fetch, ← number]
    rfl
  rw [← state_start f] at space load installed
  refine h.begin latest (Nat.le_succ _) own is_fetch (fun i hi => ?_) (fun past => Nat.lt_irrefl _ past.1) space load
    installed (fun _ he => absurd he List.not_mem_nil) due'
  rw [task?_start, if_neg hi, Option.or_none]

/-- An operation starts. -/
theorem start_operation (h : Follows log f due) (operation : Operation) (due' : Bool)
    (hdue : due' = due ∨ operation = .refresh) :
    Follows (asks f.started (f.state.start operation).next ++
        (begun f (f.after behaviour (.start operation)) f.started ++ log))
      (f.after behaviour (.start operation)) due' := by
  rw [begun_start h.current.latest.numbered]
  cases operation with
  | load space =>
    refine h.begin_start rfl rfl rfl rfl rfl ?_ ?_ due'
    · rintro load ⟨⟩
      rfl
    · by_cases same : f.state.space = some space
      · exact Or.inr ⟨same.symm, if_pos same⟩
      · exact Or.inl (if_neg same)
  | refresh =>
    cases bound : f.state.space with
    | none =>
      obtain ⟨rfl, -⟩ := h.idle bound
      have turn : f.state.start .refresh = ⟨f.state, .ends (.ok ()), []⟩ := by
        simp only [State.start, State.beginRefresh, bound]
      have no_task : ∀ task, (f.state.start .refresh).next.task? = some task →
          f.state.space ≠ none ∧ task.fetch? = none := by
        intro task first
        rw [turn] at first
        cases first
      have after := h.quiet_start (by rw [turn]; exact ⟨rfl, rfl, rfl⟩) (by rw [turn]) no_task
      rw [turn]
      exact after.of_nil due'
    | some space =>
      have turn : f.state.start .refresh =
          ⟨{ f.state with fetches := f.state.fetches + 1 }, .waits (.refresh space (f.state.fetches + 1)), []⟩ := by
        simp only [State.start, State.beginRefresh, bound]
      have after := h.begin_start (congrArg Turn.next turn) rfl (by rw [turn]) rfl (by rw [turn]; exact bound)
        (by rintro _ ⟨⟩) (Or.inr (by rw [turn]; exact ⟨rfl, rfl⟩)) due'
      rw [turn]
      exact after
  | mutate m =>
    have due_same : due' = due := hdue.resolve_right Operation.noConfusion
    subst due_same
    have no_fetch : ∀ task, (f.state.start (.mutate m)).next.task? = some task →
        f.state.space ≠ none ∧ task.fetch? = none := by
      intro task first
      simp only [State.start, State.beginMutation] at first
      split at first
      · cases first
      · rename_i space bound
        cases first
        rw [bound]
        exact ⟨Option.some_ne_none space, rfl⟩
    have asks_none : asks f.started (f.state.start (.mutate m)).next = [] :=
      asks_of_no_fetch fun task first => (no_fetch task first).2
    obtain ⟨pending, e⟩ := f.state.start_mutate_eq m
    have after := h.quiet_start (by rw [e]; exact ⟨rfl, rfl, rfl⟩) (by rw [e]) no_fetch
    rw [asks_none, any_of_no_fetch fun task first => (no_fetch task first).2]
    exact after

/-- The reply to a fetch comes. -/
theorem reply_to_fetch (h : Follows log f due) {id : Nat} {task : Task} {fetch : Fetch} (waits : f.task? id = some task)
    (is_fetch : task.fetch? = some fetch) (reply : Reply) :
    Follows (asks id (f.state.resume reply task).next ++ (received id reply task ++ log))
      (f.after behaviour (.reply id reply)) due := by
  rcases f.state.resume_fetch_cases reply is_fetch with
    ⟨task', turn, -, other⟩ | ⟨call, ends⟩
  · rw [received_of_fetch is_fetch other, turn]
    exact h.goOn waits is_fetch turn
  · rw [received_of_call call, ends]
    exact h.finish waits is_fetch call ends

section Mutation

variable {id : Nat} {m : Mutation} {space : Uuid} {reply : Reply}

/-- A mutation is declined. -/
theorem mutation_declined (h : Follows log f due) (waits : f.task? id = some (.mutation m space)) {r : Rejection}
    (declined : m.declined? space reply = some r) : Follows log (f.after behaviour (.reply id reply)) due := by
  have turn : f.state.resume reply (.mutation m space) = _ := f.state.finishMutation_declined m declined
  have next : (f.state.resume reply (.mutation m space)).next.task? = none := by
    rw [turn]
    rfl
  have latest := h.current.latest.after_reply behaviour waits (congrArg (fun turn => turn.state.fetches) turn)
    fun t ht => by cases ht.symm.trans next
  refine h.quiet latest (Nat.le_of_eq (f.started_after behaviour (.reply id reply)).symm) ?_ ?_ ?_
  · rw [state_reply waits, turn]
    exact ⟨rfl, rfl, rfl⟩
  · intro i t waits'
    rw [task?_reply waits, next] at waits'
    split at waits'
    · cases waits'
    · exact Or.inl waits'
  · intro i _ finished
    rw [task?_reply waits, next, finished, ite_self]

/-- A mutation is accepted: that is a change, and a fetch for the space that is current by then begins. -/
theorem mutation_accepted (h : Follows log f due) (waits : f.task? id = some (.mutation m space))
    (accepted : m.declined? space reply = none) :
    ∃ task, (f.state.resume reply (.mutation m space)).next = .waits task ∧ task.fetch?.isSome = true ∧
      Follows (asks id (.waits task) ++ .fetches id :: ([.changed] ++ log)) (f.after behaviour (.reply id reply))
        due := by
  obtain ⟨current, bound⟩ := Option.ne_none_iff_exists'.mp (h.bound waits)
  have turn : f.state.resume reply (.mutation m space) = _ := f.state.finishMutation_accepted m accepted bound
  have next : (f.state.resume reply (.mutation m space)).next.task? =
      some (.refresh current (f.state.fetches + 1)) := by
    rw [turn]
    rfl
  have state : (f.after behaviour (.reply id reply)).state =
      (f.state.withPending (f.state.pending.erase m.server)).fetching := by
    rw [state_reply waits, turn]
  have latest := h.current.latest.begin_reply behaviour waits (congrArg (fun turn => turn.state.fetches) turn)
    fun t ht => by
      cases ht.symm.trans next
      rfl
  have own : (f.after behaviour (.reply id reply)).task? id = some (.refresh current (f.state.fetches + 1)) := by
    rw [task?_reply waits, if_pos rfl, next]
  refine ⟨_, congrArg Turn.next turn, rfl, h.begin latest
    (Nat.le_of_eq (f.started_after behaviour (.reply id reply)).symm) own rfl (fun i hi => ?_) ?_ ?_ nofun ?_
    (fun e he => List.mem_singleton.mp he) due⟩
  · rw [task?_reply waits, if_neg hi]
  · rintro ⟨-, finished⟩
    rw [finished] at waits
    cases waits
  · rw [state]
    exact bound
  · rw [state]
    exact Or.inr ⟨rfl, rfl⟩

/-- The reply to a mutation comes. -/
theorem reply_to_mutation (h : Follows log f due) (waits : f.task? id = some (.mutation m space)) (reply : Reply) :
    Follows (asks id (f.state.resume reply (.mutation m space)).next ++
        (begun f (f.after behaviour (.reply id reply)) id ++ (received id reply (.mutation m space) ++ log)))
      (f.after behaviour (.reply id reply)) due := by
  rw [begun_reply waits]
  cases declined : m.declined? space reply with
  | some r =>
    have turn : f.state.resume reply (.mutation m space) = _ := f.state.finishMutation_declined m declined
    have told : received id reply (.mutation m space) = [] := by simp only [received, declined]
    rw [told, turn]
    exact h.mutation_declined waits declined
  | none =>
    obtain ⟨task, next, is_fetch, after⟩ := h.mutation_accepted waits declined
    have told : received id reply (.mutation m space) = [.changed] := by simp only [received, declined]
    rw [told, next, Next.task?, Option.any_some, is_fetch]
    exact after

end Mutation

/-- A reply comes. -/
theorem reply_comes (h : Follows log f due) {id : Nat} {task : Task} (waits : f.task? id = some task) (reply : Reply) :
    Follows (asks id (f.state.resume reply task).next ++
        (begun f (f.after behaviour (.reply id reply)) id ++ (received id reply task ++ log)))
      (f.after behaviour (.reply id reply)) due := by
  cases is_fetch : task.fetch? with
  | some fetch =>
    have begun_none : begun f (f.after behaviour (.reply id reply)) id = [] := by
      rw [begun_reply waits, is_fetch]
      rfl
    rw [begun_none]
    exact h.reply_to_fetch waits is_fetch reply
  | none =>
    cases task with
    | mutation m space => exact h.reply_to_mutation waits reply
    | config load | home load config | catalog load config featured | offline load config featured catalog
    | installed load config featured catalog offline | refresh space number => cases is_fetch

end Follows

/-! ## One incident -/

namespace Watched

variable {c : Client} {log : List Entry}

theorem follows_unchanged (h : Follows log c.registry c.refreshDue) {o : Incident} (same : c.meet o = (c, []))
    (none : news c o = []) :
    Follows (after ⟨c, log⟩ o).log (after ⟨c, log⟩ o).client.registry (after ⟨c, log⟩ o).client.refreshDue := by
  rw [after, entries_of_same same none, same]
  exact h

theorem follows_start (h : Follows log c.registry c.refreshDue) (operation : Operation) :
    Follows (after ⟨c, log⟩ (.moment (.start operation))).log (c.registry.after behaviour (.start operation))
      c.refreshDue := by
  have started := h.start_operation operation c.refreshDue (Or.inl rfl)
  rw [← List.append_assoc, ← entries_start] at started
  exact started

theorem follows_reply (h : Follows log c.registry c.refreshDue) {id : Nat} {task : Task}
    (waits : c.registry.task? id = some task) (reply : Reply) :
    Follows (after ⟨c, log⟩ (.moment (.reply id reply))).log (c.registry.after behaviour (.reply id reply))
      c.refreshDue := by
  have replied := h.reply_comes waits reply
  rw [← List.append_assoc, ← List.append_assoc, List.append_assoc (asks _ _), ← entries_reply waits] at replied
  exact replied

theorem follows_adjust (h : Follows log c.registry c.refreshDue) (a : Adjustment) :
    Follows log (c.registry.after behaviour (.adjust a)) c.refreshDue := by
  obtain ⟨selections, query, sort, page, error, e⟩ := c.registry.state.adjust_eq a
  have kept : (c.registry.state.adjust a).space = c.registry.state.space ∧
      (c.registry.state.adjust a).installed = c.registry.state.installed ∧
      (c.registry.state.adjust a).loads = c.registry.state.loads := by
    rw [e]
    exact ⟨rfl, rfl, rfl⟩
  have fetches : (behaviour.adjust c.registry.state a).fetches = c.registry.state.fetches := by
    show (c.registry.state.adjust a).fetches = _
    rw [e]
  exact h.quiet (h.current.latest.after_adjust behaviour fetches) (Nat.le_refl _) kept (fun _ _ => Or.inl)
    (fun _ _ => id)

theorem follows_hear (h : Follows log c.registry c.refreshDue) {payload : Json} {scene : Scene}
    (hears : handles c payload scene = true) :
    Follows (after ⟨c, log⟩ (.hear payload scene)).log (after ⟨c, log⟩ (.hear payload scene)).client.registry
      (after ⟨c, log⟩ (.hear payload scene)).client.refreshDue := by
  have bound : c.registry.state.space ≠ none := fun unbound => by
    rw [handles_of_unbound unbound] at hears
    cases hears
  rw [after, entries_hear hears, meet_hear, if_pos hears]
  show Follows ([.changed] ++ log) c.registry (c.later [.refresh]).refreshDue
  rw [refreshDue_later]
  exact h.hear bound

/-- Whether another refresh was left for later does not matter: what changed before, this one will tell. -/
theorem follows_refresh (h : Follows log c.registry c.refreshDue) (due : c.refreshDue = true) :
    Follows (after ⟨c, log⟩ .refresh).log (after ⟨c, log⟩ .refresh).client.registry
      (after ⟨c, log⟩ .refresh).client.refreshDue := by
  have meets : (c.meet .refresh).1.registry = c.registry.after behaviour (.start .refresh) :=
    congrArg (fun met : Client × List Effect => met.1.registry) (if_pos due)
  have refreshed := h.start_operation .refresh (c.meet .refresh).1.refreshDue (Or.inr rfl)
  rw [← List.append_assoc, ← entries_refresh c due, ← meets] at refreshed
  exact refreshed

/-- What the log tells of a client stays true with everything that happens. -/
theorem follows_after {w : Watched} (h : Follows w.log w.client.registry w.client.refreshDue) (o : Incident) :
    Follows (w.after o).log (w.after o).client.registry (w.after o).client.refreshDue := by
  obtain ⟨c, log⟩ := w
  cases o with
  | moment o =>
    cases o with
    | start operation => exact follows_start h operation
    | reply id reply =>
      cases waits : c.registry.task? id with
      | none => exact follows_unchanged h (meet_reply_of_over waits reply) (by simp only [news, waits]; rfl)
      | some task =>
        rw [show (after ⟨c, log⟩ (.moment (.reply id reply))).client = _ from
          congrArg Prod.fst (meet_reply_of_waits waits reply)]
        exact follows_reply h waits reply
    | adjust a => exact follows_adjust h a
  | hear payload scene =>
    cases hears : handles c payload scene with
    | false =>
      have meets : c.meet (.hear payload scene) = (c, []) := by rw [meet_hear, hears]; rfl
      exact follows_unchanged h meets (by simp only [news, hears]; rfl)
    | true => exact follows_hear h hears
  | refresh =>
    cases due : c.refreshDue with
    | false => exact follows_unchanged h (if_neg (by rw [due]; decide)) rfl
    | true => exact follows_refresh h due

end Watched

theorem follows_watched (bus : Bus) (os : List Incident) :
    Follows (watched bus os).log (watched bus os).client.registry (watched bus os).client.refreshDue := by
  -- the run goes on from any client whose log is true
  suffices run : ∀ w : Watched, Follows w.log w.client.registry w.client.refreshDue →
      Follows (os.foldl Watched.after w).log (os.foldl Watched.after w).client.registry
        (os.foldl Watched.after w).client.refreshDue from run _ (Follows.start _)
  induction os with
  | nil => exact fun w h => h
  | cons o os ih => exact fun w h => ih (w.after o) (Watched.follows_after h o)

/-! ## What the installed list shows -/

namespace Follows

variable {log : List Entry} {f : Store} {due : Bool}

/-- A reply to an operation other than the one that began the last fetch shows no other list. -/
theorem installed_of_other (h : Follows log f due) {id : Nat} (other : lastFetch? log ≠ some id) (reply : Reply) :
    (f.after behaviour (.reply id reply)).state.installed = f.state.installed := by
  cases waits : f.task? id with
  | none => rw [Flight.after_reply_of_none _ _ waits]
  | some task =>
    cases is_fetch : task.fetch? with
    | some fetch => exact h.installed_of_superseded waits is_fetch other
    | none =>
      cases task with
      | mutation m space =>
        obtain ⟨fetches, pending, e⟩ := f.state.resume_mutation_eq reply m space
        rw [state_reply waits, e]
      | config load | home load config | catalog load config featured | offline load config featured catalog
      | installed load config featured catalog offline | refresh space number => cases is_fetch

/-- When no refresh was left for later, the last fetch called for its list after all changes. -/
theorem asked_after_changes (h : Follows log f false) {id : Nat} {space : Uuid} (last : lastFetch? log = some id)
    (asked : Asked log id space) : ∃ newer older, log = newer ++ .asks id space :: older ∧ .changed ∉ newer := by
  obtain ⟨older, parts⟩ : ∃ older, log = sinceFetch log ++ older := ⟨_, List.takeWhile_append_dropWhile.symm⟩
  obtain ⟨newer, rest, since⟩ := List.append_of_mem (asked.2 last)
  refine ⟨newer, rest ++ older, ?_, fun changed => ?_⟩
  · rw [since, List.append_assoc] at parts
    exact parts
  · have missed := h.missed (since ▸ List.mem_append_left _ changed)
    cases missed

end Follows

/-- **The installed list keeps up.** Whatever happens in whatever order: what is shown is empty or the reply to a call
for the list of the current space; a reply to any operation but the one that began the last fetch leaves it as it is;
and when no refresh is left for later, and the last fetch got a list, that list is shown, and it was asked for after
every change. Other fetches may still be in flight then. -/
theorem installed_keeps_up (bus : Bus) (os : List Incident) :
    let w := watched bus os
    (w.client.registry.state.installed = [] ∨ ∃ id space, w.client.registry.state.space = some space ∧
      .asks id space ∈ w.log ∧ .gets id space (.ok w.client.registry.state.installed) ∈ w.log) ∧
    (∀ id, lastFetch? w.log ≠ some id → ∀ reply,
      (w.after (.moment (.reply id reply))).client.registry.state.installed = w.client.registry.state.installed) ∧
    (w.client.refreshDue = false →
      ∀ id space list, lastFetch? w.log = some id → .gets id space (.ok list) ∈ w.log →
        w.client.registry.state.installed = list ∧
        ∃ newer older, w.log = newer ++ .asks id space :: older ∧ .changed ∉ newer) := by
  intro w
  have follows : Follows w.log w.client.registry w.client.refreshDue := follows_watched bus os
  refine ⟨?_, fun id other reply => follows.installed_of_other other reply, ?_⟩
  · exact follows.shown.imp_right fun ⟨id, space, bound, got⟩ =>
      ⟨id, space, bound, (follows.answered id space _ got).1, got⟩
  · intro nothing_due id space list last got
    rw [nothing_due] at follows
    exact ⟨follows.got id space list last got, follows.asked_after_changes last (follows.answered id space _ got)⟩

/-- The reply with the list of one installation. -/
def oneInstalled : Reply := .ok (.arr [.obj [("id", .str "00000000-0000-0000-0000-000000000007"),
  ("space_id", .str "work"), ("server_id", .str "gh"), ("created_at", .str "2024-01-01T00:00:00Z"),
  ("updated_at", .str "2024-01-01T00:00:00Z")]])

/-- A load is at its last call when a mutation is acknowledged, and a watch hears of another change; of the three calls
for the list the last one is answered first. -/
def overtaken : List Incident := [
  .moment (.start (.load ⟨1⟩)), .moment (.reply 0 (.rejected "gone" [])), .moment (.reply 0 (.rejected "gone" [])),
  .moment (.reply 0 (.rejected "gone" [])), .moment (.reply 0 (.rejected "gone" [])),
  .moment (.start (.mutate (.uninstall "docs"))), .moment (.reply 1 (.ok .null)),
  .hear (.obj [("action", .str "uninstalled"), ("space_id", .str "00000000-0000-0000-0000-000000000001"),
    ("server_id", .str "docs")]) ⟨0, true⟩,
  .refresh, .moment (.reply 2 oneInstalled), .moment (.reply 1 (.ok (.arr []))), .moment (.reply 0 (.ok (.arr [])))]

theorem overtaken_keeps_up : ∃ list, oneInstalled.installed ⟨1⟩ = .ok list ∧
    list.map Installation.serverId = ["gh"] ∧
    (watched { room := 1 } overtaken).client.registry.state.installed = list ∧
    ∃ newer older, (watched { room := 1 } overtaken).log = newer ++ .asks 2 ⟨1⟩ :: older ∧ .changed ∉ newer := by
  obtain ⟨list, reads, servers⟩ : ∃ list, oneInstalled.installed ⟨1⟩ = .ok list ∧
      list.map Installation.serverId = ["gh"] := ⟨_, rfl, rfl⟩
  have got : .gets 2 ⟨1⟩ (.ok list) ∈ (watched { room := 1 } overtaken).log := by
    rw [← reads]
    exact List.mem_cons_of_mem _ (List.mem_cons_of_mem _ List.mem_cons_self)
  obtain ⟨-, -, settled⟩ := installed_keeps_up { room := 1 } overtaken
  exact ⟨list, reads, servers, settled rfl 2 ⟨1⟩ list rfl got⟩

end Switchboard.Registry
