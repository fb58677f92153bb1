import Mathlib.Data.List.Induction
import Switchboard.Proofs.Registry.Installed

/-!
# Lists that come in time

A fetch of the installed list gets its list in time if no other fetch has begun by then (`inTime?`). What is shown
since the last change of space is the list of the fetch begun last among those that got theirs in time, and nothing if
there is none (`installed_eq_latest_in_time`). So a fetch that fails costs no list that was shown; but a list that
comes when another fetch has begun is dropped, even if that one fails (`overtaken_list_dropped`).

An operation that has begun to fetch does nothing else until it is over (`Fetching.after`), so what a turn begins to
fetch is none of the fetches before (`of_mem_fetchesIn_turn`), and until a list comes the latest one stays
(`latestInTime?_append`). `Kept` is what this keeps of the log and the store, in one incident after the other
(`Watched.kept_after`), beginning with the one that changes the space (`Watched.kept_switch`).
-/

namespace Switchboard.Registry

open Backend (Reply)
open Client (Effect)

/-! ## Lists in a log -/

/-- The fetches that began, the last one first. -/
def fetchesIn (log : List Entry) : List Nat :=
  log.filterMap fun
    | .fetches id => some id
    | _ => none

/-- The list that an operation got, if it got one. -/
def list? (id : Nat) : List Entry → Option (List Installation)
  | [] => none
  | .gets i _ (.ok list) :: older => if i = id then some list else list? id older
  | _ :: older => list? id older

/-- The list that an operation got when no other had begun to fetch since it began to. -/
def inTime? (id : Nat) : List Entry → Option (List Installation)
  | [] => none
  | .gets i _ (.ok list) :: older => if i = id ∧ lastFetch? older = some id then some list else inTime? id older
  | _ :: older => inTime? id older

/-- The list of the fetch that began last among those that got one. -/
def latest? (log : List Entry) : Option (List Installation) := (fetchesIn log).findSome? fun id => list? id log

/-- The list of the fetch that began last among those that got one in time. -/
def latestInTime? (log : List Entry) : Option (List Installation) :=
  (fetchesIn log).findSome? fun id => inTime? id log

theorem fetchesIn_append (new log : List Entry) : fetchesIn (new ++ log) = fetchesIn new ++ fetchesIn log :=
  List.filterMap_append

theorem mem_fetchesIn_iff {log : List Entry} {id : Nat} : id ∈ fetchesIn log ↔ .fetches id ∈ log := by
  rw [fetchesIn, List.mem_filterMap]
  constructor
  · rintro ⟨e, mem, is_fetch⟩
    cases e <;> cases is_fetch
    exact mem
  · exact fun mem => ⟨_, mem, rfl⟩

theorem lastFetch?_eq_head? (log : List Entry) : lastFetch? log = (fetchesIn log).head? := by
  induction log with
  | nil => rfl
  | cons e older ih => cases e <;> first | rfl | exact ih

/-- Only a fetch gets a list in time. -/
theorem mem_fetchesIn_of_inTime? {log : List Entry} {id : Nat} {list : List Installation}
    (h : inTime? id log = some list) : id ∈ fetchesIn log := by
  induction log with
  | nil => cases h
  | cons e older ih =>
    have older_of : inTime? id older = some list → id ∈ fetchesIn (e :: older) := fun h =>
      mem_fetchesIn_iff.mpr (List.mem_cons_of_mem _ (mem_fetchesIn_iff.mp (ih h)))
    cases e with
    | changed | fetches i | asks i space => exact older_of h
    | gets i space result =>
      cases result with
      | error r => exact older_of h
      | ok got =>
        rw [inTime?] at h
        split at h
        · rename_i own
          rw [lastFetch?_eq_head?] at own
          exact List.mem_of_mem_head? own.2
        · exact older_of h

/-- No list comes with these entries. -/
def Listless (new : List Entry) : Prop := ∀ id space list, .gets id space (.ok list) ∉ new

theorem inTime?_append {new : List Entry} (listless : Listless new) (id : Nat) (log : List Entry) :
    inTime? id (new ++ log) = inTime? id log := by
  induction new with
  | nil => rfl
  | cons e new ih =>
    have rest := ih fun i space list mem => listless i space list (List.mem_cons_of_mem _ mem)
    cases e with
    | changed | fetches i | asks i space => exact rest
    | gets i space result =>
      cases result with
      | error r => exact rest
      | ok list => exact absurd List.mem_cons_self (listless i space list)

/-- Until a list comes the latest one stays, whatever begins to be fetched. -/
theorem latestInTime?_append {new log : List Entry} (listless : Listless new)
    (fresh : ∀ id ∈ fetchesIn new, id ∉ fetchesIn log) : latestInTime? (new ++ log) = latestInTime? log := by
  have same : (fun id => inTime? id (new ++ log)) = fun id => inTime? id log :=
    funext fun id => inTime?_append listless id log
  have none_yet : (fetchesIn new).findSome? (fun id => inTime? id log) = none := by
    refine List.findSome?_eq_none_iff.mpr fun id mem => Option.eq_none_iff_forall_ne_some.mpr fun list got => ?_
    exact fresh id mem (mem_fetchesIn_of_inTime? got)
  rw [latestInTime?, same, fetchesIn_append, List.findSome?_append, none_yet, Option.none_or]
  rfl

/-- A list that comes in time is the latest one from then on. -/
theorem latestInTime?_of_last {log : List Entry} {id : Nat} (last : lastFetch? log = some id) (space : Uuid)
    (list : List Installation) : latestInTime? (.gets id space (.ok list) :: log) = some list := by
  obtain ⟨others, began⟩ := List.head?_eq_some_iff.mp ((lastFetch?_eq_head? log).symm.trans last)
  have own : inTime? id (.gets id space (.ok list) :: log) = some list := if_pos ⟨rfl, last⟩
  show (fetchesIn log).findSome? _ = _
  rw [began, List.findSome?_cons, own]

/-- A list that comes too late changes nothing. -/
theorem latestInTime?_of_other {log : List Entry} {id : Nat} (other : lastFetch? log ≠ some id) (space : Uuid)
    (list : List Installation) : latestInTime? (.gets id space (.ok list) :: log) = latestInTime? log := by
  have same : (fun i => inTime? i (.gets id space (.ok list) :: log)) = fun i => inTime? i log := by
    funext i
    refine if_neg ?_
    rintro ⟨rfl, last⟩
    exact other last
  rw [latestInTime?, same]
  rfl

/-! ## Operations that fetch -/

/-- The operation `id` fetches, or it is over. -/
def Fetching (f : Store) (id : Nat) : Prop :=
  id < f.started ∧ ∀ task, f.task? id = some task → task.fetch?.isSome = true

section Fetching

variable {f g : Store} {id : Nat}

theorem Fetching.after (h : Fetching f id) (o : Moment) : Fetching (f.after behaviour o) id := by
  refine ⟨?_, fun task waits => ?_⟩
  · rw [f.started_after behaviour]
    exact Nat.lt_of_lt_of_le h.1 (Nat.le_add_right _ _)
  · cases o with
    | start operation =>
      rw [task?_start, if_neg (Nat.ne_of_gt h.1), Option.or_none] at waits
      exact h.2 task waits
    | reply i reply =>
      cases waited : f.task? i with
      | none =>
        rw [Flight.after_reply_of_none _ _ waited] at waits
        exact h.2 task waits
      | some task' =>
        rw [task?_reply waited] at waits
        split at waits
        · rename_i own
          subst own
          obtain ⟨fetch, is_fetch⟩ := Option.isSome_iff_exists.mp (h.2 task' waited)
          rw [f.state.fetch?_resume reply is_fetch waits]
          rfl
        · exact h.2 task waits
    | adjust a => exact h.2 task waits

theorem fetching_of_inFlight (numbered : f.Numbered) (fetches : inFlight f id = true) : Fetching f id := by
  obtain ⟨task, waits, is_fetch⟩ := (Option.any_eq_true _ _).mp fetches
  refine ⟨numbered.lt_of_waits waits, fun task' waits' => ?_⟩
  cases waits.symm.trans waits'
  exact is_fetch

theorem inFlight_of_fetching (h : Fetching f id) {task : Task} (waits : f.task? id = some task) :
    inFlight f id = true := by
  rw [inFlight, waits]
  exact h.2 task waits

end Fetching

/-- A fetch that begins with a turn is that of the operation, which did not fetch before. -/
theorem mem_begun_iff {before after : Store} {id : Nat} {e : Entry} :
    e ∈ begun before after id ↔ e = .fetches id ∧ inFlight before id = false ∧ inFlight after id = true := by
  unfold begun
  cases inFlight before id <;> cases inFlight after id <;> simp

/-- What a turn logs as long as it brings no list. -/
def turnEntries (before after : Store) (id : Nat) (next : Next Task) (news : List Entry) : List Entry :=
  asks id next ++ (begun before after id ++ news)

section Turn

variable {before after : Store} {id : Nat} {next : Next Task} {news : List Entry}

theorem listless_turn (plain : ∀ e ∈ news, e = .changed) : Listless (turnEntries before after id next news) := by
  intro i space list mem
  have mem : Entry.gets i space (.ok list) ∈ begun before after id ++ news :=
    mem_of_mem_asks_append (fun _ => nofun) mem
  rcases List.mem_append.mp mem with new | told
  · cases (mem_begun_iff.mp new).1
  · cases plain _ told

theorem of_mem_fetchesIn_turn (plain : ∀ e ∈ news, e = .changed) {i : Nat}
    (mem : i ∈ fetchesIn (turnEntries before after id next news)) :
    i = id ∧ inFlight before id = false ∧ inFlight after id = true := by
  have mem : Entry.fetches i ∈ begun before after id ++ news :=
    mem_of_mem_asks_append (fun _ => nofun) (mem_fetchesIn_iff.mp mem)
  rcases List.mem_append.mp mem with new | told
  · obtain ⟨e, was, is⟩ := mem_begun_iff.mp new
    cases e
    exact ⟨rfl, was, is⟩
  · cases plain _ told

end Turn

/-! ## What is kept since a change of space -/

/-- The first turn of an operation other than a load of another space leaves space and installed list as they are. -/
theorem State.start_stays (s : State) {operation : Operation}
    (stays : ∀ space, operation.space? = some space → s.space = some space) :
    (s.start operation).state.space = s.space ∧ (s.start operation).state.installed = s.installed := by
  cases is_load : operation.space? with
  | none =>
    obtain ⟨fetches, pending, e⟩ := s.start_eq is_load
    rw [e]
    exact ⟨rfl, rfl⟩
  | some space =>
    cases operation with
    | load space' => exact ⟨(stays space' rfl).symm, if_pos (stays space' rfl)⟩
    | refresh | mutate m => cases is_load

/-- Since the log began, `space` is the current one, some fetch began, every fetch that did is in flight or over, and
the latest list that came in time is shown. -/
structure Kept (space : Uuid) (since : List Entry) (f : Store) : Prop where
  bound : f.state.space = some space
  began : fetchesIn since ≠ []
  fetching : ∀ id ∈ fetchesIn since, Fetching f id
  shown : f.state.installed = (latestInTime? since).getD []

namespace Kept

variable {space : Uuid} {since old : List Entry} {f g : Store} {due : Bool}

/-- Older entries do not matter to which fetch began last. -/
theorem lastFetch?_append (h : Kept space since f) (old : List Entry) :
    lastFetch? (since ++ old) = lastFetch? since := by
  obtain ⟨id, others, began⟩ := List.exists_cons_of_ne_nil h.began
  rw [lastFetch?_eq_head?, lastFetch?_eq_head?, fetchesIn_append, began]
  rfl

/-- As long as no list comes, what is shown stays; a fetch that begins is a new one. -/
theorem append (h : Kept space since f) {new : List Entry} (listless : Listless new)
    (begins : ∀ id ∈ fetchesIn new, Fetching g id ∧ ¬Fetching f id) (goesOn : ∀ id, Fetching f id → Fetching g id)
    (bound : g.state.space = f.state.space) (shown : g.state.installed = f.state.installed) :
    Kept space (new ++ since) g := by
  refine ⟨bound.trans h.bound, ?_, fun id mem => ?_, ?_⟩
  · rw [fetchesIn_append]
    exact List.append_ne_nil_of_right_ne_nil _ h.began
  · rw [fetchesIn_append] at mem
    rcases List.mem_append.mp mem with new | old
    · exact (begins id new).1
    · exact goesOn id (h.fetching id old)
  · rw [shown, latestInTime?_append listless fun id new old => (begins id new).2 (h.fetching id old)]
    exact h.shown

/-- Nothing but changes is logged, and the store is as before. -/
theorem changes (h : Kept space since f) {new : List Entry} (plain : ∀ e ∈ new, e = .changed) :
    Kept space (new ++ since) f :=
  h.append (fun _ _ _ mem => nomatch plain _ mem) (fun _ mem => nomatch plain _ (mem_fetchesIn_iff.mp mem))
    (fun _ => id) rfl rfl

/-- An operation takes a turn that brings no list. -/
theorem turn (h : Kept space since f) (o : Moment) {id : Nat} (next : Next Task) {news : List Entry}
    (plain : ∀ e ∈ news, e = .changed) (numbered : (f.after behaviour o).Numbered)
    (begins : inFlight f id = false → ¬Fetching f id)
    (bound : (f.after behaviour o).state.space = f.state.space)
    (shown : (f.after behaviour o).state.installed = f.state.installed) :
    Kept space (turnEntries f (f.after behaviour o) id next news ++ since) (f.after behaviour o) := by
  refine h.append (listless_turn plain) (fun i mem => ?_) (fun i fetching => fetching.after o) bound shown
  obtain ⟨rfl, was, is⟩ := of_mem_fetchesIn_turn plain mem
  exact ⟨fetching_of_inFlight numbered is, begins was⟩

theorem start (h : Kept space since f) (numbered : f.Numbered) {operation : Operation}
    (stays : ∀ other, operation.space? = some other → other = space) :
    Kept space (turnEntries f (f.after behaviour (.start operation)) f.started (f.state.start operation).next [] ++
      since) (f.after behaviour (.start operation)) := by
  obtain ⟨bound, shown⟩ := f.state.start_stays fun other is_load => stays other is_load ▸ h.bound
  refine h.turn _ _ nofun (numbered.after behaviour _) (fun _ fetching => Nat.lt_irrefl _ fetching.1) ?_ ?_
  · rw [state_start, bound]
  · rw [state_start, shown]

section Reply

variable {id : Nat} {task : Task} {reply : Reply}

/-- A reply that brings no list. -/
theorem reply_without_list (h : Kept space since f) (numbered : f.Numbered) (waits : f.task? id = some task)
    (plain : ∀ e ∈ received id reply task, e = .changed)
    (shown : (f.state.resume reply task).state.installed = f.state.installed) :
    Kept space (turnEntries f (f.after behaviour (.reply id reply)) id (f.state.resume reply task).next
      (received id reply task) ++ since) (f.after behaviour (.reply id reply)) := by
  refine h.turn _ _ plain (numbered.after behaviour _) (fun was fetching => ?_) ?_ ?_
  · rw [inFlight_of_fetching fetching waits] at was
    cases was
  · rw [state_reply waits]
    exact (f.state.resume_keeps reply task).1
  · rw [state_reply waits]
    exact shown

/-- The list of a fetch comes, or word that there is none. -/
theorem gets (h : Kept space since f) (follows : Follows (since ++ old) f due) (waits : f.task? id = some task)
    {fetch : Fetch} (is_fetch : task.fetch? = some fetch) (ends : (f.state.resume reply task).next = .ends (.ok ())) :
    Kept space (.gets id fetch.space (reply.installed fetch.space) :: since)
      (f.after behaviour (.reply id reply)) := by
  refine ⟨?_, h.began, fun i mem => (h.fetching i mem).after _, ?_⟩
  · rw [state_reply waits, (f.state.resume_keeps reply task).1]
    exact h.bound
  · by_cases last : lastFetch? since = some id
    · rw [follows.installed_of_last waits is_fetch ends ((h.lastFetch?_append old).trans last)]
      cases reply.installed fetch.space with
      | ok list =>
        rw [latestInTime?_of_last last]
        rfl
      | error r => exact h.shown
    · rw [follows.installed_of_superseded waits is_fetch fun own => last ((h.lastFetch?_append old).symm.trans own)]
      cases reply.installed fetch.space with
      | ok list =>
        rw [latestInTime?_of_other last]
        exact h.shown
      | error r => exact h.shown

/-- A reply comes. -/
theorem reply_comes (h : Kept space since f) (follows : Follows (since ++ old) f due)
    (waits : f.task? id = some task) (reply : Reply) :
    Kept space (turnEntries f (f.after behaviour (.reply id reply)) id (f.state.resume reply task).next
      (received id reply task) ++ since) (f.after behaviour (.reply id reply)) := by
  have numbered := follows.current.latest.numbered
  cases is_fetch : task.fetch? with
  | some fetch =>
    rcases f.state.resume_fetch_cases reply is_fetch with ⟨task', turn, -, other⟩ | ⟨call, ends⟩
    · refine h.reply_without_list numbered waits ?_ (by rw [turn])
      rw [received_of_fetch is_fetch other]
      nofun
    · have none_begun : begun f (f.after behaviour (.reply id reply)) id = [] := by
        rw [begun_reply waits, is_fetch]
        rfl
      rw [turnEntries, none_begun, ends, received_of_call call]
      exact h.gets follows waits is_fetch ends
  | none =>
    cases task with
    | mutation m space' =>
      refine h.reply_without_list numbered waits (fun e mem => ?_) ?_
      · simp only [received] at mem
        split at mem
        · exact List.mem_singleton.mp mem
        · cases mem
      · obtain ⟨fetches, pending, e⟩ := f.state.resume_mutation_eq reply m space'
        rw [e]
    | config load | home load config | catalog load config featured | offline load config featured catalog
    | installed load config featured catalog offline | refresh space' number => cases is_fetch

end Reply

/-- The user changes what is shown of the list. -/
theorem adjust (h : Kept space since f) (a : Adjustment) : Kept space since (f.after behaviour (.adjust a)) := by
  obtain ⟨selections, query, sort, page, error, e⟩ := f.state.adjust_eq a
  have state : (f.after behaviour (.adjust a)).state = f.state.adjust a := rfl
  have listless : Listless [] := fun _ _ _ => List.not_mem_nil
  refine h.append listless nofun (fun i fetching => fetching.after _) ?_ ?_
  · rw [state, e]
  · rw [state, e]

end Kept

/-! ## Incidents -/

namespace Watched

variable {space : Uuid} {since old : List Entry} {c : Client}

theorem kept_start (h : Kept space since c.registry) (numbered : c.registry.Numbered) {operation : Operation}
    (stays : ∀ other, operation.space? = some other → other = space) :
    Kept space (asks c.registry.started (c.registry.state.start operation).next ++
      begun c.registry (c.registry.after behaviour (.start operation)) c.registry.started ++ since)
      (c.registry.after behaviour (.start operation)) := by
  have kept := h.start numbered stays
  rw [turnEntries, List.append_nil] at kept
  exact kept

/-- What is kept is kept in every incident but a change of space. -/
theorem kept_after (follows : Follows (since ++ old) c.registry c.refreshDue) (h : Kept space since c.registry)
    {o : Incident} (stays : ∀ other, o = .moment (.start (.load other)) → other = space) :
    Kept space (entries c o ++ since) (c.meet o).1.registry := by
  have numbered := follows.current.latest.numbered
  cases o with
  | moment o =>
    cases o with
    | start operation =>
      rw [entries_start]
      refine kept_start h numbered fun other is_load => stays other ?_
      cases operation <;> cases is_load
      rfl
    | reply id reply =>
      cases waits : c.registry.task? id with
      | none =>
        have meets := meet_reply_of_over waits reply
        rw [entries_of_same meets (by simp only [news, waits]; rfl), meets]
        exact h
      | some task =>
        rw [entries_reply waits, meet_reply_of_waits waits]
        exact h.reply_comes follows waits reply
    | adjust a => exact h.adjust a
  | hear payload scene =>
    rw [meet_hear]
    cases hears : handles c payload scene with
    | false =>
      have meets : c.meet (.hear payload scene) = (c, []) := by rw [meet_hear, hears]; rfl
      rw [entries_of_same meets (by simp only [news, hears]; rfl)]
      exact h
    | true =>
      rw [entries_hear hears]
      exact h.changes fun e mem => List.mem_singleton.mp mem
  | refresh =>
    cases due : c.refreshDue with
    | false =>
      have meets : c.meet .refresh = (c, []) := if_neg (by rw [due]; decide)
      rw [entries_of_same meets rfl, meets]
      exact h
    | true =>
      have meets : (c.meet .refresh).1.registry = c.registry.after behaviour (.start .refresh) :=
        congrArg (fun met : Client × List Effect => met.1.registry) (if_pos due)
      rw [entries_refresh c due, meets]
      refine kept_start h numbered fun other is_load => ?_
      cases is_load

/-- A load that changes the space gives up the list, and begins a fetch. -/
theorem kept_switch (numbered : c.registry.Numbered) (switches : c.registry.state.space ≠ some space) :
    Kept space (entries c (.moment (.start (.load space))))
      (c.registry.after behaviour (.start (.load space))) := by
  have begins : entries c (.moment (.start (.load space))) = [.fetches c.registry.started] := by
    rw [entries_start, begun_start numbered]
    rfl
  have fetches : inFlight (c.registry.after behaviour (.start (.load space))) c.registry.started = true := by
    rw [inFlight, task?_start, numbered _ (Nat.le_refl _), Option.none_or, if_pos rfl]
    rfl
  rw [begins]
  refine ⟨rfl, List.cons_ne_nil _ _, fun id mem => ?_, if_neg switches⟩
  cases List.mem_singleton.mp mem
  exact fetching_of_inFlight (numbered.after behaviour _) fetches

end Watched

theorem watched_concat (bus : Bus) (os : List Incident) (o : Incident) :
    watched bus (os ++ [o]) = (watched bus os).after o := List.foldl_append

/-- **The latest list that came in time is shown.** Since a load changed the space, and whatever happens in whatever
order but another change of space: what is shown is the list of the fetch begun last among those that got theirs
before another began, and nothing if there is none. -/
theorem installed_eq_latest_in_time (bus : Bus) (before after : List Incident) (space : Uuid)
    (switches : (watched bus before).client.registry.state.space ≠ some space)
    (stays : ∀ other, .moment (.start (.load other)) ∈ after → other = space) :
    let w := watched bus (before ++ .moment (.start (.load space)) :: after)
    ∃ since, w.log = since ++ (watched bus before).log ∧
      w.client.registry.state.installed = (latestInTime? since).getD [] := by
  suffices kept : ∃ since, (watched bus (before ++ .moment (.start (.load space)) :: after)).log =
      since ++ (watched bus before).log ∧
      Kept space since (watched bus (before ++ .moment (.start (.load space)) :: after)).client.registry from
    kept.imp fun since ⟨log, kept⟩ => ⟨log, kept.shown⟩
  induction after using List.reverseRecOn with
  | nil =>
    have numbered := (follows_watched bus before).current.latest.numbered
    refine ⟨entries (watched bus before).client (.moment (.start (.load space))), ?_, ?_⟩
    · rw [watched_concat]
      rfl
    · rw [watched_concat]
      exact Watched.kept_switch numbered switches
  | append_singleton after o ih =>
    obtain ⟨since, log, kept⟩ := ih fun other mem => stays other (List.mem_append_left _ mem)
    have follows := follows_watched bus (before ++ .moment (.start (.load space)) :: after)
    rw [log] at follows
    rw [← List.cons_append, ← List.append_assoc, watched_concat]
    refine ⟨entries _ o ++ since, ?_, Watched.kept_after follows kept fun other e => stays other ?_⟩
    · rw [Watched.after, log, List.append_assoc]
    · rw [e]
      exact List.mem_append_right _ List.mem_cons_self

/-- The backend has nothing to give to the operation `id`. -/
def refuse (id : Nat) : Incident := .moment (.reply id (.rejected "gone" []))

/-- In the space loaded last a load gets its list, and a refresh that begins then fails; last comes the list of the load
of the space before. -/
def refreshedInVain : List Incident :=
  List.replicate 4 (refuse 1) ++ [.moment (.reply 1 oneInstalled), .moment (.start .refresh), refuse 2] ++
    List.replicate 4 (refuse 0) ++ [.moment (.reply 0 (.ok (.arr [])))]

theorem refreshed_in_vain_kept :
    (watched { room := 1 } [.moment (.start (.load ⟨2⟩))]).client.registry.state.space ≠ some ⟨1⟩ ∧
    (∀ other, .moment (.start (.load other)) ∈ refreshedInVain → other = ⟨1⟩) ∧
    let w := watched { room := 1 } ([.moment (.start (.load ⟨2⟩))] ++ .moment (.start (.load ⟨1⟩)) :: refreshedInVain)
    (∃ since, w.log = since ++ (watched { room := 1 } [.moment (.start (.load ⟨2⟩))]).log ∧
      w.client.registry.state.installed = (latestInTime? since).getD []) ∧
    w.client.registry.state.installed.map Installation.serverId = ["gh"] := by
  have switches : (watched { room := 1 } [.moment (.start (.load ⟨2⟩))]).client.registry.state.space ≠ some ⟨1⟩ := by
    decide
  have stays : ∀ other, .moment (.start (.load other)) ∈ refreshedInVain → other = ⟨1⟩ := by
    intro other mem
    simp [refreshedInVain, refuse] at mem
  exact ⟨switches, stays, installed_eq_latest_in_time _ _ _ _ switches stays, rfl⟩

/-- A refresh begins while a load waits for its list, and fails before the list comes. -/
def overtakenInVain : List Incident :=
  .moment (.start (.load ⟨1⟩)) :: List.replicate 4 (refuse 0) ++
    [.moment (.start .refresh), refuse 1, .moment (.reply 0 oneInstalled)]

/-- A list that comes when another fetch has begun is dropped, even if that one has failed. -/
theorem overtaken_list_dropped :
    let w := watched { room := 1 } overtakenInVain
    w.client.registry.waiting = [] ∧ fetchesIn w.log = [1, 0] ∧ list? 1 w.log = none ∧
    (∃ list, latest? w.log = some list ∧ list.map Installation.serverId = ["gh"]) ∧
    w.client.registry.state.installed = [] :=
  ⟨rfl, rfl, rfl, ⟨_, rfl, rfl⟩, rfl⟩

end Switchboard.Registry
