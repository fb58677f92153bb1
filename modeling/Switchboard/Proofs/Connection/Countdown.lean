import Mathlib.Data.List.Induction
import Switchboard.Proofs.Connection.Loading

/-!
# Countdowns

While a server waits for its user to authenticate, ticks tell how much time is left. A tick counts if it is about the
bound space, whatever the status of the server is by then; an accepted status other than authenticating ends the
countdown.

`countdown_since_tick` says what a countdown is worth. It is that of the last tick for the server in the current
binding, and every status accepted since is authenticating. So the record shown is authenticating or has the status that
it had when that tick came, unless an entry of the snapshot took its place since. A tick that trails the status which
ended the countdown starts it again (`trailing_tick_counts`).
-/

namespace Switchboard.Connection

open Backend (Reply)

/-- In the state `s`, a record `found` would take the place of a server's record. -/
def State.YieldsTo (s : State) (server : String) (found : StatusRecord) : Prop :=
  ∀ r, s.records.get? server = some r → r.flow ≤ found.flow

/-- A moment brings the snapshot of the binding, with an entry that takes the place of a server's record. -/
def Replaces (f : Store) (server : String) : Moment → Prop
  | .reply id reply => ∃ space records found, f.task? id = some (.snapshot space f.state.binding) ∧
      reply.statuses space = .ok records ∧ records.get? server = some found ∧ f.state.YieldsTo server found
  | _ => False

/-- A run is taken apart at the last tick for a server that counts in its last binding, and no status ended the
countdown since. -/
structure LastTick (os : List Moment) (server : String) (before : List Moment) (e : AuthProgress)
    (since : List Moment) : Prop where
  parts : os = before ++ .adjust (.progress e) :: since
  own : e.serverId = server
  bound : (reached before).state.space = some e.spaceId
  binding_lasts : ∀ o ∈ since, binds o = false
  last : ∀ e', .adjust (.progress e') ∈ since → e'.serverId = server → e'.spaceId ≠ e.spaceId
  unended : ∀ s ∈ acceptedIn (reached (before ++ [.adjust (.progress e)])) since, s.serverId = server →
    s.status = .authenticating

/-- A moment leaves the countdown of a server alone. -/
structure Spares (f : Store) (server : String) (o : Moment) : Prop where
  binding_lasts : binds o = false
  noTick : ∀ e, o = .adjust (.progress e) → e.serverId = server → f.state.space ≠ some e.spaceId
  unended : ∀ e ∈ acceptedIn f [o], e.serverId = server → e.status = .authenticating

/-- During a run an entry of the snapshot takes the place of a server's record. -/
def Replaced (f : Store) (os : List Moment) (server : String) : Prop :=
  ∃ window o later, os = window ++ o :: later ∧ Replaces (f.run behaviour window) server o

/-! ## One moment -/

theorem reached_concat (os : List Moment) (o : Moment) : reached (os ++ [o]) = (reached os).after behaviour o :=
  fresh.run_append behaviour os [o]

theorem acceptedIn_append (f : Store) (os ps : List Moment) :
    acceptedIn f (os ++ ps) = acceptedIn f os ++ acceptedIn (f.run behaviour os) ps := by
  induction os generalizing f with
  | nil => rfl
  | cons o os ih => rw [List.cons_append, acceptedIn, acceptedIn, ih, List.append_assoc, Flight.run_cons]

/-- A status event is accepted if it counts. -/
theorem mem_acceptedIn_status {f : Store} {e s : StatusChanged} :
    s ∈ acceptedIn f [.adjust (.status e)] ↔ f.state.accepts e = true ∧ s = e := by
  cases accepted : f.state.accepts e <;> simp [acceptedIn, accepted?, accepted]

namespace State

variable (s : State)

theorem remaining_resume (reply : Reply) (task : Task) : (s.resume reply task).state.remaining = s.remaining := by
  cases task with
  | snapshot space n =>
    simp only [resume, finishAttach]
    repeat' split
    all_goals rfl
  | request r space server =>
    obtain ⟨pending, e⟩ := s.resume_request reply r space server
    rw [e]

/-- What is left of a countdown after a status event. -/
theorem remaining_acceptStatus {s : State} {e : StatusChanged} {server : String} {n : UInt64}
    (shown : (s.acceptStatus e).remaining.get? server = some n) :
    s.remaining.get? server = some n ∧ (s.accepts e = true → e.serverId = server → e.status = .authenticating) := by
  cases accepted : s.accepts e with
  | false =>
    rw [acceptStatus_of_not_accepts accepted] at shown
    exact ⟨shown, by simp⟩
  | true =>
    rw [acceptStatus, if_pos accepted] at shown
    by_cases waits : e.status = .authenticating
    · simp only [if_pos waits] at shown
      exact ⟨shown, fun _ _ => waits⟩
    · simp only [if_neg waits, KeyMap.get?_erase] at shown
      split at shown
      · cases shown
      · rename_i other
        exact ⟨shown, fun _ own => absurd own other⟩

/-- An entry takes the place of a record, or leaves its status. -/
theorem status_mergeRecord_cases (s : State) (server : String) (found : StatusRecord) :
    s.YieldsTo server found ∨
      ∃ r, s.records.get? server = some r ∧ (mergeRecord (s.records.get? server) found).status = r.status := by
  by_cases yields : s.YieldsTo server found
  · exact Or.inl yields
  · right
    simp only [YieldsTo, not_forall, UInt64.not_le] at yields
    obtain ⟨r, stored, older⟩ := yields
    refine ⟨r, stored, ?_⟩
    rw [stored, mergeRecord_of_lt older]
    rfl

/-- The status of a record after a snapshot: an entry took the record's place, or the status is as before. -/
theorem status_finishAttach_cases {s : State} {space : Uuid} {n : Nat} {reply : Reply} {server : String}
    {r : StatusRecord} (stored : (s.finishAttach space n reply).records.get? server = some r) :
    (s.binding = n ∧ ∃ records found, reply.statuses space = .ok records ∧ records.get? server = some found ∧
      s.YieldsTo server found) ∨ ∃ r', s.records.get? server = some r' ∧ r.status = r'.status := by
  by_cases own : s.binding = n
  · rw [finishAttach, if_pos own] at stored
    cases answer : reply.statuses space with
    | error e =>
      rw [answer] at stored
      exact Or.inr ⟨r, stored, rfl⟩
    | ok records =>
      rw [answer] at stored
      have stored : (State.applySnapshot { s with loading := false } records).records.get? server = some r := stored
      rw [get?_applySnapshot] at stored
      cases brought : records.get? server with
      | none =>
        rw [brought] at stored
        exact Or.inr ⟨r, stored, rfl⟩
      | some found =>
        rw [brought, Option.map_some, Option.some_or, Option.some_inj] at stored
        rcases s.status_mergeRecord_cases server found with yields | ⟨r', current, same⟩
        · exact Or.inl ⟨own, records, found, rfl, brought, yields⟩
        · exact Or.inr ⟨r', current, by rw [← stored, ← same]⟩
  · rw [finishAttach_of_ne s own] at stored
    exact Or.inr ⟨r, stored, rfl⟩

end State

section Step

variable {f : Store} {o : Moment} {server : String}

/-- A moment that binds nothing, and brings neither a tick nor a status, leaves every countdown alone. -/
theorem spares_of_quiet (ho : binds o = false) (noTick : ∀ e, o ≠ .adjust (.progress e))
    (noStatus : ∀ e, o ≠ .adjust (.status e)) : Spares f server o where
  binding_lasts := ho
  noTick e tick := absurd tick (noTick e)
  unended e he := by
    cases o with
    | start operation => cases he
    | reply id reply => cases he
    | adjust a =>
      cases a with
      | status e => exact absurd rfl (noStatus e)
      | _ => cases he

theorem spares_status {e : StatusChanged}
    (waits : f.state.accepts e = true → e.serverId = server → e.status = .authenticating) :
    Spares f server (.adjust (.status e)) where
  binding_lasts := rfl
  noTick _ tick := by cases tick
  unended e' he' := by
    obtain ⟨accepted, rfl⟩ := mem_acceptedIn_status.mp he'
    exact waits accepted

theorem spares_progress {e : AuthProgress} (other : e.serverId = server → f.state.space ≠ some e.spaceId) :
    Spares f server (.adjust (.progress e)) where
  binding_lasts := rfl
  noTick e' tick := by
    cases tick
    exact other
  unended e' he' := by cases he'

/-- A countdown that is shown after a moment was started by it, or was shown before and left alone. -/
theorem countdown_after_cases {n : UInt64} (shown : (f.after behaviour o).state.remaining.get? server = some n) :
    (∃ e, o = .adjust (.progress e) ∧ e.serverId = server ∧ f.state.space = some e.spaceId ∧ e.remaining = n) ∨
    (f.state.remaining.get? server = some n ∧ Spares f server o) := by
  cases o with
  | start operation =>
    cases operation with
    | attach space => cases shown
    | request r server' =>
      obtain ⟨pending, e⟩ := state_after_request f r server'
      rw [e] at shown
      exact Or.inr ⟨shown, spares_of_quiet rfl (by simp) (by simp)⟩
  | reply id reply =>
    refine Or.inr ⟨?_, spares_of_quiet rfl (by simp) (by simp)⟩
    cases waits : f.task? id with
    | none => rwa [Flight.after_reply_of_none _ _ waits] at shown
    | some task =>
      rw [Flight.state_after_reply _ _ waits] at shown
      rwa [← f.state.remaining_resume reply task]
  | adjust a =>
    have shown : (f.state.adjust a).remaining.get? server = some n := shown
    cases a with
    | unbind => cases shown
    | status e =>
      obtain ⟨before, waits⟩ := State.remaining_acceptStatus shown
      exact Or.inr ⟨before, spares_status waits⟩
    | progress e =>
      by_cases bound : f.state.space = some e.spaceId
      · have counts : f.state.isBoundTo e.spaceId = true := beq_iff_eq.mpr bound
        rw [State.adjust, State.acceptProgress, if_pos counts, KeyMap.get?_insert] at shown
        split at shown
        · rename_i own
          cases shown
          exact Or.inl ⟨e, rfl, own, bound, rfl⟩
        · rename_i other
          exact Or.inr ⟨shown, spares_progress fun own => absurd own other⟩
      · have foreign : ¬ f.state.isBoundTo e.spaceId = true := fun counts => bound (beq_iff_eq.mp counts)
        rw [State.adjust, State.acceptProgress, if_neg foreign] at shown
        exact Or.inr ⟨shown, spares_progress fun _ => bound⟩
    | features e =>
      refine Or.inr ⟨?_, spares_of_quiet rfl (by simp) (by simp)⟩
      simp only [State.adjust, State.acceptFeatures] at shown
      split at shown <;> exact shown
    | collapse server' => exact Or.inr ⟨shown, spares_of_quiet rfl (by simp) (by simp)⟩
    | dismissError => exact Or.inr ⟨shown, spares_of_quiet rfl (by simp) (by simp)⟩

/-- A countdown goes on through a moment that leaves it alone. -/
theorem countdown_kept {n : UInt64} (counts : f.state.remaining.get? server = some n) (spared : Spares f server o) :
    (f.after behaviour o).state.remaining.get? server = some n := by
  cases o with
  | start operation =>
    cases operation with
    | attach space => cases spared.binding_lasts
    | request r server' =>
      obtain ⟨pending, e⟩ := state_after_request f r server'
      rw [e]
      exact counts
  | reply id reply =>
    cases waits : f.task? id with
    | none => rwa [Flight.after_reply_of_none _ _ waits]
    | some task =>
      rw [Flight.state_after_reply _ _ waits]
      rwa [← f.state.remaining_resume reply task] at counts
  | adjust a =>
    show (f.state.adjust a).remaining.get? server = some n
    cases a with
    | unbind => cases spared.binding_lasts
    | status e =>
      rw [State.adjust, State.acceptStatus]
      cases accepted : f.state.accepts e with
      | false => exact counts
      | true =>
        have unended := spared.unended e (mem_acceptedIn_status.mpr ⟨accepted, rfl⟩)
        simp only [if_true]
        split
        · exact counts
        · rename_i ends
          rwa [KeyMap.get?_erase, if_neg fun own => ends (unended own)]
    | progress e =>
      rw [State.adjust, State.acceptProgress]
      split
      · rename_i bound
        rwa [KeyMap.get?_insert, if_neg fun own => spared.noTick e rfl own (beq_iff_eq.mp bound)]
      · exact counts
    | features e =>
      rw [State.adjust, State.acceptFeatures]
      split <;> exact counts
    | collapse server' => exact counts
    | dismissError => exact counts

/-- Where no binding is made, the status of a record is that of an event accepted, of an entry of the snapshot that took
the record's place, or it is as before. -/
theorem status_after_cases (ho : binds o = false) {r : StatusRecord}
    (stored : (f.after behaviour o).state.records.get? server = some r) :
    (∃ e ∈ acceptedIn f [o], e.serverId = server ∧ r.status = e.status) ∨ Replaces f server o ∨
      ∃ r', f.state.records.get? server = some r' ∧ r.status = r'.status := by
  cases o with
  | start operation =>
    cases operation with
    | attach space => cases ho
    | request q server' =>
      obtain ⟨pending, e⟩ := state_after_request f q server'
      rw [e] at stored
      exact Or.inr (Or.inr ⟨r, stored, rfl⟩)
  | reply id reply =>
    right
    cases waits : f.task? id with
    | none =>
      rw [Flight.after_reply_of_none _ _ waits] at stored
      exact Or.inr ⟨r, stored, rfl⟩
    | some task =>
      rw [Flight.state_after_reply _ _ waits] at stored
      cases task with
      | request q space server' =>
        obtain ⟨pending, e⟩ := f.state.resume_request reply q space server'
        have stored : (f.state.resume reply (.request q space server')).state.records.get? server = some r := stored
        rw [e] at stored
        exact Or.inr ⟨r, stored, rfl⟩
      | snapshot space n =>
        have stored : (f.state.finishAttach space n reply).records.get? server = some r := stored
        rcases State.status_finishAttach_cases stored with ⟨rfl, records, found, answer, brought, yields⟩ | old
        · exact Or.inl ⟨space, records, found, waits, answer, brought, yields⟩
        · exact Or.inr old
  | adjust a =>
    have stored : (f.state.adjust a).records.get? server = some r := stored
    cases a with
    | unbind => cases ho
    | status e =>
      cases accepted : f.state.accepts e with
      | false =>
        rw [State.adjust, State.acceptStatus_of_not_accepts accepted] at stored
        exact Or.inr (Or.inr ⟨r, stored, rfl⟩)
      | true =>
        rw [State.adjust, State.get?_acceptStatus accepted] at stored
        split at stored
        · rename_i own
          cases stored
          exact Or.inl ⟨e, mem_acceptedIn_status.mpr ⟨accepted, rfl⟩, own, rfl⟩
        · exact Or.inr (Or.inr ⟨r, stored, rfl⟩)
    | progress e =>
      rw [State.adjust, State.records_acceptProgress] at stored
      exact Or.inr (Or.inr ⟨r, stored, rfl⟩)
    | features e =>
      rw [State.adjust, State.records_acceptFeatures] at stored
      exact Or.inr (Or.inr ⟨r, stored, rfl⟩)
    | collapse server' => exact Or.inr (Or.inr ⟨r, stored, rfl⟩)
    | dismissError => exact Or.inr (Or.inr ⟨r, stored, rfl⟩)

end Step

/-! ## Runs -/

section Run

variable {f : Store} {os : List Moment} {server : String}

/-- If every status accepted for a server is authenticating, its record ends authenticating or with the status it began
with, unless an entry of the snapshot takes its place. -/
theorem status_run_cases (binding_lasts : ∀ o ∈ os, binds o = false)
    (waits : ∀ s ∈ acceptedIn f os, s.serverId = server → s.status = .authenticating) {r : StatusRecord}
    (stored : (f.run behaviour os).state.records.get? server = some r) :
    r.status = .authenticating ∨ (∃ r', f.state.records.get? server = some r' ∧ r.status = r'.status) ∨
      Replaced f os server := by
  induction os generalizing f with
  | nil => exact Or.inr (Or.inl ⟨r, stored, rfl⟩)
  | cons o os ih =>
    have parts : acceptedIn f (o :: os) = acceptedIn f [o] ++ acceptedIn (f.after behaviour o) os :=
      acceptedIn_append f [o] os
    rw [parts] at waits
    have rest := ih (fun o' ho' => binding_lasts o' (List.mem_cons_of_mem o ho'))
      (fun s hs => waits s (List.mem_append_right _ hs)) stored
    rcases rest with status | ⟨r', before, status⟩ | ⟨window, o', later, rfl, brought⟩
    · exact Or.inl status
    · -- the record is the one that `o` left
      rw [status]
      rcases status_after_cases (binding_lasts o List.mem_cons_self) before with ⟨e, he, own, new⟩ | brought | old
      · exact Or.inl (new.trans (waits e (List.mem_append_left _ he) own))
      · exact Or.inr (Or.inr ⟨[], o, os, rfl, brought⟩)
      · exact Or.inr (Or.inl old)
    · exact Or.inr (Or.inr ⟨o :: window, o', later, rfl, brought⟩)

/-- A countdown goes on while its space stays bound, no tick for the server comes and no status ends it. -/
theorem countdown_run {k : Binding} (h : Expects k f) {space : Uuid} (bound : k.space = some space) {n : UInt64}
    (counts : f.state.remaining.get? server = some n) (binding_lasts : ∀ o ∈ os, binds o = false)
    (last : ∀ e, .adjust (.progress e) ∈ os → e.serverId = server → e.spaceId ≠ space)
    (unended : ∀ s ∈ acceptedIn f os, s.serverId = server → s.status = .authenticating) :
    (f.run behaviour os).state.remaining.get? server = some n := by
  induction os generalizing f with
  | nil => exact counts
  | cons o os ih =>
    have parts : acceptedIn f (o :: os) = acceptedIn f [o] ++ acceptedIn (f.after behaviour o) os :=
      acceptedIn_append f [o] os
    rw [parts, List.forall_mem_append] at unended
    have ho := binding_lasts o List.mem_cons_self
    have spared : Spares f server o := by
      refine ⟨ho, fun e tick own same => ?_, unended.1⟩
      rw [h.space, bound, Option.some_inj] at same
      exact last e (List.mem_cons.mpr (Or.inl tick.symm)) own same.symm
    have kept := countdown_kept counts spared
    exact ih (h.after ho) kept (fun o' ho' => binding_lasts o' (List.mem_cons_of_mem o ho'))
      (fun e tick => last e (List.mem_cons_of_mem o tick)) unended.2

variable {before since : List Moment} {e : AuthProgress}

theorem LastTick.reached (h : LastTick os server before e since) :
    reached os = (reached (before ++ [.adjust (.progress e)])).run behaviour since := by
  rw [h.parts, ← List.singleton_append, ← List.append_assoc]
  exact fresh.run_append behaviour _ _

/-- When the last tick has come, its space is bound and its countdown is shown. -/
theorem LastTick.ticked (h : LastTick os server before e since) :
    (Connection.reached (before ++ [.adjust (.progress e)])).state.space = some e.spaceId ∧
    (Connection.reached (before ++ [.adjust (.progress e)])).state.remaining.get? server = some e.remaining := by
  have bound : (Connection.reached before).state.isBoundTo e.spaceId = true := beq_iff_eq.mpr h.bound
  rw [reached_concat, Flight.state_after_adjust, show behaviour.adjust = State.adjust from rfl, State.adjust,
    State.acceptProgress, if_pos bound]
  exact ⟨h.bound, by rw [KeyMap.get?_insert, if_pos h.own]⟩

/-- The space that the last tick was for is still bound. -/
theorem LastTick.space (h : LastTick os server before e since) :
    (Connection.reached os).state.space = some e.spaceId := by
  obtain ⟨k, hk⟩ := exists_expects_reached (before ++ [.adjust (.progress e)])
  rw [h.reached, (hk.run h.binding_lasts).space, ← hk.space, h.ticked.1]

/-- What the last tick told is still shown. -/
theorem LastTick.counts (h : LastTick os server before e since) :
    (Connection.reached os).state.remaining.get? server = some e.remaining := by
  obtain ⟨k, hk⟩ := exists_expects_reached (before ++ [.adjust (.progress e)])
  have bound : k.space = some e.spaceId := by rw [← hk.space, h.ticked.1]
  rw [h.reached]
  exact countdown_run hk bound h.ticked.2 h.binding_lasts h.last h.unended

/-- The last tick stays the last through a moment that leaves the countdown alone. -/
theorem LastTick.concat (h : LastTick os server before e since) {o : Moment}
    (spared : Spares (Connection.reached os) server o) : LastTick (os ++ [o]) server before e (since ++ [o]) where
  parts := by rw [h.parts, List.append_assoc, List.cons_append]
  own := h.own
  bound := h.bound
  binding_lasts := List.forall_mem_append.mpr ⟨h.binding_lasts, List.forall_mem_singleton.mpr spared.binding_lasts⟩
  last := by
    intro e' he' own
    rcases List.mem_append.mp he' with old | new
    · exact h.last e' old own
    · intro same
      refine spared.noTick e' (List.mem_singleton.mp new).symm own ?_
      rw [h.space, same]
  unended := by
    rw [acceptedIn_append, ← h.reached]
    exact List.forall_mem_append.mpr ⟨h.unended, spared.unended⟩

/-- A countdown is that of the last tick. -/
theorem exists_lastTick {n : UInt64} (counts : (Connection.reached os).state.remaining.get? server = some n) :
    ∃ before e since, LastTick os server before e since ∧ e.remaining = n := by
  induction os using List.reverseRecOn with
  | nil => cases counts
  | append_singleton os o ih =>
    rw [reached_concat] at counts
    rcases countdown_after_cases counts with ⟨e, rfl, own, bound, left⟩ | ⟨old, spared⟩
    · exact ⟨os, e, [], ⟨rfl, own, bound, by simp, by simp, by simp [acceptedIn]⟩, left⟩
    · obtain ⟨before, e, since, last, left⟩ := ih old
      exact ⟨before, e, since ++ [o], last.concat spared, left⟩

/-- While it counts down, a record is authenticating or as it was when the last tick came, unless an entry of the
snapshot took its place since. -/
theorem LastTick.status_cases (h : LastTick os server before e since) {r : StatusRecord}
    (stored : (Connection.reached os).state.records.get? server = some r) :
    r.status = .authenticating ∨
      (∃ r', (Connection.reached before).state.records.get? server = some r' ∧ r.status = r'.status) ∨
      Replaced (Connection.reached (before ++ [.adjust (.progress e)])) since server := by
  rw [h.reached] at stored
  have ticked : (Connection.reached (before ++ [.adjust (.progress e)])).state.records =
      (Connection.reached before).state.records := by
    rw [reached_concat, Flight.state_after_adjust]
    exact State.records_acceptProgress _ e
  rw [← ticked]
  exact status_run_cases h.binding_lasts h.unended stored

end Run

/-- A record that is shown is stored. -/
theorem State.stored_of_shown {s : State} {server : String} {r : StatusRecord} (shown : s.record? server = some r) :
    s.records.get? server = some r := by
  unfold record? snapshot visible? at shown
  split at shown
  · cases shown
  · exact shown

/-- **A countdown is that of the last tick, and no status ended it since.** In every state that a store can get into, a
countdown of a server says what the last tick for it in the current binding said; there is one iff such a tick came and
every status accepted for the server since is authenticating. So its record, if shown, is authenticating or still has
the status that it had when that tick came, unless an entry of the snapshot took its place since. -/
theorem countdown_since_tick (os : List Moment) (server : String) (n : UInt64) :
    ((reached os).state.remaining.get? server = some n ↔
      ∃ before e since, LastTick os server before e since ∧ e.remaining = n) ∧
    ∀ before e since r, LastTick os server before e since → (reached os).state.record? server = some r →
      r.status = .authenticating ∨
      (∃ r', (reached before).state.records.get? server = some r' ∧ r.status = r'.status) ∨
      Replaced (reached (before ++ [.adjust (.progress e)])) since server := by
  refine ⟨⟨exists_lastTick, ?_⟩, fun before e since r last shown => last.status_cases (State.stored_of_shown shown)⟩
  rintro ⟨before, e, since, last, rfl⟩
  exact last.counts

/-! ## A user who signs in -/

/-- The user is asked to sign in, and has 90 seconds left. -/
def asked : List Moment :=
  [.start (.attach ⟨1⟩), .reply 0 (.ok (.obj [])), .adjust (.status ⟨⟨1⟩, "gh", .authenticating, 1, false, none⟩),
    .adjust (.progress ⟨⟨1⟩, "gh", 90, 1⟩)]

/-- The server waits on, in a newer flow. -/
def waitsOn : Moment := .adjust (.status ⟨⟨1⟩, "gh", .authenticating, 2, false, some "Waiting for sign-in"⟩)

/-- The user takes time, and is asked once more. -/
def askedAgain : List Moment := asked ++ [waitsOn]

theorem asked_counts :
    LastTick askedAgain "gh" (asked.take 3) ⟨⟨1⟩, "gh", 90, 1⟩ [waitsOn] ∧
    (reached askedAgain).state.remaining.get? "gh" = some 90 ∧
    ∃ r, (reached askedAgain).state.record? "gh" = some r ∧ r.flow = 2 ∧ (r.status = .authenticating ∨
      (∃ r', (reached (asked.take 3)).state.records.get? "gh" = some r' ∧ r.status = r'.status) ∨
      Replaced (reached (asked.take 3 ++ [.adjust (.progress ⟨⟨1⟩, "gh", 90, 1⟩)])) [waitsOn] "gh") := by
  obtain ⟨counts, status⟩ := countdown_since_tick askedAgain "gh" 90
  have last : LastTick askedAgain "gh" (asked.take 3) ⟨⟨1⟩, "gh", 90, 1⟩ [waitsOn] := by
    refine ⟨rfl, rfl, by decide, by simp [waitsOn, binds], by simp [waitsOn], fun s accepted _ => ?_⟩
    rw [(mem_acceptedIn_status.mp accepted).2]
  have shown : (reached askedAgain).state.record? "gh" =
      some ⟨"gh", .authenticating, 2, false, some "Waiting for sign-in"⟩ := by decide
  exact ⟨last, counts.mpr ⟨_, _, _, last, rfl⟩, _, shown, rfl, status _ _ _ _ last shown⟩

/-- The user signs in, and the tick of the last second comes late. -/
def signedIn : List Moment :=
  asked ++ [.adjust (.status ⟨⟨1⟩, "gh", .connected, 1, true, none⟩), .adjust (.progress ⟨⟨1⟩, "gh", 60, 1⟩)]

/-- A countdown may be shown of a server that is not authenticating. -/
theorem trailing_tick_counts :
    ¬ ∀ (os : List Moment) (server : String) (r : StatusRecord), (reached os).state.record? server = some r →
      ((reached os).state.remaining.get? server).isSome → r.status = .authenticating := by
  intro only
  have waits := only signedIn "gh" ⟨"gh", .connected, 1, true, none⟩ (by decide) (by decide)
  cases waits

end Switchboard.Connection
