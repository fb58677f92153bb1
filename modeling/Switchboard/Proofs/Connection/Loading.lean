import Switchboard.Proofs.Connection.Binding
import Switchboard.Proofs.Connection.Records

/-!
# Events while the snapshot is awaited

A `Load` is a run up to the reply to the snapshot of its last binding. The events accepted meanwhile are stored but not
shown; when the reply comes, each entry of the snapshot meets the record that the last accepted event left
(`Expects.get?_run`). The event prevails over an entry of an older flow, and the entry over an event of its own flow
(`last_event_survives`): at equal flows the snapshot takes back what an event told (`snapshot_reverts_equal_flow`).
-/

namespace Switchboard.Connection

open Backend (Reply)
open State (mergeRecord)

/-! ## Accepted events -/

/-- The status event that a moment brings, if it counts. -/
def accepted? (s : State) : Moment → Option StatusChanged
  | .adjust (.status e) => if s.accepts e then some e else none
  | _ => none

/-- The status events that count during a run, in order. -/
def acceptedIn (f : Store) : List Moment → List StatusChanged
  | [] => []
  | o :: os => (accepted? f.state o).toList ++ acceptedIn (f.after behaviour o) os

/-- The last status event about a server that counts during a run. -/
def lastAccepted? (f : Store) (os : List Moment) (server : String) : Option StatusChanged :=
  ((acceptedIn f os).filter fun e => e.serverId = server).getLast?

section Run

variable {k : Binding} {f : Store}

theorem lastAccepted?_cons (f : Store) (o : Moment) (os : List Moment) (server : String) :
    lastAccepted? f (o :: os) server =
      (lastAccepted? (f.after behaviour o) os server).or
        ((accepted? f.state o).filter fun e => e.serverId = server) := by
  rw [lastAccepted?, acceptedIn, List.filter_append, List.getLast?_append]
  cases accepted? f.state o with
  | none => rfl
  | some e =>
    by_cases h : e.serverId = server <;> simp [lastAccepted?, Option.filter, h]

/-- Between a binding and the reply to its snapshot only an accepted status event changes a record. -/
theorem Expects.get?_after (h : Expects k f) {o : Moment} (ho : binds o = false) (unanswered : k.answered [o] = false)
    (server : String) :
    (f.after behaviour o).state.records.get? server =
      (((accepted? f.state o).filter fun e => e.serverId = server).map fun e =>
        remember (wasConnected (f.state.records.get? server)) e.record).or (f.state.records.get? server) := by
  cases o with
  | start operation =>
    cases operation with
    | attach space => cases ho
    | request r server' =>
      obtain ⟨pending, e⟩ := state_after_request f r server'
      rw [e]
      rfl
  | reply id reply =>
    rw [answered_reply] at unanswered
    have hid : k.ticket ≠ some id := beq_eq_false_iff_ne.mp unanswered
    obtain ⟨pending, e⟩ := h.after_other_reply hid reply
    rw [e]
    rfl
  | adjust a =>
    show (f.state.adjust a).records.get? server = _
    cases a with
    | unbind => cases ho
    | status e =>
      cases accepted : f.state.accepts e with
      | false =>
        have counts : accepted? f.state (.adjust (.status e)) = none := by simp [accepted?, accepted]
        rw [counts, State.adjust, State.acceptStatus_of_not_accepts accepted]
        rfl
      | true =>
        have counts : accepted? f.state (.adjust (.status e)) = some e := by simp [accepted?, accepted]
        rw [counts, State.adjust, State.get?_acceptStatus accepted]
        by_cases hs : e.serverId = server <;> simp [Option.filter, hs]
    | progress e =>
      rw [State.adjust, State.records_acceptProgress]
      rfl
    | features e =>
      rw [State.adjust, State.records_acceptFeatures]
      rfl
    | collapse server' => rfl
    | dismissError => rfl

/-- While the snapshot is awaited, the record of a server is what the last accepted event about it told, and does not
change without one. -/
theorem Expects.get?_run (h : Expects k f) {os : List Moment} (hos : ∀ o ∈ os, binds o = false)
    (unanswered : k.answered os = false) (server : String) :
    (∀ e, lastAccepted? f os server = some e →
      ∃ before, (f.run behaviour os).state.records.get? server = some (remember before e.record)) ∧
    (lastAccepted? f os server = none →
      (f.run behaviour os).state.records.get? server = f.state.records.get? server) := by
  induction os generalizing f with
  | nil => exact ⟨nofun, fun _ => rfl⟩
  | cons o os ih =>
    have ho := hos o List.mem_cons_self
    rw [answered_cons, Bool.or_eq_false_iff] at unanswered
    have step := h.get?_after ho unanswered.1 server
    obtain ⟨later, same⟩ := ih (h.after ho) (fun o' ho' => hos o' (List.mem_cons_of_mem o ho')) unanswered.2
    rw [Flight.run_cons, lastAccepted?_cons]
    cases rest : lastAccepted? (f.after behaviour o) os server with
    | some e =>
      rw [Option.some_or]
      refine ⟨?_, nofun⟩
      rintro _ ⟨⟩
      exact later e rest
    | none =>
      -- no event counts any more, so the record is the one that `o` leaves
      rw [Option.none_or, same rest, step]
      cases (accepted? f.state o).filter fun e => e.serverId = server with
      | none => exact ⟨nofun, fun _ => rfl⟩
      | some e =>
        refine ⟨?_, nofun⟩
        rintro _ ⟨⟩
        exact ⟨_, rfl⟩

end Run

/-! ## When the snapshot comes -/

/-- A run up to the reply to the snapshot of its last binding. -/
structure Load where
  before : List Moment
  space : Uuid
  /-- What comes while the snapshot is awaited. -/
  window : List Moment
  reply : Reply
  binding_lasts : ∀ o ∈ window, binds o = false
  unanswered : (bindingAt (before.countP Occurrence.starts) (.start (.attach space))).answered window = false

namespace Load

variable (l : Load)

/-- The number of the operation that asks for the snapshot. -/
def ticket : Nat := l.before.countP Occurrence.starts

/-- The binding that awaits the snapshot. -/
def bound : Store := reached (l.before ++ [.start (.attach l.space)])

/-- The store once the reply has come. -/
def loaded : Store := reached (l.before ++ [.start (.attach l.space)] ++ l.window ++ [.reply l.ticket l.reply])

/-- The last status event about a server that counted while the snapshot was awaited. -/
def event? (server : String) : Option StatusChanged := lastAccepted? l.bound l.window server

/-- The entry of a server in the snapshot; none if there is no snapshot. -/
def found? (server : String) : Option StatusRecord :=
  match l.reply.statuses l.space with
  | .ok records => records.get? server
  | .error _ => none

theorem expects_bound : Expects (bindingAt l.ticket (.start (.attach l.space))) l.bound := by
  obtain ⟨k, h⟩ := exists_expects_reached l.before
  have number : (reached l.before).started = l.ticket := started_reached l.before
  rw [bound, reached, Flight.run_append, ← number]
  exact h.bind rfl

/-- When the reply comes, the snapshot of the binding is still awaited. -/
theorem awaited : (l.bound.run behaviour l.window).state.loading = true := by
  have start : l.bound.state.loading = true := by
    rw [bound, reached, Flight.run_append]
    rfl
  rw [l.expects_bound.loading_run l.binding_lasts, start, Bool.true_and, Bool.not_eq_true']
  exact l.unanswered

/-- The record of a server once the reply has come: the entry, if there is one, meets what is stored. -/
theorem record?_loaded (server : String) :
    l.loaded.state.record? server =
      ((l.found? server).map (mergeRecord ((l.bound.run behaviour l.window).state.records.get? server))).or
        ((l.bound.run behaviour l.window).state.records.get? server) := by
  have split : l.loaded = (l.bound.run behaviour l.window).after behaviour (.reply l.ticket l.reply) := by
    rw [loaded, reached, Flight.run_append, Flight.run_append]
    rfl
  rw [split]
  rcases (l.expects_bound.run l.binding_lasts).after_own_reply rfl l.reply with ⟨ended, -⟩ | ⟨-, space, -, state⟩
  · rw [l.awaited] at ended
    cases ended
  · have same : l.reply.statuses space = l.reply.statuses l.space := rfl
    rw [state, State.finishAttach, if_pos rfl, same, found?]
    cases l.reply.statuses l.space with
    | ok records => exact State.get?_applySnapshot _ records server
    | error _ => rfl

/-- **The last event survives an older snapshot.** Of a server about which an event was accepted while the snapshot was
awaited, the record shown afterwards is what the last accepted one told, if the entry in the snapshot, if any, is of an
older flow. An entry of the event's own flow takes its place. -/
theorem last_event_survives {server : String} {e : StatusChanged} (last : l.event? server = some e) :
    ∃ r, l.loaded.state.record? server = some r ∧
      ((∀ entry ∈ l.found? server, entry.flow < e.flow) →
        r.status = e.status ∧ r.flow = e.flow ∧ r.message = e.message) ∧
      (∀ entry ∈ l.found? server, entry.flow = e.flow →
        r.status = entry.status ∧ r.flow = e.flow ∧ r.message = entry.message) := by
  obtain ⟨before, stored⟩ := (l.expects_bound.get?_run l.binding_lasts l.unanswered server).1 e last
  rw [record?_loaded, stored]
  cases l.found? server with
  | none => exact ⟨_, rfl, fun _ => ⟨rfl, rfl, rfl⟩, nofun⟩
  | some entry =>
    rw [Option.map_some, Option.some_or]
    refine ⟨_, rfl, fun older => ?_, ?_⟩
    · have older : entry.flow < (remember before e.record).flow := older entry rfl
      rw [mergeRecord_of_lt older]
      exact ⟨rfl, rfl, rfl⟩
    · rintro _ ⟨⟩ same
      have newer : (remember before e.record).flow ≤ entry.flow := UInt64.le_of_eq same.symm
      rw [mergeRecord_of_le newer]
      exact ⟨rfl, same, rfl⟩

/-- A server connects in the flow `flow` while the snapshot, which has it connecting in flow 1, is on its way. -/
def overtaken (flow : UInt64) : Load where
  before := []
  space := .nil
  window := [.adjust (.status { spaceId := .nil, serverId := "gh", status := .connected, flow })]
  reply := .ok (.obj [("gh", .obj [("server_id", .str "gh"), ("status", .str "connecting"), ("flow_id", .int 1)])])
  binding_lasts := by simp [binds]
  unanswered := rfl

theorem overtaken_survives :
    ∃ e, (overtaken 2).event? "gh" = some e ∧ ∃ r, (overtaken 2).loaded.state.record? "gh" = some r ∧
      r.status = .connected ∧ r.flow = 2 ∧ r.message = none := by
  have last : (overtaken 2).event? "gh" = some ⟨.nil, "gh", .connected, 2, false, none⟩ := by decide
  have older : ∀ entry ∈ (overtaken 2).found? "gh", entry.flow < 2 := by decide
  obtain ⟨r, hr, survives, -⟩ := last_event_survives (overtaken 2) last
  exact ⟨_, last, r, hr, survives older⟩

/-- At equal flows the last event does not survive. -/
theorem snapshot_reverts_equal_flow :
    ¬ ∀ (l : Load) (server : String) (e : StatusChanged), l.event? server = some e →
      (∀ entry ∈ l.found? server, entry.flow ≤ e.flow) →
      ∃ r, l.loaded.state.record? server = some r ∧ r.status = e.status ∧ r.flow = e.flow ∧ r.message = e.message := by
  intro survives
  have shown : (overtaken 1).loaded.state.status? "gh" = some .connecting := by decide
  obtain ⟨r, hr, status, -⟩ := survives (overtaken 1) "gh" ⟨.nil, "gh", .connected, 1, false, none⟩ (by decide)
    (by decide)
  rw [State.status?, hr, Option.map_some, status] at shown
  cases shown

end Load

end Switchboard.Connection
