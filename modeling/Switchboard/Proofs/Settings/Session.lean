import Switchboard.Proofs.Settings.Backed
import Switchboard.Settings.Rehearsal

/-!
# One operation after the other

A `Session` is a user interface that finishes one operation before it starts the next, over storage whose accesses
succeed; it keeps a log of its accesses. An update stores nothing or all three fields (`update_of_unchanged`,
`update_of_changed`), and a restored store shows what is stored, whatever that is. So after every operation storage
holds what is shown, and a restart shows it again, but for what is not stored (`stays_written_through`).
-/

namespace Switchboard

/-- Where no operation has a task, none waits. -/
theorem Flight.waiting_eq_nil {State Task : Type} {f : Flight State Task} (idle : ∀ id, f.task? id = none) :
    f.waiting = [] := by
  cases h : f.waiting with
  | nil => rfl
  | cons w rest =>
    have none := idle w.1
    simp [task?, h] at none

namespace Settings

/-! ## Reading -/

/-- How many texts are still to be read. -/
def Loading.left : Loading → Nat
  | .space => 3
  | .theme _ => 2
  | .sidebar .. => 1

/-- Reads on to the end: the accesses that are made, and the state they give. -/
def Loading.finish (data : KeyMap String) (l : Loading) : List Access × Persisted :=
  match _h : l.next (Rehearsal.textOf (.ok (l.access.response data))) with
  | .inl l' => (l.access :: (l'.finish data).1, (l'.finish data).2)
  | .inr p => ([l.access], p)
termination_by l.left
decreasing_by
  all_goals
    cases l <;> simp only [next, Sum.inl.injEq, reduceCtorEq] at _h <;> subst _h <;> simp only [left] <;> omega

/-- Loading reads every field once, and gives the state that is stored. -/
theorem Loading.finish_space (data : KeyMap String) :
    Loading.space.finish data = (Field.all.map fun φ => .get φ.key, Persisted.load data) := by
  simp [finish, next, access, Access.response, Rehearsal.textOf, Persisted.load, Field.all, Field.key]

/-! ## Sessions -/

/-- The access that an operation makes in a moment. -/
def Backed.accesses (b : Backed) : Moment → List Access
  | .start change => ((b.store.state.start change).next.task?.map Task.access).toList
  | .reply id result =>
    ((b.store.task? id).bind fun task => (b.store.state.resume result task).next.task?.map Task.access).toList
  | .adjust _ => []

/-- A user interface with its storage, and the accesses it made so far. -/
structure Session where
  backed : Backed
  log : List Access

/-- What a user interface does. -/
inductive Operation where
  /-- It is started again over the same storage. -/
  | restore
  | update (change : Change)
  | adjust (adjustment : Adjustment)

namespace Session

/-- What is stored. -/
def data (s : Session) : KeyMap String := s.backed.data

/-- What is shown. -/
def state (s : Session) : State := s.backed.store.state

/-- A moment goes by. -/
def take (s : Session) (o : Moment) : Session := ⟨s.backed.after o, s.log ++ s.backed.accesses o⟩

/-- The accesses of an operation succeed, one for each of the fields. -/
def answer (s : Session) (id : Nat) (fields : List Field) : Session :=
  (fields.map fun _ => Occurrence.reply id (.ok ())).foldl take s

/-- The user interface is started over what is stored. -/
def restore (data : KeyMap String) (log : List Access) : Session :=
  let (accesses, loaded) := Loading.space.finish data
  ⟨{ store := { state := loaded.state }, data := data }, log ++ accesses⟩

/-- Carries out an operation to its end. -/
def perform (s : Session) : Operation → Session
  | .restore => restore s.data s.log
  | .update change => (s.take (.start change)).answer s.backed.store.started Field.all
  | .adjust a => s.take (.adjust a)

/-- The user interface is started, and then carries out operations. -/
def run (data : KeyMap String) (ops : List Operation) : Session := ops.foldl perform (restore data [])

end Session

/-- The accesses that an operation makes: it reads every field, or stores every field of a state that is to be stored and
is not what was shown before, or makes none. -/
def Operation.accesses (s : State) : Operation → List Access
  | .restore => Field.all.map fun φ => .get φ.key
  | .update change =>
    if (s.apply change).persisted = s.persisted then []
    else Field.all.map fun φ => φ.access (s.apply change).persisted
  | .adjust _ => []

/-! ## Storing all fields -/

/-- A field is loaded as it was stored last. -/
theorem agree_load_store {p : Persisted} {φ : Field} (fields : List Field) {data : KeyMap String}
    (h : φ ∈ fields ∨ φ.Agree (Persisted.load data) p) :
    φ.Agree (Persisted.load ((fields.map fun ψ => ψ.access p).foldl Access.update data)) p := by
  induction fields generalizing data with
  | nil =>
    rcases h with h | h
    · cases h
    · exact h
  | cons ψ rest ih =>
    rw [List.map_cons, List.foldl_cons]
    apply ih
    by_cases own : ψ = φ
    · subst own
      exact Or.inr (agree_load_update p data ψ)
    · rcases h with h | h
      · rcases List.mem_cons.mp h with h | h
        · exact absurd h.symm own
        · exact Or.inl h
      · exact Or.inr ((agree_load_update_of_ne p data own).trans h)

/-- Once every field of a state is stored, the state is loaded. -/
theorem load_store (p : Persisted) (data : KeyMap String) :
    Persisted.load ((Field.all.map fun φ => φ.access p).foldl Access.update data) = p := by
  apply Persisted.ext_fields
  intro φ
  apply agree_load_store
  left
  cases φ <;> simp [Field.all]

/-- An access of an update is to the key of a field. -/
theorem key_mem_of_store {p : Persisted} {a : Access} (h : a ∈ Field.all.map fun φ => φ.access p) :
    a.key ∈ Field.all.map Field.key := by
  obtain ⟨φ, hφ, rfl⟩ := List.mem_map.mp h
  rw [Field.key_access]
  exact List.mem_map_of_mem hφ

theorem Operation.key_mem_of_accesses {s : State} {op : Operation} {a : Access} (h : a ∈ op.accesses s) :
    a.key ∈ Field.all.map Field.key := by
  cases op with
  | restore =>
    obtain ⟨φ, hφ, rfl⟩ := List.mem_map.mp h
    exact List.mem_map_of_mem hφ
  | update change =>
    simp only [accesses] at h
    split at h
    · cases h
    · exact key_mem_of_store h
  | adjust _ => cases h

/-! ## One operation -/

namespace Session

variable {s : Session} {id : Nat} {task : Task} {φ : Field}

theorem restore_eq (data : KeyMap String) (log : List Access) :
    restore data log = ⟨Backed.restored data, log ++ Field.all.map fun φ => .get φ.key⟩ := by
  simp only [restore, Loading.finish_space, Backed.restored]

/-- Once an operation is over, replies to it change nothing. -/
theorem answer_of_over (done : s.backed.store.task? id = none) (fields : List Field) : s.answer id fields = s := by
  have same : s.take (.reply id (.ok ())) = s := by
    simp [take, Backed.after_of_none done, Backed.accesses, done]
  induction fields with
  | nil => rfl
  | cons φ fields ih => simpa [answer, same] using ih

theorem log_access (waits : s.backed.store.task? id = some task) : (s.take (.reply id (.ok ()))).log =
    s.log ++ ((s.state.resume (.ok ()) task).next.task?.map Task.access).toList := by
  simp [take, Backed.accesses, waits, state]

/-- The accesses of an update succeed, from a field on: each of them is made and stored, and then the update is over. -/
theorem answer_storing (waits : s.backed.store.task? id = some task) (storing : task.Storing φ)
    (alone : ∀ i, i ≠ id → s.backed.store.task? i = none) :
    (s.answer id (φ :: φ.later)).state = s.state ∧
    (s.answer id (φ :: φ.later)).data =
      ((φ :: φ.later).map fun ψ => ψ.access task.after).foldl Access.update s.data ∧
    (s.answer id (φ :: φ.later)).log = s.log ++ φ.later.map (fun ψ => ψ.access task.after) ∧
    ∀ i, (s.answer id (φ :: φ.later)).backed.store.task? i = none := by
  -- on the fields still to come after `φ`
  induction later : φ.later generalizing φ s task with
  | nil =>
    rcases s.state.resume_ok storing with ⟨-, turn⟩ | ⟨ψ, task', goes_on, -⟩
    · refine ⟨Backed.state_access waits storing, Backed.data_access waits storing, ?_, fun i => ?_⟩
      · show (s.take _).log = _
        rw [log_access waits, turn]
        rfl
      · refine (Backed.task?_access waits i).trans ?_
        by_cases own : id = i
        · rw [if_pos own]
          exact congrArg (fun turn => turn.next.task?) turn
        · rw [if_neg own]
          exact alone i (Ne.symm own)
    · rw [later] at goes_on
      cases goes_on
  | cons ψ rest ih =>
    rcases s.state.resume_ok storing with ⟨last, -⟩ | ⟨ψ', task', goes_on, turn, storing', after', -⟩
    · rw [later] at last
      cases last
    · rw [later] at goes_on
      obtain ⟨rfl, rfl⟩ := List.cons.inj goes_on
      have waits' : (s.take (.reply id (.ok ()))).backed.store.task? id = some task' := by
        refine (Backed.task?_access waits id).trans ?_
        rw [if_pos rfl]
        exact congrArg (fun turn => turn.next.task?) turn
      have alone' : ∀ i, i ≠ id → (s.take (.reply id (.ok ()))).backed.store.task? i = none := by
        intro i other
        refine (Backed.task?_access waits i).trans ?_
        rw [if_neg (Ne.symm other)]
        exact alone i other
      obtain ⟨state, data, log, done⟩ := ih waits' storing' alone' rfl
      refine ⟨state.trans (Backed.state_access waits storing), ?_, ?_, done⟩
      · have stored : (s.take (.reply id (.ok ()))).data = (φ.access task.after).update s.data :=
          Backed.data_access waits storing
        refine data.trans ?_
        rw [after', stored]
        rfl
      · refine log.trans ?_
        rw [log_access waits, turn, after']
        simp [Next.task?, storing'.access, after']

/-! ## Any number of operations -/

/-- The user interface is idle, storage holds what is shown, and it is what the log made of it. -/
structure Sound (before : KeyMap String) (s : Session) : Prop where
  idle : ∀ id, s.backed.store.task? id = none
  stored : Persisted.load s.data = s.state.persisted
  replay : s.log.foldl Access.update before = s.data
  keys : ∀ a ∈ s.log, a.key ∈ Field.all.map Field.key

/-- What an operation does to an idle user interface: it makes its accesses, and what they store is what is shown. -/
structure Performed (s s' : Session) (op : Operation) : Prop where
  idle : ∀ id, s'.backed.store.task? id = none
  stored : Persisted.load s'.data = s'.state.persisted
  data : s'.data = (op.accesses s.state).foldl Access.update s.data
  log : s'.log = s.log ++ op.accesses s.state

theorem performed_restore (s : Session) : Performed s (s.perform .restore) .restore := by
  show Performed s (restore s.data s.log) .restore
  rw [restore_eq]
  exact ⟨fun _ => rfl, (persisted_state _).symm, rfl, rfl⟩

theorem performed_adjust (idle : ∀ id, s.backed.store.task? id = none)
    (stored : Persisted.load s.data = s.state.persisted) (a : Adjustment) :
    Performed s (s.perform (.adjust a)) (.adjust a) := by
  refine ⟨idle, ?_, rfl, rfl⟩
  have same : (s.state.adjust a).persisted = s.state.persisted := by cases a <;> rfl
  exact stored.trans same.symm

/-- An update that changes nothing that is stored is over at once. -/
theorem performed_update_of_unchanged (idle : ∀ id, s.backed.store.task? id = none)
    (stored : Persisted.load s.data = s.state.persisted) {change : Change}
    (same : (s.state.apply change).persisted = s.state.persisted)
    (turn : s.state.start change = ⟨s.state.apply change, .ends (.ok ()), []⟩) :
    Performed s (s.perform (.update change)) (.update change) := by
  have done : ∀ i, (s.take (.start change)).backed.store.task? i = none := by
    intro i
    refine (s.backed.store.task?_after_start behaviour change i).trans ?_
    show (s.backed.store.task? i).or (if _ then (s.state.start change).next.task? else none) = none
    simp [idle, turn, Next.task?]
  have performed : s.perform (.update change) = s.take (.start change) := answer_of_over (done _) Field.all
  have accesses : (Operation.update change).accesses s.state = [] := if_pos same
  rw [performed]
  refine ⟨done, ?_, ?_, ?_⟩
  · refine stored.trans (same.symm.trans ?_)
    exact congrArg State.persisted
      ((s.backed.store.state_after_start behaviour change).trans (congrArg Turn.state turn)).symm
  · rw [accesses]
    rfl
  · rw [accesses]
    show s.log ++ ((s.state.start change).next.task?.map Task.access).toList = s.log ++ []
    rw [turn]
    rfl

/-- Any other update stores every field of the state that it makes. -/
theorem performed_update_of_changed (idle : ∀ id, s.backed.store.task? id = none) {change : Change}
    (changed : (s.state.apply change).persisted ≠ s.state.persisted)
    (turn : s.state.start change = ⟨s.state.apply change, .waits task, []⟩) (storing : task.Storing .space)
    (after : task.after = (s.state.apply change).persisted) :
    Performed s (s.perform (.update change)) (.update change) := by
  have tasks : ∀ i, (s.take (.start change)).backed.store.task? i =
      if s.backed.store.started = i then some task else none := by
    intro i
    refine (s.backed.store.task?_after_start behaviour change i).trans ?_
    show (s.backed.store.task? i).or (if _ then (s.state.start change).next.task? else none) = _
    simp [idle, turn, Next.task?]
  have waits : (s.take (.start change)).backed.store.task? s.backed.store.started = some task := by simp [tasks]
  have alone : ∀ i, i ≠ s.backed.store.started → (s.take (.start change)).backed.store.task? i = none := by
    intro i other
    simp [tasks, Ne.symm other]
  obtain ⟨state, data, log, done⟩ := answer_storing waits storing alone
  have shown : (s.perform (.update change)).state = s.state.apply change :=
    state.trans ((s.backed.store.state_after_start behaviour change).trans (congrArg Turn.state turn))
  have accesses : (Operation.update change).accesses s.state =
      Field.all.map fun φ => φ.access (s.state.apply change).persisted := if_neg changed
  have made : (s.take (.start change)).log = s.log ++ [Field.space.access (s.state.apply change).persisted] := by
    show s.log ++ ((s.state.start change).next.task?.map Task.access).toList = _
    rw [turn, ← after, ← storing.access]
    rfl
  refine ⟨done, ?_, ?_, ?_⟩
  · rw [shown, ← load_store (s.state.apply change).persisted s.data, ← after]
    exact congrArg Persisted.load data
  · rw [accesses, ← after]
    exact data
  · refine log.trans ?_
    rw [made, accesses, after]
    simp [Field.all, Field.later]

/-- An operation makes its accesses, and what they store is what is shown. -/
theorem performed (idle : ∀ id, s.backed.store.task? id = none)
    (stored : Persisted.load s.data = s.state.persisted) (op : Operation) : Performed s (s.perform op) op := by
  cases op with
  | restore => exact performed_restore s
  | update change =>
    rcases s.state.start_cases change with ⟨same, turn⟩ | ⟨changed, task, turn, storing, after, -⟩
    · exact performed_update_of_unchanged idle stored same turn
    · exact performed_update_of_changed idle changed turn storing after
  | adjust a => exact performed_adjust idle stored a

theorem Sound.perform {before : KeyMap String} (h : Sound before s) (op : Operation) :
    Sound before (s.perform op) := by
  have done := performed h.idle h.stored op
  refine ⟨done.idle, done.stored, ?_, ?_⟩
  · rw [done.log, List.foldl_append, h.replay, done.data]
  · intro a ha
    rw [done.log] at ha
    rcases List.mem_append.mp ha with ha | ha
    · exact h.keys a ha
    · exact Operation.key_mem_of_accesses ha

theorem Sound.foldl_perform {before : KeyMap String} (h : Sound before s) (ops : List Operation) :
    Sound before (ops.foldl Session.perform s) := by
  induction ops generalizing s with
  | nil => exact h
  | cons op ops ih => exact ih (h.perform op)

theorem sound_run (data : KeyMap String) (ops : List Operation) : Sound data (run data ops) := by
  refine Sound.foldl_perform ?_ ops
  rw [restore_eq]
  refine ⟨fun _ => rfl, (persisted_state _).symm, rfl, ?_⟩
  intro a ha
  have loaded : a ∈ Operation.restore.accesses {} := ha
  exact Operation.key_mem_of_accesses loaded

end Session

/-- Accesses to other keys leave what is stored under a key. -/
theorem get?_foldl_update {key : String} {accesses : List Access} (others : ∀ a ∈ accesses, a.key ≠ key)
    (data : KeyMap String) : (accesses.foldl Access.update data).get? key = data.get? key := by
  induction accesses generalizing data with
  | nil => rfl
  | cons a rest ih =>
    rw [List.foldl_cons, ih fun b hb => others b (List.mem_cons_of_mem a hb)]
    exact get?_update_of_ne data (others a List.mem_cons_self)

/-- **What is shown stays stored.** After any operations, one after the other, nothing is left to be stored, storage
holds what is shown, and a restart shows it with the active space in view and the first page. Storage is what the
logged accesses made of it; they are to the keys of the fields only, and all other keys keep what was stored under them.
Every further operation logs its own accesses: none for a change that is not stored, or that changes nothing. -/
theorem stays_written_through (data : KeyMap String) (ops : List Operation) :
    (Session.run data ops).backed.store.waiting = [] ∧
    Persisted.load (Session.run data ops).data = (Session.run data ops).state.persisted ∧
    ((Session.run data ops).perform .restore).state =
      { (Session.run data ops).state with viewSpace := (Session.run data ops).state.activeSpace, page := .dashboard } ∧
    (Session.run data ops).log.foldl Access.update data = (Session.run data ops).data ∧
    (∀ a ∈ (Session.run data ops).log, a.key ∈ Field.all.map Field.key) ∧
    (∀ key ∉ Field.all.map Field.key, (Session.run data ops).data.get? key = data.get? key) ∧
    ∀ op, ((Session.run data ops).perform op).log =
      (Session.run data ops).log ++ op.accesses (Session.run data ops).state := by
  have sound := Session.sound_run data ops
  refine ⟨Flight.waiting_eq_nil sound.idle, sound.stored, ?_, sound.replay, sound.keys, ?_, ?_⟩
  · have restored : ((Session.run data ops).perform .restore).state =
        (Persisted.load (Session.run data ops).data).state := by
      rw [Session.perform, Session.restore_eq]
      rfl
    rw [restored, sound.stored]
    rfl
  · intro key other
    rw [← sound.replay]
    refine get?_foldl_update ?_ data
    rintro a ha rfl
    exact other (sound.keys a ha)
  · intro op
    exact (Session.performed sound.idle sound.stored op).log

/-- A theme that is none, and a setting of somebody else. -/
def garbled : KeyMap String := .ofList [("ui.theme", "neon"), ("window", "800x600")]

theorem garbled_stays_written_through :
    "window" ∉ Field.all.map Field.key ∧
    (Session.run garbled [.update .toggleSidebar]).data.get? "window" = some "800x600" ∧
    Access.set "ui.sidebar_collapsed" "true" ∈ (Session.run garbled [.update .toggleSidebar]).log ∧
    (Access.set "ui.sidebar_collapsed" "true").key ∈ Field.all.map Field.key := by
  have other : "window" ∉ Field.all.map Field.key := by decide
  have logged : Access.set "ui.sidebar_collapsed" "true" ∈ (Session.run garbled [.update .toggleSidebar]).log := by
    rw [Session.run, Session.restore_eq]
    decide
  obtain ⟨-, -, -, -, keys, others, -⟩ := stays_written_through garbled [.update .toggleSidebar]
  exact ⟨other, others "window" other, logged, keys _ logged⟩

end Settings

end Switchboard
