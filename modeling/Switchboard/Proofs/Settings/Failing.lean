import Switchboard.Proofs.Settings.Backed

/-!
# Updates that fail

An update by itself makes three accesses, and any of them may fail. The update ends with the first one that does, and
its change is taken back; but the fields that were stored before stay stored. `Underway` says how far an update has
come and `Failed` what a failure leaves behind. So after a failed update what is shown is what was shown before, while
storage holds the change if the field that changed was stored ahead of the failure (`failed_update`,
`failed_change_stays`).
-/

namespace Switchboard.Settings

/-- The place of a field among the accesses of an update. -/
def Field.place : Field → Nat
  | space => 0
  | theme => 1
  | sidebar => 2

/-- The fields ahead of the next one are this one and those ahead of it. -/
theorem Field.place_lt_iff_of_later {φ ψ : Field} (h : φ.later = ψ :: ψ.later) (χ : Field) :
    χ.place < ψ.place ↔ φ = χ ∨ χ.place < φ.place := by
  revert h
  cases φ <;> cases ψ <;> cases χ <;> decide

/-- The field that a change is about. -/
def Change.field : Change → Field
  | activeSpace _ => .space
  | theme _ => .theme
  | sidebar _ | toggleSidebar => .sidebar

/-- A change leaves the other fields as they are. -/
theorem agree_apply_of_ne (s : State) {change : Change} {φ : Field} (h : φ ≠ change.field) :
    φ.Agree (s.apply change).persisted s.persisted := by
  cases change <;> cases φ <;> first | rfl | exact absurd rfl h

/-- A change leaves the page as it is. -/
theorem page_apply (s : State) (change : Change) : (s.apply change).page = s.page := by
  cases change <;> rfl

/-- A change that nothing else followed is taken back. -/
theorem undo_apply (s : State) (change : Change) {task : Task} (previous : task.previous = s)
    (after : task.after = (s.apply change).persisted) : (s.apply change).undo task = s := by
  rw [State.undo, if_pos after.symm, State.rollBack, previous, page_apply]

/-- The result of an access that may fail with a message. -/
def result : Option String → Except String Unit
  | none => .ok ()
  | some message => .error message

/-- The accesses of an update to these fields come, and some of them fail. -/
def Backed.answer (b : Backed) (id : Nat) (failures : Field → Option String) (fields : List Field) : Backed :=
  b.run (fields.map fun φ => .reply id (result (failures φ)))

/-- An update by itself, where the accesses to some fields fail. -/
def Backed.attempt (b : Backed) (change : Change) (failures : Field → Option String) : Backed :=
  (b.after (.start change)).answer b.store.started failures Field.all

theorem Backed.answer_cons (b : Backed) (id : Nat) (failures : Field → Option String) (φ : Field)
    (fields : List Field) : b.answer id failures (φ :: fields) =
      (b.after (.reply id (result (failures φ)))).answer id failures fields := rfl

/-- Once an update is over, replies to it change nothing. -/
theorem Backed.answer_of_over {b : Backed} {id : Nat} (finished : b.store.task? id = none)
    (failures : Field → Option String) (fields : List Field) : b.answer id failures fields = b := by
  induction fields with
  | nil => rfl
  | cons φ fields ih => rw [answer_cons, after_of_none finished, ih]

/-! ## How far an update has come -/

section

variable (before : Backed) (change : Change)

/-- What is stored once the fields ahead of `φ` are. -/
def StoredTo (φ : Field) (data : KeyMap String) : Prop :=
  ∀ ψ : Field, ψ.Agree (Persisted.load data)
    (if ψ.place < φ.place then (before.store.state.apply change).persisted else before.store.state.persisted)

/-- The update is about to store a field. -/
structure Underway (φ : Field) (b : Backed) : Prop where
  waits : ∃ task, b.store.task? before.store.started = some task ∧ task.Storing φ ∧
    task.after = (before.store.state.apply change).persisted ∧ task.previous = before.store.state
  state : b.store.state = before.store.state.apply change
  stored : StoredTo before change φ b.data
  returned : b.returned = before.returned

/-- The access of a field failed. -/
structure Failed (φ : Field) (message : String) (b : Backed) : Prop where
  finished : b.store.task? before.store.started = none
  state : b.store.state = before.store.state
  stored : StoredTo before change φ b.data
  returned : b.returned = before.returned ++ [(before.store.started, .error (.settings φ.key message))]

/-- The update returned without an error. -/
structure Succeeded (b : Backed) : Prop where
  finished : b.store.task? before.store.started = none
  returned : b.returned = before.returned ++ [(before.store.started, .ok ())]

/-- The update succeeded, or it ended with the first access that failed. -/
def Ended (failures : Field → Option String) (b : Backed) : Prop :=
  Succeeded before b ∨ ∃ (φ : Field) (message : String), failures φ = some message ∧
    (∀ ψ : Field, ψ.place < φ.place → failures ψ = none) ∧ Failed before change φ message b

variable {before change} {b : Backed} {φ : Field} {failures : Field → Option String}

/-- A failing access ends the update. -/
theorem Underway.fail (h : Underway before change φ b) (message : String) :
    Failed before change φ message (b.after (.reply before.store.started (.error message))) := by
  obtain ⟨task, waits, storing, after, previous⟩ := h.waits
  have turn : b.store.state.resume (.error message) task =
      ⟨b.store.state.undo task, .ends (.error (.settings φ.key message)), []⟩ := by
    rw [State.resume, storing.access, Field.key_access]
  refine ⟨?_, ?_, h.stored, ?_⟩
  · refine (b.store.task?_after_reply behaviour waits _ _).trans ?_
    rw [if_pos rfl]
    exact congrArg (fun turn => turn.next.task?) turn
  · refine (b.store.state_after_reply behaviour waits _).trans ((congrArg Turn.state turn).trans ?_)
    show b.store.state.undo task = before.store.state
    rw [h.state]
    exact undo_apply _ _ previous after
  · rw [Backed.returned_reply waits, turn, h.returned]
    rfl

/-- After a successful access the update goes on with the next field, or it has succeeded. -/
theorem Underway.goOn (h : Underway before change φ b) :
    (φ.later = [] ∧ Succeeded before (b.after (.reply before.store.started (.ok ())))) ∨
    ∃ ψ, φ.later = ψ :: ψ.later ∧ Underway before change ψ (b.after (.reply before.store.started (.ok ()))) := by
  obtain ⟨task, waits, storing, after, previous⟩ := h.waits
  rcases b.store.state.resume_ok storing with ⟨last, turn⟩ | ⟨ψ, task', later, turn, storing', after', previous'⟩
  · refine Or.inl ⟨last, ?_, ?_⟩
    · rw [Backed.task?_access waits, if_pos rfl, turn]
      rfl
    · rw [Backed.returned_reply waits, turn, h.returned]
      rfl
  · refine Or.inr ⟨ψ, later, ⟨task', ?_, storing', after'.trans after, previous'.trans previous⟩, ?_, ?_, ?_⟩
    · rw [Backed.task?_access waits, if_pos rfl, turn]
      rfl
    · rw [Backed.state_access waits storing, h.state]
    · intro χ
      rw [Backed.data_access waits storing, after]
      have ahead := Field.place_lt_iff_of_later later χ
      by_cases own : φ = χ
      · subst own
        rw [if_pos (ahead.mpr (Or.inl rfl))]
        exact agree_load_update _ _ φ
      · rw [or_iff_right own] at ahead
        simp only [ahead]
        exact (agree_load_update_of_ne _ _ own).trans (h.stored χ)
    · rw [Backed.returned_reply waits, turn, h.returned]
      exact List.append_nil _

/-- An update starts to store, or it has succeeded at once. -/
theorem attempt_start (idle : ∀ id, before.store.task? id = none)
    (stored : Persisted.load before.data = before.store.state.persisted) :
    Succeeded before (before.after (.start change)) ∨
    (before.store.state.apply change).persisted ≠ before.store.state.persisted ∧
      Underway before change .space (before.after (.start change)) := by
  have own : (before.after (.start change)).store.task? before.store.started =
      (before.store.state.start change).next.task? := by
    refine (before.store.task?_after_start behaviour change _).trans ?_
    rw [idle, Option.none_or, if_pos rfl]
    rfl
  rcases before.store.state.start_cases change with ⟨-, turn⟩ | ⟨changed, task, turn, storing, after, previous⟩
  · refine Or.inl ⟨by rw [own, turn]; rfl, ?_⟩
    rw [Backed.returned_start, turn]
    rfl
  · refine Or.inr ⟨changed, ⟨task, by rw [own, turn]; rfl, storing, after, previous⟩, ?_, fun ψ => ?_, ?_⟩
    · exact (before.store.state_after_start behaviour change).trans (congrArg Turn.state turn)
    · have none_ahead : ¬ψ.place < Field.space.place := Nat.not_lt_zero _
      rw [if_neg none_ahead]
      show ψ.Agree (Persisted.load before.data) _
      rw [stored]
      exact Field.Agree.refl _ ψ
    · rw [Backed.returned_start, turn]
      exact List.append_nil _

/-- The rest of an update none of whose accesses failed so far. -/
theorem Underway.answer (h : Underway before change φ b) (ahead : ∀ ψ : Field, ψ.place < φ.place → failures ψ = none) :
    Ended before change failures (b.answer before.store.started failures (φ :: φ.later)) := by
  -- on the fields still to come after `φ`
  induction later : φ.later generalizing φ b with
  | nil =>
    rw [Backed.answer_cons]
    cases fails : failures φ with
    | none =>
      rcases h.goOn with ⟨-, succeeded⟩ | ⟨ψ, goes_on, -⟩
      · exact Or.inl succeeded
      · cases later.symm.trans goes_on
    | some message => exact Or.inr ⟨φ, message, fails, ahead, h.fail message⟩
  | cons ψ rest ih =>
    rw [Backed.answer_cons]
    cases fails : failures φ with
    | none =>
      rcases h.goOn with ⟨last, -⟩ | ⟨χ, goes_on, underway⟩
      · cases last.symm.trans later
      · cases later.symm.trans goes_on
        refine ih underway (fun χ hχ => ?_) rfl
        rcases (Field.place_lt_iff_of_later goes_on χ).mp hχ with rfl | earlier
        · exact fails
        · exact ahead χ earlier
    | some message =>
      have failed := h.fail message
      rw [result, Backed.answer_of_over failed.finished]
      exact Or.inr ⟨φ, message, fails, ahead, failed⟩

/-- An update by itself changes nothing that outlives the program, or it stores the change. -/
theorem attempt_cases (idle : ∀ id, before.store.task? id = none)
    (stored : Persisted.load before.data = before.store.state.persisted) :
    Succeeded before (before.attempt change failures) ∨
    (before.store.state.apply change).persisted ≠ before.store.state.persisted ∧
      Ended before change failures (before.attempt change failures) := by
  rcases attempt_start idle stored with succeeded | ⟨changed, underway⟩
  · left
    rw [Backed.attempt, Backed.answer_of_over succeeded.finished]
    exact succeeded
  · exact Or.inr ⟨changed, underway.answer fun ψ h => absurd h (Nat.not_lt_zero _)⟩

/-- The fields ahead of a failure make up the change, or none of it. -/
theorem StoredTo.load_eq {data : KeyMap String} (h : StoredTo before change φ data) :
    Persisted.load data = if change.field.place < φ.place then (before.store.state.apply change).persisted
      else before.store.state.persisted := by
  refine Persisted.ext_fields fun ψ => (h ψ).trans ?_
  by_cases own : ψ = change.field
  · rw [own]
    exact Field.Agree.refl _ _
  · have same := agree_apply_of_ne before.store.state own
    split <;> split
    · exact Field.Agree.refl _ _
    · exact same
    · exact same.symm
    · exact Field.Agree.refl _ _

end

/-- **What a failed update leaves behind.** If an update by itself returns an error, the state is what it was. The error
names the first field whose access failed; storage is what it was if the field that changed is not ahead of that one,
and otherwise a restart brings up the change. -/
theorem failed_update {b : Backed} (idle : ∀ id, b.store.task? id = none)
    (stored : Persisted.load b.data = b.store.state.persisted) (change : Change) (failures : Field → Option String)
    {failure : Failure}
    (failed : (b.attempt change failures).returned = b.returned ++ [(b.store.started, .error failure)]) :
    (b.attempt change failures).store.state = b.store.state ∧
    (b.store.state.apply change).persisted ≠ b.store.state.persisted ∧
    ∃ (φ : Field) (message : String), failures φ = some message ∧
      (∀ ψ : Field, ψ.place < φ.place → failures ψ = none) ∧ failure = .settings φ.key message ∧
      Persisted.load (b.attempt change failures).data =
        if change.field.place < φ.place then (b.store.state.apply change).persisted else Persisted.load b.data := by
  rcases attempt_cases idle stored with succeeded | ⟨changed, succeeded | ⟨φ, message, fails, ahead, left⟩⟩
  · cases List.append_cancel_left (succeeded.returned.symm.trans failed)
  · cases List.append_cancel_left (succeeded.returned.symm.trans failed)
  · have same := List.append_cancel_left (left.returned.symm.trans failed)
    cases same
    refine ⟨left.state, changed, φ, message, fails, ahead, rfl, ?_⟩
    rw [left.stored.load_eq, stored]

/-- The side bar is stored last, and that fails. -/
def full : Field → Option String
  | .sidebar => some "disk full"
  | _ => none

theorem full_leaves_change :
    ((Backed.restored .empty).attempt (.theme .dark) full).store.state = (Persisted.load .empty).state ∧
    Persisted.load ((Backed.restored .empty).attempt (.theme .dark) full).data = ⟨none, .dark, false⟩ := by
  have failed : ((Backed.restored .empty).attempt (.theme .dark) full).returned =
      (Backed.restored .empty).returned ++ [(0, .error (.settings sidebarKey "disk full"))] := rfl
  obtain ⟨state, -, φ, message, fails, -, -, stored⟩ := failed_update (fun _ => rfl) rfl (.theme .dark) full failed
  cases φ with
  | space | theme => cases fails
  | sidebar => exact ⟨state, stored.trans (if_pos (by decide))⟩

/-- An update returns an error, and yet storage holds its change. -/
theorem failed_change_stays : ¬ ∀ (b : Backed) (change : Change) (failures : Field → Option String) (failure : Failure),
    (∀ id, b.store.task? id = none) → Persisted.load b.data = b.store.state.persisted →
    (b.attempt change failures).returned = b.returned ++ [(b.store.started, .error failure)] →
    (b.attempt change failures).store.state = b.store.state ∧
      Persisted.load (b.attempt change failures).data = Persisted.load b.data := by
  intro claim
  have stored : Persisted.load ((Backed.restored .empty).attempt (.theme .dark) full).data = ⟨none, .dark, false⟩ := by
    decide
  have before : Persisted.load (Backed.restored .empty).data = ⟨none, .system, false⟩ := by decide
  obtain ⟨-, same⟩ := claim (Backed.restored .empty) (.theme .dark) full _ (fun _ => rfl) rfl rfl
  rw [stored, before] at same
  cases same

end Switchboard.Settings
