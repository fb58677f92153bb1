import Switchboard.Proofs.Settings.Backed

/-!
# Updates that overlap

Updates store the persisted state as they left it, one field after the other, and other updates may come in between. An
update overtakes an earlier one when it stores a field that the earlier one is still to store; what the earlier one then
stores is older than what it replaces. Where all accesses succeed and no update overtakes another, storage is behind
the state only in fields that the last update is still to store (`Kept`), so when all updates have returned what is
stored is what is shown (`loads_as_shown`). Otherwise it need not be (`overtaken_is_lost`).
-/

namespace Switchboard.Settings

/-- The user interface restored from storage, after a run. -/
def reached (data : KeyMap String) (os : List Moment) : Backed := (Backed.restored data).run os

/-- Whether a moment is no access that fails. -/
def succeeds : Moment → Bool
  | .reply _ (.error _) => false
  | _ => true

/-- Whether an access comes ahead of one to the same key that an update started earlier still has to make. -/
def overtakes (f : Store) : Moment → Bool
  | .reply id _ => (List.range id).any fun i =>
      (f.task? i).any fun earlier => (f.task? id).any fun task => earlier.keys.contains task.access.key
  | _ => false

/-- Whether no update overtakes another in a run. -/
def inOrder (b : Backed) : List Moment → Bool
  | [] => true
  | o :: os => !overtakes b.store o && inOrder (b.after o) os

theorem not_mem_keys_of_not_overtakes {f : Store} {id i : Nat} {result : Except String Unit} {task earlier : Task}
    (h : overtakes f (.reply id result) = false) (waits : f.task? id = some task) (hi : i < id)
    (waits' : f.task? i = some earlier) : task.access.key ∉ earlier.keys := by
  intro mem
  rw [overtakes, List.any_eq_false] at h
  apply h i (List.mem_range.mpr hi)
  rw [waits', Option.any_some, waits, Option.any_some]
  exact List.contains_iff_mem.mpr mem

/-! ## How far storage is behind -/

/-- The last update that is to store a field has yet to do so, and stores what is shown. -/
def Due (f : Store) (φ : Field) : Prop :=
  ∃ id task, f.task? id = some task ∧ φ.key ∈ task.keys ∧ task.after = f.state.persisted ∧
    ∀ i t, f.task? i = some t → φ.key ∈ t.keys → i ≤ id

/-- No update is to store a field, and what is stored is what is shown. -/
def Settled (b : Backed) (φ : Field) : Prop :=
  (∀ i t, b.store.task? i = some t → φ.key ∉ t.keys) ∧ φ.Agree (Persisted.load b.data) b.store.state.persisted

/-- Storage is behind only in fields that are still to be stored. -/
structure Kept (b : Backed) : Prop where
  numbered : b.store.Numbered
  storing : ∀ id task, b.store.task? id = some task → ∃ φ, task.Storing φ
  field : ∀ φ, Due b.store φ ∨ Settled b φ
  returned : ∀ r ∈ b.returned, r.2 = .ok ()

namespace Kept

open Backed (task?_access state_access data_access)

variable {b : Backed}

theorem restored (data : KeyMap String) : Kept (Backed.restored data) := by
  have shown : (Backed.restored data).store.state.persisted = Persisted.load data := persisted_state _
  have none : ∀ id, (Backed.restored data).store.task? id = none := fun _ => rfl
  refine ⟨fun id _ => none id, fun id task waits => ?_, fun φ => Or.inr ⟨fun id task waits => ?_, ?_⟩,
    fun r hr => absurd hr List.not_mem_nil⟩
  · cases (none id).symm.trans waits
  · cases (none id).symm.trans waits
  · rw [shown]
    exact Field.Agree.refl _ φ

/-- What is shown of the persisted fields stays, and so do the updates that wait and what they are to store. -/
theorem same_field (h : Kept b) {c : Backed} (persisted : c.store.state.persisted = b.store.state.persisted)
    (tasks : ∀ i, c.store.task? i = b.store.task? i) (data : c.data = b.data) (φ : Field) :
    Due c.store φ ∨ Settled c φ := by
  rcases h.field φ with ⟨id, task, waits, mem, after, last⟩ | ⟨free, agree⟩
  · refine Or.inl ⟨id, task, (tasks id).trans waits, mem, after.trans persisted.symm, fun i t waits' => ?_⟩
    rw [tasks] at waits'
    exact last i t waits'
  · refine Or.inr ⟨fun i t waits => ?_, by rw [persisted, data]; exact agree⟩
    rw [tasks] at waits
    exact free i t waits

theorem task?_start (change : Change) (i : Nat) : (b.after (.start change)).store.task? i =
    (b.store.task? i).or (if b.store.started = i then (b.store.state.start change).next.task? else none) :=
  b.store.task?_after_start behaviour change i

/-- An update that has nothing to store returns at once. -/
theorem start_returns (h : Kept b) {change : Change}
    (same : (b.store.state.apply change).persisted = b.store.state.persisted)
    (turn : b.store.state.start change = ⟨b.store.state.apply change, .ends (.ok ()), []⟩) :
    Kept (b.after (.start change)) := by
  have state : (b.after (.start change)).store.state = b.store.state.apply change :=
    (b.store.state_after_start behaviour change).trans (congrArg Turn.state turn)
  have tasks : ∀ i, (b.after (.start change)).store.task? i = b.store.task? i := by
    intro i
    rw [task?_start, turn]
    exact (congrArg _ (ite_self none)).trans Option.or_none
  refine ⟨h.numbered.after behaviour _, fun id task waits => ?_, h.same_field ?_ tasks rfl, fun r hr => ?_⟩
  · rw [tasks] at waits
    exact h.storing id task waits
  · rw [state]
    exact same
  · rw [Backed.returned_start, turn] at hr
    rcases List.mem_append.mp hr with hr | hr
    · exact h.returned r hr
    · rw [List.mem_singleton.mp hr]

/-- An update that is to store every field is the last one for each of them. -/
theorem start_stores (h : Kept b) {change : Change} {task : Task}
    (turn : b.store.state.start change = ⟨b.store.state.apply change, .waits task, []⟩) (storing : task.Storing .space)
    (after : task.after = (b.store.state.apply change).persisted) : Kept (b.after (.start change)) := by
  have state : (b.after (.start change)).store.state = b.store.state.apply change :=
    (b.store.state_after_start behaviour change).trans (congrArg Turn.state turn)
  have numbered : (b.after (.start change)).store.Numbered := h.numbered.after behaviour _
  have own : (b.after (.start change)).store.task? b.store.started = some task := by
    rw [task?_start, h.numbered _ (Nat.le_refl _), Option.none_or, if_pos rfl, turn]
    rfl
  refine ⟨numbered, fun id t waits => ?_, fun φ => Or.inl ⟨b.store.started, task, own, ?_, ?_, ?_⟩, fun r hr => ?_⟩
  · rw [task?_start, Option.or_eq_some_iff] at waits
    rcases waits with old | ⟨-, new⟩
    · exact h.storing id t old
    · split at new
      · rw [turn] at new
        cases new
        exact ⟨.space, storing⟩
      · cases new
  · rw [storing.mem_keys_iff]
    cases φ <;> decide
  · rw [state, after]
  · intro i t waits _
    have given := numbered.lt_of_waits waits
    exact Nat.le_of_lt_succ given
  · rw [Backed.returned_start, turn] at hr
    rcases List.mem_append.mp hr with hr | hr
    · exact h.returned r hr
    · cases hr

theorem start (h : Kept b) (change : Change) : Kept (b.after (.start change)) := by
  rcases b.store.state.start_cases change with ⟨same, turn⟩ | ⟨-, task, turn, storing, after, -⟩
  · exact h.start_returns same turn
  · exact h.start_stores turn storing after

theorem adjust (h : Kept b) (a : Adjustment) : Kept (b.after (.adjust a)) := by
  have persisted : (b.store.state.adjust a).persisted = b.store.state.persisted := by
    cases a <;> rfl
  refine ⟨h.numbered, h.storing, h.same_field persisted (fun _ => rfl) rfl, ?_⟩
  intro r hr
  exact h.returned r ((List.mem_append.mp hr).resolve_right nofun)

section Access

variable {id : Nat} {task : Task} {φ : Field}

/-- What is still to be stored after a successful access was to be stored before; the field just stored is left to
other updates only. -/
theorem waits_before (waits : b.store.task? id = some task) (storing : task.Storing φ) {i : Nat} {t : Task}
    {ψ : Field} (waits' : (b.after (.reply id (.ok ()))).store.task? i = some t) (mem : ψ.key ∈ t.keys) :
    ∃ t', b.store.task? i = some t' ∧ ψ.key ∈ t'.keys ∧ (ψ = φ → id ≠ i) := by
  rw [task?_access waits] at waits'
  obtain ⟨-, -, left⟩ := b.store.state.resume_ok_fields storing
  split at waits'
  · rename_i hi
    subst hi
    have later := (left ψ).mp ⟨t, waits', mem⟩
    refine ⟨task, waits, storing.mem_keys_iff.mpr (Or.inr later), ?_⟩
    rintro rfl
    exact absurd later ψ.not_mem_later
  · rename_i hi
    exact ⟨t, waits', mem, fun _ => hi⟩

/-- Other updates wait on. -/
theorem waits_after (waits : b.store.task? id = some task) {i : Nat} {t : Task} (waits' : b.store.task? i = some t)
    (other : id ≠ i) : (b.after (.reply id (.ok ()))).store.task? i = some t := by
  rw [task?_access waits, if_neg other]
  exact waits'

/-- The field that is stored. -/
theorem field_access (h : Kept b) (waits : b.store.task? id = some task) (storing : task.Storing φ)
    (first : overtakes b.store (.reply id (.ok ())) = false) :
    Due (b.after (.reply id (.ok ()))).store φ ∨ Settled (b.after (.reply id (.ok ()))) φ := by
  have own : φ.key ∈ task.keys := storing.mem_keys_iff.mpr (Or.inl rfl)
  rcases h.field φ with ⟨id', task', waits', mem, after, last⟩ | ⟨free, -⟩
  · by_cases hi : id = id'
    · -- the last update to store the field has done so, and no earlier one is left
      subst hi
      cases waits.symm.trans waits'
      refine Or.inr ⟨fun i t waits'' mem' => ?_, ?_⟩
      · obtain ⟨t', old, mem', other⟩ := waits_before waits storing waits'' mem'
        have earlier : i < id := Nat.lt_of_le_of_ne (last i t' old mem') fun e => other rfl e.symm
        have absent := not_mem_keys_of_not_overtakes first waits earlier old
        rw [storing.access, Field.key_access] at absent
        exact absent mem'
      · rw [data_access waits storing, state_access waits storing, ← after]
        exact agree_load_update task.after b.data φ
    · -- a later update will store the field again
      refine Or.inl ⟨id', task', waits_after waits waits' hi, mem, ?_, fun i t waits'' mem' => ?_⟩
      · rw [state_access waits storing]
        exact after
      · obtain ⟨t', old, mem', -⟩ := waits_before waits storing waits'' mem'
        exact last i t' old mem'
  · exact absurd own (free id task waits)

/-- Any other field. -/
theorem field_access_of_ne (h : Kept b) (waits : b.store.task? id = some task) (storing : task.Storing φ) {ψ : Field}
    (other : φ ≠ ψ) :
    Due (b.after (.reply id (.ok ()))).store ψ ∨ Settled (b.after (.reply id (.ok ()))) ψ := by
  have state := state_access waits storing
  rcases h.field ψ with ⟨id', task', waits', mem, after, last⟩ | ⟨free, agree⟩
  · have last : ∀ i t, (b.after (.reply id (.ok ()))).store.task? i = some t → ψ.key ∈ t.keys → i ≤ id' := by
      intro i t waits'' mem'
      obtain ⟨t', old, mem', -⟩ := waits_before waits storing waits'' mem'
      exact last i t' old mem'
    by_cases hi : id = id'
    · subst hi
      cases waits.symm.trans waits'
      obtain ⟨-, goes_on, left⟩ := b.store.state.resume_ok_fields storing
      obtain ⟨t, next, mem'⟩ := (left ψ).mpr ((storing.mem_keys_iff.mp mem).resolve_left (Ne.symm other))
      refine Or.inl ⟨id, t, ?_, mem', ?_, last⟩
      · rw [task?_access waits, if_pos rfl]
        exact next
      · rw [(goes_on t next).1, state]
        exact after
    · refine Or.inl ⟨id', task', waits_after waits waits' hi, mem, ?_, last⟩
      rw [state]
      exact after
  · refine Or.inr ⟨fun i t waits'' mem' => ?_, ?_⟩
    · obtain ⟨t', old, mem', -⟩ := waits_before waits storing waits'' mem'
      exact free i t' old mem'
    · rw [data_access waits storing, state]
      exact (agree_load_update_of_ne task.after b.data other).trans agree

/-- An access succeeds, ahead of no earlier one to its key. -/
theorem access (h : Kept b) (waits : b.store.task? id = some task)
    (first : overtakes b.store (.reply id (.ok ())) = false) : Kept (b.after (.reply id (.ok ()))) := by
  obtain ⟨φ, storing⟩ := h.storing id task waits
  obtain ⟨-, goes_on, -⟩ := b.store.state.resume_ok_fields storing
  refine ⟨h.numbered.after behaviour _, fun i t waits' => ?_, fun ψ => ?_, fun r hr => ?_⟩
  · rw [task?_access waits] at waits'
    split at waits'
    · exact (goes_on t waits').2
    · exact h.storing i t waits'
  · by_cases same : φ = ψ
    · subst same
      exact h.field_access waits storing first
    · exact h.field_access_of_ne waits storing same
  · rw [Backed.returned_reply waits] at hr
    rcases List.mem_append.mp hr with hr | hr
    · exact h.returned r hr
    · rcases b.store.state.resume_ok storing with ⟨-, turn⟩ | ⟨_, _, -, turn, -⟩
      · rw [turn] at hr
        rw [List.mem_singleton.mp hr]
      · rw [turn] at hr
        cases hr

end Access

theorem after (h : Kept b) {o : Moment} (succeeds : succeeds o = true) (first : overtakes b.store o = false) :
    Kept (b.after o) := by
  cases o with
  | start change => exact h.start change
  | reply id result =>
    cases result with
    | ok u =>
      cases waits : b.store.task? id with
      | none =>
        rw [Backed.after_of_none waits]
        exact h
      | some task => exact h.access waits first
    | error message => cases succeeds
  | adjust a => exact h.adjust a

theorem run (h : Kept b) {os : List Moment} (succeed : os.all succeeds = true) (in_order : inOrder b os = true) :
    Kept (b.run os) := by
  induction os generalizing b with
  | nil => exact h
  | cons o os ih =>
    rw [List.all_cons, Bool.and_eq_true] at succeed
    rw [inOrder, Bool.and_eq_true, Bool.not_eq_true'] at in_order
    exact ih (h.after succeed.1 in_order.1) succeed.2 in_order.2

/-- When nothing waits, nothing is left to be stored. -/
theorem load_eq (h : Kept b) (finished : b.store.waiting = []) :
    Persisted.load b.data = b.store.state.persisted := by
  have none : ∀ id, b.store.task? id = none := fun id => by rw [Flight.task?, finished]; rfl
  refine Persisted.ext_fields fun φ => ?_
  rcases h.field φ with ⟨id, task, waits, -⟩ | ⟨-, agree⟩
  · rw [none] at waits
    cases waits
  · exact agree

end Kept

/-- **What is stored is what is shown.** If all accesses succeed and no update overtakes another, then as soon as all
updates have returned they have returned without an error, and storage holds what is shown. -/
theorem loads_as_shown (data : KeyMap String) (os : List Moment) (succeed : os.all succeeds = true)
    (in_order : inOrder (Backed.restored data) os = true) (finished : (reached data os).store.waiting = []) :
    (∀ r ∈ (reached data os).returned, r.2 = .ok ()) ∧
    Persisted.load (reached data os).data = (reached data os).store.state.persisted := by
  have kept : Kept (reached data os) := (Kept.restored data).run succeed in_order
  exact ⟨kept.returned, kept.load_eq finished⟩

/-- The side bar is folded while the theme is being stored, and stored after it. -/
def abreast : List Moment :=
  [.start (.theme .dark), .reply 0 (.ok ()), .start (.sidebar true), .reply 0 (.ok ()), .reply 1 (.ok ()),
    .reply 0 (.ok ()), .reply 1 (.ok ()), .reply 1 (.ok ())]

theorem abreast_loads_as_shown : Persisted.load (reached .empty abreast).data = ⟨none, .dark, true⟩ :=
  (loads_as_shown .empty abreast (by decide) (by decide) rfl).2

/-- The side bar is folded while the theme is being stored, and stored before it. -/
def ahead : List Moment :=
  [.start (.theme .dark), .reply 0 (.ok ()), .start (.sidebar true), .reply 1 (.ok ()), .reply 1 (.ok ()),
    .reply 1 (.ok ()), .reply 0 (.ok ()), .reply 0 (.ok ())]

/-- All updates return without an error, and yet storage does not hold what is shown. -/
theorem overtaken_is_lost : ¬ ∀ (data : KeyMap String) (os : List Moment), os.all succeeds = true →
    (reached data os).store.waiting = [] → (∀ r ∈ (reached data os).returned, r.2 = .ok ()) →
    Persisted.load (reached data os).data = (reached data os).store.state.persisted := by
  intro claim
  have returned : (reached .empty ahead).returned = [(1, .ok ()), (0, .ok ())] := rfl
  have shown : (reached .empty ahead).store.state.persisted = ⟨none, .dark, true⟩ := rfl
  have stored : Persisted.load (reached .empty ahead).data = ⟨none, .dark, false⟩ := by decide
  have same := claim .empty ahead (by decide) rfl (by rw [returned]; simp)
  rw [shown, stored] at same
  cases same

end Switchboard.Settings
