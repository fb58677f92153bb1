import Switchboard.Settings.Store
import Switchboard.Proofs.Flight
import Switchboard.Proofs.Settings.Field

/-!
# Updates and their storage

`Backed` is the state of the user interface with its updates in flight and the storage behind it. An access acts as
its reply comes: what is stored changes if the access succeeds, and stays if it fails. An update stores the three fields
of the state it made, one after the other; `Task.Storing` says at which of them it is (`Task.Storing.first`,
`Task.Storing.resume_ok`).
-/

namespace Switchboard

/-- How an operation ended, if it did. -/
def Next.outcome? {Task : Type} : Next Task → Option (Except Failure Unit)
  | .waits _ => none
  | .ends outcome => some outcome

namespace Settings

/-- What happens to the user interface: an update starts, an access succeeds or fails, or a change is not stored. -/
abbrev Moment := Occurrence Change (Except String Unit) Adjustment

/-! ## Updates with storage -/

/-- The store with the storage behind it, and the updates that returned. -/
structure Backed where
  store : Store
  data : KeyMap String
  returned : List (Nat × Except Failure Unit) := []

namespace Backed

/-- What is stored after a moment. -/
def stored (b : Backed) : Moment → KeyMap String
  | .reply id (.ok ()) => ((b.store.task? id).map fun task => task.access.update b.data).getD b.data
  | _ => b.data

/-- The update that returns in a moment, and how. -/
def returns (b : Backed) : Moment → List (Nat × Except Failure Unit)
  | .start change => ((b.store.state.start change).next.outcome?.map (b.store.started, ·)).toList
  | .reply id result =>
    ((b.store.task? id).bind fun task => (b.store.state.resume result task).next.outcome?.map (id, ·)).toList
  | .adjust _ => []

/-- Takes in a moment. -/
def after (b : Backed) (o : Moment) : Backed := ⟨b.store.after behaviour o, b.stored o, b.returned ++ b.returns o⟩

/-- Takes in one moment after the other. -/
def run (b : Backed) (os : List Moment) : Backed := os.foldl after b

/-- The user interface as it is restored from storage. -/
def restored (data : KeyMap String) : Backed := { store := { state := (Persisted.load data).state }, data := data }

/-- A reply that no update waits for changes nothing. -/
theorem after_of_none {b : Backed} {id : Nat} (none : b.store.task? id = none) (result : Except String Unit) :
    b.after (.reply id result) = b := by
  have store : b.store.after behaviour (.reply id result) = b.store := b.store.after_reply_of_none behaviour none result
  have data : b.stored (.reply id result) = b.data := by
    cases result with
    | ok u => simp only [Backed.stored, none, Option.map_none, Option.getD_none]
    | error message => rfl
  have returns : b.returns (.reply id result) = [] := by
    simp only [Backed.returns, none, Option.bind_none, Option.toList_none]
  rw [Backed.after, store, data, returns, List.append_nil]

end Backed

/-! ## Turns of an update -/

/-- The keys that an update still has to access. -/
def Task.keys (task : Task) : List String := (task.access :: task.rest).map Access.key

/-- The update is about to store a field of the state it made, and then the fields after it. -/
structure Task.Storing (task : Task) (φ : Field) : Prop where
  access : task.access = φ.access task.after
  rest : task.rest = φ.later.map fun ψ => ψ.access task.after

theorem Task.Storing.keys {task : Task} {φ : Field} (h : task.Storing φ) :
    task.keys = (φ :: φ.later).map Field.key := by
  rw [Task.keys, h.access, h.rest, List.map_cons, List.map_map, List.map_cons, Field.key_access]
  congr 1
  exact List.map_congr_left fun ψ _ => Field.key_access task.after ψ

theorem Task.Storing.mem_keys_iff {task : Task} {φ ψ : Field} (h : task.Storing φ) :
    ψ.key ∈ task.keys ↔ ψ = φ ∨ ψ ∈ φ.later := by
  rw [h.keys, List.mem_map]
  constructor
  · rintro ⟨χ, hχ, same⟩
    cases Field.key_inj same
    exact List.mem_cons.mp hχ
  · exact fun hψ => ⟨ψ, List.mem_cons.mpr hψ, rfl⟩

namespace State

variable (s : State) (change : Change)

/-- An update that changes nothing that outlives the program is over at once; any other starts to store. -/
theorem start_cases :
    ((s.apply change).persisted = s.persisted ∧ s.start change = ⟨s.apply change, .ends (.ok ()), []⟩) ∨
    ((s.apply change).persisted ≠ s.persisted ∧ ∃ task, s.start change = ⟨s.apply change, .waits task, []⟩ ∧
      task.Storing .space ∧ task.after = (s.apply change).persisted ∧ task.previous = s) := by
  simp only [start]
  split
  · rename_i same
    exact Or.inl ⟨same, rfl⟩
  · rename_i changed
    exact Or.inr ⟨changed, _, rfl, ⟨rfl, rfl⟩, rfl, rfl⟩

/-- After a successful access an update goes on with the next field, or it is over. The state stays as it is. -/
theorem resume_ok {task : Task} {φ : Field} (h : task.Storing φ) :
    (φ.later = [] ∧ s.resume (.ok ()) task = ⟨s, .ends (.ok ()), []⟩) ∨
    ∃ ψ task', φ.later = ψ :: ψ.later ∧ s.resume (.ok ()) task = ⟨s, .waits task', []⟩ ∧ task'.Storing ψ ∧
      task'.after = task.after ∧ task'.previous = task.previous := by
  have goes_on : ∀ ψ, φ.later = ψ :: ψ.later → s.resume (.ok ()) task = ⟨s, .waits
      { task with access := ψ.access task.after, rest := ψ.later.map fun χ => χ.access task.after }, []⟩ := by
    intro ψ later
    have rest := h.rest
    rw [later, List.map_cons] at rest
    simp only [resume, rest]
  cases φ with
  | space => exact Or.inr ⟨.theme, _, rfl, goes_on .theme rfl, ⟨rfl, rfl⟩, rfl, rfl⟩
  | theme => exact Or.inr ⟨.sidebar, _, rfl, goes_on .sidebar rfl, ⟨rfl, rfl⟩, rfl, rfl⟩
  | sidebar =>
    have rest : task.rest = [] := h.rest
    exact Or.inl ⟨rfl, by simp only [resume, rest]⟩

/-- After a successful access an update has the fields left that come later. -/
theorem resume_ok_fields {task : Task} {φ : Field} (h : task.Storing φ) :
    (s.resume (.ok ()) task).state = s ∧
    (∀ t, (s.resume (.ok ()) task).next.task? = some t → t.after = task.after ∧ ∃ ψ, t.Storing ψ) ∧
    ∀ ψ, (∃ t, (s.resume (.ok ()) task).next.task? = some t ∧ ψ.key ∈ t.keys) ↔ ψ ∈ φ.later := by
  rcases s.resume_ok h with ⟨later, turn⟩ | ⟨χ, task', later, turn, storing, after, -⟩
  · rw [turn, later]
    refine ⟨rfl, fun _ next => ?_, fun ψ => ⟨fun ⟨_, next, _⟩ => ?_, fun mem => absurd mem List.not_mem_nil⟩⟩ <;>
      cases next
  · rw [turn, later]
    refine ⟨rfl, ?_, fun ψ => ?_⟩
    · rintro t ⟨⟩
      exact ⟨after, χ, storing⟩
    · rw [List.mem_cons, ← storing.mem_keys_iff]
      constructor
      · rintro ⟨t, ⟨⟩, mem⟩
        exact mem
      · exact fun mem => ⟨task', rfl, mem⟩

end State

namespace Backed

variable {b : Backed} {id : Nat} {task : Task} {φ : Field}

theorem returned_start (change : Change) : (b.after (.start change)).returned =
    b.returned ++ ((b.store.state.start change).next.outcome?.map (b.store.started, ·)).toList := rfl

theorem returned_reply (waits : b.store.task? id = some task) (result : Except String Unit) :
    (b.after (.reply id result)).returned =
      b.returned ++ ((b.store.state.resume result task).next.outcome?.map (id, ·)).toList := by
  simp only [after, returns, waits, Option.bind_some]

theorem task?_access (waits : b.store.task? id = some task) (i : Nat) :
    (b.after (.reply id (.ok ()))).store.task? i =
      if id = i then (b.store.state.resume (.ok ()) task).next.task? else b.store.task? i :=
  b.store.task?_after_reply behaviour waits _ i

theorem state_access (waits : b.store.task? id = some task) (storing : task.Storing φ) :
    (b.after (.reply id (.ok ()))).store.state = b.store.state :=
  (b.store.state_after_reply behaviour waits _).trans (b.store.state.resume_ok_fields storing).1

theorem data_access (waits : b.store.task? id = some task) (storing : task.Storing φ) :
    (b.after (.reply id (.ok ()))).data = (φ.access task.after).update b.data := by
  rw [← storing.access]
  simp only [Backed.after, Backed.stored, waits, Option.map_some, Option.getD_some]

end Backed

theorem persisted_state (p : Persisted) : p.state.persisted = p := rfl

end Settings

end Switchboard
