import Switchboard.Failure

/-!
# Operations in flight

An operation of a store works on the store's state in turns. A turn ends the operation or leaves it waiting for a
reply; between two turns of one operation any number of turns of others may come. What a waiting operation still has
to do is a value, its task, so a `Flight` holds a state together with all tasks that wait.

A `Behaviour` says how the operations of one kind of store work. A run of the store is a list of occurrences, in any
order that they may come in; `Flight.run` is what becomes of a flight. What start, resumption and adjustment of a
state keep, every run keeps (`run_invariant`).
-/

namespace Switchboard

/-- How an operation goes on after a turn. -/
inductive Next (Task : Type) where
  /-- It waits for a reply. -/
  | waits (task : Task)
  /-- It is over. -/
  | ends (outcome : Except Failure Unit)

/-- What a turn of an operation did. -/
structure Turn (State Task : Type) where
  state : State
  next : Next Task
  /-- What the user is told. -/
  notes : List Note := []

/-- A state and the operations in flight over it. -/
structure Flight (State Task : Type) where
  state : State
  /-- The tasks that wait, by the number of the operation. -/
  waiting : List (Nat × Task) := []
  /-- How many operations were started. -/
  started : Nat := 0

/-- How the operations of a store work. -/
structure Behaviour (State Task Operation Reply Adjustment : Type) where
  /-- The first turn of an operation. -/
  start : State → Operation → Turn State Task
  /-- The turn of an operation whose reply came. -/
  resume : State → Reply → Task → Turn State Task
  /-- Changes the state, apart from any operation. -/
  adjust : State → Adjustment → State

/-- What happens to a store. -/
inductive Occurrence (Operation Reply Adjustment : Type) where
  | start (operation : Operation)
  /-- The reply that the operation numbered `id` waits for. -/
  | reply (id : Nat) (reply : Reply)
  | adjust (adjustment : Adjustment)

namespace Flight

variable {State Task Operation Reply Adjustment : Type}

/-- The task of the operation numbered `id`, if it waits. -/
def task? (f : Flight State Task) (id : Nat) : Option Task :=
  (f.waiting.find? fun w => w.1 == id).map Prod.snd

/-- Takes in a turn of the operation numbered `id`. -/
def follow (f : Flight State Task) (id : Nat) (turn : Turn State Task) : Flight State Task :=
  match turn.next with
  | .waits task => { f with state := turn.state, waiting := f.waiting ++ [(id, task)] }
  | .ends _ => { f with state := turn.state }

/-- Takes in an occurrence: the flight after it, and the turn that an operation took. A reply that no operation waits
for changes nothing. -/
def take (b : Behaviour State Task Operation Reply Adjustment) (f : Flight State Task) :
    Occurrence Operation Reply Adjustment → Flight State Task × Option (Turn State Task)
  | .start operation =>
    let turn := b.start f.state operation
    ({ f.follow f.started turn with started := f.started + 1 }, some turn)
  | .reply id reply =>
    match f.task? id with
    | none => (f, none)
    | some task =>
      let turn := b.resume f.state reply task
      ({ f with waiting := f.waiting.filter fun w => w.1 != id }.follow id turn, some turn)
  | .adjust adjustment => ({ f with state := b.adjust f.state adjustment }, none)

/-- The flight after an occurrence. -/
def after (b : Behaviour State Task Operation Reply Adjustment) (f : Flight State Task)
    (o : Occurrence Operation Reply Adjustment) : Flight State Task := (f.take b o).1

/-- The flight after a run. -/
def run (b : Behaviour State Task Operation Reply Adjustment) (f : Flight State Task)
    (os : List (Occurrence Operation Reply Adjustment)) : Flight State Task := os.foldl (after b) f

/-! ## Runs -/

section

variable (b : Behaviour State Task Operation Reply Adjustment) (f : Flight State Task)

@[simp] theorem follow_state (id : Nat) (turn : Turn State Task) : (f.follow id turn).state = turn.state := by
  unfold follow; split <;> rfl

@[simp] theorem run_nil : f.run b [] = f := rfl

@[simp] theorem run_cons (o : Occurrence Operation Reply Adjustment)
    (os : List (Occurrence Operation Reply Adjustment)) : f.run b (o :: os) = (f.after b o).run b os := rfl

theorem run_append (os ps : List (Occurrence Operation Reply Adjustment)) :
    f.run b (os ++ ps) = (f.run b os).run b ps := List.foldl_append

theorem state_after_start (operation : Operation) :
    (f.after b (.start operation)).state = (b.start f.state operation).state := f.follow_state _ _

theorem after_reply_of_none {id : Nat} (h : f.task? id = none) (reply : Reply) : f.after b (.reply id reply) = f := by
  simp [after, take, h]

theorem state_after_reply {id : Nat} {task : Task} (h : f.task? id = some task) (reply : Reply) :
    (f.after b (.reply id reply)).state = (b.resume f.state reply task).state := by
  simp [after, take, h]

theorem state_after_adjust (adjustment : Adjustment) :
    (f.after b (.adjust adjustment)).state = b.adjust f.state adjustment := rfl

/-- The state after an occurrence comes from a first turn, a later turn or an adjustment, or it is the state before. -/
theorem state_after_cases {P : State → Prop} (o : Occurrence Operation Reply Adjustment) (same : P f.state)
    (start : ∀ operation, P (b.start f.state operation).state)
    (resume : ∀ reply task, P (b.resume f.state reply task).state)
    (adjust : ∀ adjustment, P (b.adjust f.state adjustment)) : P (f.after b o).state := by
  cases o with
  | start operation => rw [state_after_start]; exact start operation
  | reply id reply =>
    cases h : f.task? id with
    | none => rw [after_reply_of_none b f h]; exact same
    | some task => rw [state_after_reply b f h]; exact resume reply task
  | adjust adjustment => exact adjust adjustment

/-- What start, resumption and adjustment keep, a run keeps. -/
theorem run_invariant {P : State → Prop} (start : ∀ s operation, P s → P (b.start s operation).state)
    (resume : ∀ s reply task, P s → P (b.resume s reply task).state)
    (adjust : ∀ s adjustment, P s → P (b.adjust s adjustment))
    (os : List (Occurrence Operation Reply Adjustment)) (before : P f.state) : P (f.run b os).state := by
  induction os generalizing f with
  | nil => exact before
  | cons o os ih =>
    exact ih _ (state_after_cases b f o before (fun op => start _ op before) (fun r t => resume _ r t before)
      (fun a => adjust _ a before))

end

end Flight

end Switchboard
