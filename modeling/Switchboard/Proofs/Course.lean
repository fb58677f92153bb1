import Switchboard.Proofs.Flight

/-!
# The course of one operation

The turns that one operation takes in a run, among those of the others. An operation takes its first turn when it is
started and a turn for every reply that it waits for; it takes none before it is started
(`course_of_not_started`), none while no reply to it comes (`course_of_unanswered`), and none once it is over
(`course_of_over`).
-/

namespace Switchboard

variable {State Task Operation Reply Adjustment : Type}

/-- Whether an occurrence is a reply to the operation numbered `id`. -/
def Occurrence.answers (id : Nat) : Occurrence Operation Reply Adjustment → Bool
  | .reply i _ => i == id
  | _ => false

theorem Occurrence.answers_reply (id i : Nat) (reply : Reply) :
    (.reply i reply : Occurrence Operation Reply Adjustment).answers id = true ↔ i = id := beq_iff_eq

/-- A run without a reply to an operation. -/
theorem Occurrence.reply_not_mem {id : Nat} {os : List (Occurrence Operation Reply Adjustment)}
    (unanswered : os.any (Occurrence.answers id) = false) (reply : Reply) : .reply id reply ∉ os := by
  intro mem
  rw [List.any_eq_false] at unanswered
  exact unanswered _ mem ((Occurrence.answers_reply id id reply).mpr rfl)

namespace Flight

variable (b : Behaviour State Task Operation Reply Adjustment) (f : Flight State Task) (id : Nat)

/-- The operation that may take a turn in an occurrence. -/
def actor? : Occurrence Operation Reply Adjustment → Option Nat
  | .start _ => some f.started
  | .reply i _ => some i
  | .adjust _ => none

/-- The turn that the operation numbered `id` takes in an occurrence. -/
def turn? (o : Occurrence Operation Reply Adjustment) : Option (Turn State Task) :=
  if f.actor? o = some id then (f.take b o).2 else none

/-- The turns that the operation numbered `id` takes in a run. -/
def course (f : Flight State Task) : List (Occurrence Operation Reply Adjustment) → List (Turn State Task)
  | [] => []
  | o :: os => (f.turn? b id o).toList ++ (f.after b o).course os

theorem course_append (os ps : List (Occurrence Operation Reply Adjustment)) :
    f.course b id (os ++ ps) = f.course b id os ++ (f.run b os).course b id ps := by
  induction os generalizing f with
  | nil => rfl
  | cons o os ih => rw [List.cons_append, course, course, ih, List.append_assoc, run_cons]

theorem turn?_start (operation : Operation) :
    f.turn? b f.started (.start operation) = some (b.start f.state operation) := if_pos rfl

theorem turn?_reply {task : Task} (waits : f.task? id = some task) (reply : Reply) :
    f.turn? b id (.reply id reply) = some (b.resume f.state reply task) := by
  simp [turn?, actor?, take, waits]

variable {b f id}

/-- An operation that was started takes a turn in replies to it only. -/
theorem turn?_of_not_answers (given : id < f.started) {o : Occurrence Operation Reply Adjustment}
    (other : o.answers id = false) : f.turn? b id o = none := by
  refine if_neg fun own => ?_
  cases o with
  | start operation => exact absurd (Option.some.inj own) (Nat.ne_of_gt given)
  | reply i reply =>
    rw [(Occurrence.answers_reply id i reply).mpr (Option.some.inj own)] at other
    cases other
  | adjust adjustment => cases own

/-- An operation that is over takes no turn. -/
theorem turn?_of_over (given : id < f.started) (finished : f.task? id = none)
    (o : Occurrence Operation Reply Adjustment) : f.turn? b id o = none := by
  cases other : o.answers id with
  | false => exact turn?_of_not_answers given other
  | true =>
    cases o with
    | start operation => cases other
    | reply i reply =>
      obtain rfl := (Occurrence.answers_reply id i reply).mp other
      simp [turn?, take, finished]
    | adjust adjustment => cases other

theorem given_after (given : id < f.started) (o : Occurrence Operation Reply Adjustment) :
    id < (f.after b o).started := by
  rw [started_after]
  omega

/-- An operation takes no turn before it is started. -/
theorem course_of_not_started (numbered : f.Numbered) {os : List (Occurrence Operation Reply Adjustment)}
    (later : (f.run b os).started ≤ id) : f.course b id os = [] := by
  induction os generalizing f with
  | nil => rfl
  | cons o os ih =>
    have none : f.turn? b id o = none := by
      rw [started_run, List.countP_cons] at later
      cases o with
      | start operation =>
        refine if_neg fun own => ?_
        have own : f.started = id := Option.some.inj own
        simp only [Occurrence.starts, if_true] at later
        omega
      | reply i reply =>
        by_cases own : i = id
        · have finished := numbered id (by omega)
          simp [turn?, take, own, finished]
        · exact if_neg fun own' => own (Option.some.inj own')
      | adjust adjustment => exact if_neg fun own => by cases own
    rw [course, none, ih (numbered.after b o) later]
    rfl

/-- An operation takes no turn while no reply to it comes. -/
theorem course_of_unanswered (given : id < f.started) {os : List (Occurrence Operation Reply Adjustment)}
    (unanswered : os.any (Occurrence.answers id) = false) : f.course b id os = [] := by
  induction os generalizing f with
  | nil => rfl
  | cons o os ih =>
    rw [List.any_cons, Bool.or_eq_false_iff] at unanswered
    rw [course, turn?_of_not_answers given unanswered.1, ih (given_after given o) unanswered.2]
    rfl

/-- An operation takes no turn once it is over. -/
theorem course_of_over (given : id < f.started) (finished : f.task? id = none)
    (os : List (Occurrence Operation Reply Adjustment)) : f.course b id os = [] := by
  induction os generalizing f with
  | nil => rfl
  | cons o os ih =>
    rw [course, turn?_of_over given finished, ih (given_after given o) (task?_after_of_over b finished given o)]
    rfl

/-- An operation that ends with its next reply takes one more turn, if that reply comes. -/
theorem exists_course_of_last (given : id < f.started) {task : Task} (waits : f.task? id = some task)
    (last : ∀ s reply, (b.resume s reply task).next.task? = none)
    (os : List (Occurrence Operation Reply Adjustment)) :
    (os.any (Occurrence.answers id) = false ∧ f.course b id os = []) ∨
    (os.any (Occurrence.answers id) = true ∧ ∃ s reply, f.course b id os = [b.resume s reply task]) := by
  induction os generalizing f with
  | nil => exact Or.inl ⟨rfl, rfl⟩
  | cons o os ih =>
    cases own : o.answers id with
    | false =>
      have other : ∀ reply, o ≠ .reply id reply := by
        rintro reply rfl
        rw [(Occurrence.answers_reply id id reply).mpr rfl] at own
        cases own
      rw [course, turn?_of_not_answers given own, List.any_cons, own, Bool.false_or]
      exact ih (given_after given o) (task?_after_of_waits b waits other)
    | true =>
      right
      cases o with
      | start operation => cases own
      | reply i reply =>
        obtain rfl := (Occurrence.answers_reply id i reply).mp own
        have finished : (f.after b (.reply i reply)).task? i = none := by
          rw [task?_after_reply b f waits, if_pos rfl, last]
        refine ⟨by rw [List.any_cons, own, Bool.true_or], f.state, reply, ?_⟩
        rw [course, turn?_reply b f i waits, course_of_over (given_after given _) finished]
        rfl
      | adjust adjustment => cases own

end Flight

end Switchboard
