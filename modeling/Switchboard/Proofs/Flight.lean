import Switchboard.Turn

/-!
# Tasks in flight

Which operations wait, by their numbers. A first turn may add the task of the newest number (`task?_after_start`), a
reply ends or replaces the task that waits for it (`task?_after_reply`), an adjustment leaves all tasks alone. No task
has a number that was not given out yet (`Numbered`). So a task waits until its reply comes (`task?_run_of_waits`), and
an operation that is over stays so (`task?_after_of_over`). A run and what a filter leaves of it are compared by a
relation that every occurrence keeps (`run_filterMap`).
-/

namespace Switchboard

variable {State Task Operation Reply Adjustment : Type}

/-- The task that an operation waits with. -/
def Next.task? : Next Task → Option Task
  | .waits task => some task
  | .ends _ => none

/-- Whether an occurrence starts an operation. -/
def Occurrence.starts : Occurrence Operation Reply Adjustment → Bool
  | .start _ => true
  | _ => false

namespace Flight

/-- No operation waits under a number that was not given out yet. -/
def Numbered (f : Flight State Task) : Prop := ∀ id, f.started ≤ id → f.task? id = none

section

variable (b : Behaviour State Task Operation Reply Adjustment) (f : Flight State Task)

/-! ## One occurrence -/

theorem task?_follow (id : Nat) (turn : Turn State Task) (i : Nat) :
    (f.follow id turn).task? i = (f.task? i).or (if id = i then turn.next.task? else none) := by
  unfold follow
  cases turn.next with
  | waits task =>
    simp only [task?, List.find?_append, Option.map_or, Next.task?]
    by_cases h : id = i <;> simp [h]
  | ends outcome => simp [task?, Next.task?]

theorem task?_after_start (operation : Operation) (i : Nat) :
    (f.after b (.start operation)).task? i =
      (f.task? i).or (if f.started = i then (b.start f.state operation).next.task? else none) :=
  f.task?_follow f.started _ i

theorem task?_after_reply {id : Nat} {task : Task} (h : f.task? id = some task) (reply : Reply) (i : Nat) :
    (f.after b (.reply id reply)).task? i =
      if id = i then (b.resume f.state reply task).next.task? else f.task? i := by
  simp only [after, take, h, task?_follow]
  have others : ({ f with waiting := f.waiting.filter fun w => w.1 != id } : Flight State Task).task? i =
      if id = i then none else f.task? i := by
    simp only [task?, List.find?_filter]
    by_cases hi : id = i
    · subst hi
      simp
    · rw [if_neg hi]
      congr 2
      funext w
      by_cases hw : w.1 = i <;> simp [hw, Ne.symm hi]
  rw [others]
  by_cases hi : id = i <;> simp [hi]

theorem started_after (o : Occurrence Operation Reply Adjustment) :
    (f.after b o).started = f.started + if o.starts then 1 else 0 := by
  cases o with
  | start operation => rfl
  | reply id reply =>
    cases h : f.task? id with
    | none => rw [after_reply_of_none b f h]; rfl
    | some task =>
      simp only [after, take, h, follow]
      split <;> rfl
  | adjust adjustment => rfl

variable {f}

/-- The number of a task that waits was given out. -/
theorem Numbered.lt_of_waits (h : f.Numbered) {id : Nat} {task : Task} (waits : f.task? id = some task) :
    id < f.started := by
  apply Nat.lt_of_not_le
  intro past
  rw [h id past] at waits
  cases waits

/-- An occurrence leaves the numbers below those not given out yet. -/
theorem Numbered.after (h : f.Numbered) (o : Occurrence Operation Reply Adjustment) : (f.after b o).Numbered := by
  intro i hi
  rw [started_after] at hi
  cases o with
  | start operation =>
    have hi : f.started + 1 ≤ i := hi
    rw [task?_after_start, h i (by omega), if_neg (by omega), Option.or_none]
  | reply id reply =>
    have hi : f.started ≤ i := hi
    cases ht : f.task? id with
    | none => rw [after_reply_of_none b f ht]; exact h i hi
    | some task =>
      have hne : id ≠ i := by
        rintro rfl
        rw [h id hi] at ht
        cases ht
      rw [task?_after_reply b f ht, if_neg hne]
      exact h i hi
  | adjust adjustment => exact h i hi

/-- A task waits on through everything but its reply. -/
theorem task?_after_of_waits {id : Nat} {task : Task} (h : f.task? id = some task)
    {o : Occurrence Operation Reply Adjustment} (other : ∀ reply, o ≠ .reply id reply) :
    (f.after b o).task? id = some task := by
  cases o with
  | start operation => rw [task?_after_start, h, Option.some_or]
  | reply i reply =>
    have hi : i ≠ id := fun e => other reply (by rw [e])
    cases ht : f.task? i with
    | none => rw [after_reply_of_none b f ht, h]
    | some task' => rw [task?_after_reply b f ht, if_neg hi, h]
  | adjust adjustment => exact h

/-- An operation that is over stays so. -/
theorem task?_after_of_over {id : Nat} (h : f.task? id = none) (given : id < f.started)
    (o : Occurrence Operation Reply Adjustment) : (f.after b o).task? id = none := by
  cases o with
  | start operation => rw [task?_after_start, h, if_neg (by omega), Option.or_none]
  | reply i reply =>
    cases ht : f.task? i with
    | none => rw [after_reply_of_none b f ht, h]
    | some task =>
      have hi : i ≠ id := by
        rintro rfl
        rw [h] at ht
        cases ht
      rw [task?_after_reply b f ht, if_neg hi, h]
  | adjust adjustment => exact h

/-! ## Runs -/

variable (f) in
theorem started_run (os : List (Occurrence Operation Reply Adjustment)) :
    (f.run b os).started = f.started + os.countP Occurrence.starts := by
  induction os generalizing f with
  | nil => rfl
  | cons o os ih =>
    rw [run_cons, ih, started_after, List.countP_cons]
    omega

theorem Numbered.run (h : f.Numbered) (os : List (Occurrence Operation Reply Adjustment)) :
    (f.run b os).Numbered := by
  induction os generalizing f with
  | nil => exact h
  | cons o os ih => exact ih (h.after b o)

theorem task?_run_of_waits {id : Nat} {task : Task} (h : f.task? id = some task)
    {os : List (Occurrence Operation Reply Adjustment)} (others : ∀ reply, .reply id reply ∉ os) :
    (f.run b os).task? id = some task := by
  induction os generalizing f with
  | nil => exact h
  | cons o os ih =>
    refine ih (task?_after_of_waits b h ?_) fun reply hr => others reply (List.mem_cons_of_mem _ hr)
    rintro reply rfl
    exact others reply List.mem_cons_self

/-- Two flights stay related if the one takes in what the other does, as far as `keep` leaves anything of it. -/
theorem run_filterMap {R : Flight State Task → Flight State Task → Prop}
    {keep : Occurrence Operation Reply Adjustment → Option (Occurrence Operation Reply Adjustment)}
    {os : List (Occurrence Operation Reply Adjustment)}
    (step : ∀ o ∈ os, ∀ f g, R f g → R (f.after b o) ((keep o).elim g (g.after b)))
    {g : Flight State Task} (h : R f g) : R (f.run b os) (g.run b (os.filterMap keep)) := by
  induction os generalizing f g with
  | nil => exact h
  | cons o os ih =>
    have first := step o List.mem_cons_self f g h
    have rest := fun o' ho' => step o' (List.mem_cons_of_mem o ho')
    rw [run_cons]
    cases kept : keep o with
    | none =>
      rw [List.filterMap_cons_none kept]
      rw [kept] at first
      exact ih rest first
    | some o' =>
      rw [List.filterMap_cons_some kept, run_cons]
      rw [kept] at first
      exact ih rest first

end

end Flight

end Switchboard
