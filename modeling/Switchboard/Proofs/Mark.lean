import Mathlib.Data.List.Induction
import Switchboard.Proofs.Flight

/-!
# Marks of what is under way

While an operation waits, the state may bear a mark that says so. Operations that are about the same thing share a
mark: each of them sets it when it starts, and the reply to any of them clears it. Some moments give the mark up.
Nobody counts how often a mark was set, so it may be gone while an operation that set it still waits. What the mark does
say is `Mark.shown_iff`: some operation waits that set it, and since that one was started the mark was neither given up
nor cleared by the reply to another.
-/

namespace Switchboard

variable {State Task Operation Reply Adjustment : Type}

/-! ## Since an operation was started -/

namespace Flight

variable (b : Behaviour State Task Operation Reply Adjustment)
  (event : Flight State Task → Occurrence Operation Reply Adjustment → Bool) (id : Nat)

/-- Whether no moment of a run is an `event` once the operation numbered `id` was started. -/
def noneSince (f : Flight State Task) : List (Occurrence Operation Reply Adjustment) → Bool
  | [] => true
  | o :: os => !(decide (id < f.started) && event f o) && (f.after b o).noneSince os

theorem noneSince_concat (f : Flight State Task) (os : List (Occurrence Operation Reply Adjustment))
    (o : Occurrence Operation Reply Adjustment) :
    f.noneSince b event id (os ++ [o]) =
      (f.noneSince b event id os && !(decide (id < (f.run b os).started) && event (f.run b os) o)) := by
  induction os generalizing f with
  | nil => exact (Bool.and_true _).trans (Bool.true_and _).symm
  | cons o' os ih => rw [List.cons_append, noneSince, ih, noneSince, run_cons, Bool.and_assoc]

/-- Nothing happened since an operation that was not started yet. -/
theorem noneSince_of_started_le (f : Flight State Task) {os : List (Occurrence Operation Reply Adjustment)}
    (h : (f.run b os).started ≤ id) : f.noneSince b event id os = true := by
  induction os generalizing f with
  | nil => rfl
  | cons o os ih =>
    have first : f.started ≤ id := by
      rw [started_run] at h
      omega
    rw [noneSince, ih _ h, decide_eq_false (Nat.not_lt.mpr first)]
    rfl

variable {b event id}

theorem noneSince_concat_iff {f : Flight State Task} {os : List (Occurrence Operation Reply Adjustment)}
    {o : Occurrence Operation Reply Adjustment} :
    f.noneSince b event id (os ++ [o]) = true ↔
      f.noneSince b event id os = true ∧ (id < (f.run b os).started → event (f.run b os) o = false) := by
  rw [noneSince_concat, Bool.and_eq_true, Bool.not_eq_true', Bool.and_eq_false_imp, decide_eq_true_iff]

end Flight

/-! ## Marks -/

/-- A mark on states. -/
structure Mark (State Task Operation Reply Adjustment : Type) where
  /-- Whether a state bears the mark. -/
  shown : State → Bool
  /-- Whether an operation that starts with this task sets the mark. -/
  sets : Task → Bool
  /-- Whether the reply to this task clears the mark. -/
  clears : State → Task → Bool
  /-- Whether a moment gives the mark up, whoever set it. -/
  givesUp : State → Occurrence Operation Reply Adjustment → Bool

namespace Mark

variable (m : Mark State Task Operation Reply Adjustment) (b : Behaviour State Task Operation Reply Adjustment)

/-- Whether a moment gives the mark up. -/
def gone (f : Flight State Task) (o : Occurrence Operation Reply Adjustment) : Bool := m.givesUp f.state o

/-- Whether a moment is a reply that clears the mark. -/
def cleared (f : Flight State Task) : Occurrence Operation Reply Adjustment → Bool
  | .reply id _ => (f.task? id).any (m.clears f.state)
  | _ => false

/-- What turns and changes do to a mark. -/
structure Lawful : Prop where
  start : ∀ s operation, m.shown (b.start s operation).state =
    (m.shown s && !m.givesUp s (.start operation) || (b.start s operation).next.task?.any m.sets)
  resume : ∀ s reply task, m.shown (b.resume s reply task).state = (m.shown s && !m.clears s task)
  resume_sets : ∀ s reply task, (b.resume s reply task).next.task?.any m.sets = false
  adjust : ∀ s a, m.shown (b.adjust s a) = (m.shown s && !m.givesUp s (.adjust a))
  reply : ∀ s id reply, m.givesUp s (.reply id reply) = false

/-- Some operation waits that set the mark, and since it was started the mark was neither given up nor cleared. -/
def Due (f : Flight State Task) (os : List (Occurrence Operation Reply Adjustment)) : Prop :=
  ∃ id task, (f.run b os).task? id = some task ∧ m.sets task = true ∧ f.noneSince b m.gone id os = true ∧
    f.noneSince b m.cleared id os = true

/-- The reply to an operation that set the mark clears it, unless it was given up since. -/
def ClearsOwn (f : Flight State Task) : Prop :=
  ∀ os id task, (f.run b os).task? id = some task → m.sets task = true → f.noneSince b m.gone id os = true →
    m.clears (f.run b os).state task = true

variable {m b} {f : Flight State Task} {os : List (Occurrence Operation Reply Adjustment)}
  {o : Occurrence Operation Reply Adjustment}

/-! ### One moment more -/

/-- An operation that set the mark before the last moment was due before it, and the moment left the mark. -/
theorem due_of_concat (numbered : f.Numbered) {id : Nat} {task : Task} (waits : (f.run b os).task? id = some task)
    (sets : m.sets task = true) (kept : f.noneSince b m.gone id (os ++ [o]) = true)
    (uncleared : f.noneSince b m.cleared id (os ++ [o]) = true) :
    m.Due b f os ∧ m.gone (f.run b os) o = false ∧ m.cleared (f.run b os) o = false := by
  have given := (numbered.run b os).lt_of_waits waits
  have kept := Flight.noneSince_concat_iff.mp kept
  have uncleared := Flight.noneSince_concat_iff.mp uncleared
  exact ⟨⟨id, task, waits, sets, kept.1, uncleared.1⟩, kept.2 given, uncleared.2 given⟩

/-- A moment that leaves the mark, and the operations that set it, leaves it due. -/
theorem Due.concat (h : m.Due b f os) (stays : m.gone (f.run b os) o = false)
    (uncleared : m.cleared (f.run b os) o = false)
    (waits : ∀ id task, (f.run b os).task? id = some task → m.sets task = true →
      (f.run b (os ++ [o])).task? id = some task) : m.Due b f (os ++ [o]) := by
  obtain ⟨id, task, old, sets, kept, none⟩ := h
  refine ⟨id, task, waits id task old sets, sets, ?_, ?_⟩
  · exact Flight.noneSince_concat_iff.mpr ⟨kept, fun _ => stays⟩
  · exact Flight.noneSince_concat_iff.mpr ⟨none, fun _ => uncleared⟩

theorem due_start (numbered : f.Numbered) (operation : Operation) :
    m.Due b f (os ++ [.start operation]) ↔
      m.Due b f os ∧ m.givesUp (f.run b os).state (.start operation) = false ∨
        (b.start (f.run b os).state operation).next.task?.any m.sets = true := by
  have tasks : ∀ id, (f.run b (os ++ [.start operation])).task? id =
      ((f.run b os).task? id).or
        (if (f.run b os).started = id then (b.start (f.run b os).state operation).next.task? else none) := by
    intro id
    rw [Flight.run_append]
    exact Flight.task?_after_start b _ operation id
  constructor
  · rintro ⟨id, task, waits, sets, kept, uncleared⟩
    rw [tasks, Option.or_eq_some_iff] at waits
    rcases waits with old | ⟨-, new⟩
    · obtain ⟨due, stays, -⟩ := due_of_concat numbered old sets kept uncleared
      exact Or.inl ⟨due, stays⟩
    · split at new
      · exact Or.inr ((Option.any_eq_true _ _).mpr ⟨task, new, sets⟩)
      · cases new
  · rintro (⟨due, stays⟩ | new)
    · refine due.concat stays rfl fun id task old _ => ?_
      rw [tasks, old, Option.some_or]
    · obtain ⟨task, first, sets⟩ := (Option.any_eq_true _ _).mp new
      refine ⟨(f.run b os).started, task, ?_, sets, ?_, ?_⟩
      · rw [tasks, numbered.run b os _ (Nat.le_refl _), Option.none_or, if_pos rfl, first]
      · refine Flight.noneSince_concat_iff.mpr ⟨?_, fun given => absurd given (Nat.lt_irrefl _)⟩
        exact Flight.noneSince_of_started_le b _ _ f (Nat.le_refl _)
      · refine Flight.noneSince_concat_iff.mpr ⟨?_, fun given => absurd given (Nat.lt_irrefl _)⟩
        exact Flight.noneSince_of_started_le b _ _ f (Nat.le_refl _)

theorem due_adjust (numbered : f.Numbered) (a : Adjustment) :
    m.Due b f (os ++ [.adjust a]) ↔ m.Due b f os ∧ m.givesUp (f.run b os).state (.adjust a) = false := by
  have tasks : ∀ id, (f.run b (os ++ [.adjust a])).task? id = (f.run b os).task? id := by
    intro id
    rw [Flight.run_append]
    rfl
  constructor
  · rintro ⟨id, task, waits, sets, kept, uncleared⟩
    rw [tasks] at waits
    obtain ⟨due, stays, -⟩ := due_of_concat numbered waits sets kept uncleared
    exact ⟨due, stays⟩
  · rintro ⟨due, stays⟩
    exact due.concat stays rfl fun id task old _ => (tasks id).trans old

/-- A reply that no operation waits for changes nothing. -/
theorem due_reply_of_none (h : m.Lawful b) (numbered : f.Numbered) {id : Nat} (none : (f.run b os).task? id = none)
    (reply : Reply) : m.Due b f (os ++ [.reply id reply]) ↔ m.Due b f os := by
  have same : f.run b (os ++ [.reply id reply]) = f.run b os := by
    rw [Flight.run_append]
    exact Flight.after_reply_of_none b _ none reply
  constructor
  · rintro ⟨i, task, waits, sets, kept, uncleared⟩
    rw [same] at waits
    exact (due_of_concat numbered waits sets kept uncleared).1
  · intro due
    refine due.concat (h.reply _ id reply) ?_ fun i task old _ => same ▸ old
    rw [cleared, none, Option.any_none]

/-- The reply to an operation clears the mark, or it leaves the mark due. -/
theorem due_reply (h : m.Lawful b) (own : m.ClearsOwn b f) (numbered : f.Numbered) {id : Nat} {task : Task}
    (waits : (f.run b os).task? id = some task) (reply : Reply) :
    m.Due b f (os ++ [.reply id reply]) ↔ m.Due b f os ∧ m.clears (f.run b os).state task = false := by
  have tasks : ∀ i, (f.run b (os ++ [.reply id reply])).task? i =
      if id = i then (b.resume (f.run b os).state reply task).next.task? else (f.run b os).task? i := by
    intro i
    rw [Flight.run_append]
    exact Flight.task?_after_reply b _ waits reply i
  have clears : m.cleared (f.run b os) (.reply id reply) = m.clears (f.run b os).state task := by
    rw [cleared, waits, Option.any_some]
  constructor
  · rintro ⟨i, task', waits', sets, kept, uncleared⟩
    rw [tasks] at waits'
    split at waits'
    · have none := h.resume_sets (f.run b os).state reply task
      rw [waits', Option.any_some, sets] at none
      cases none
    · obtain ⟨due, -, uncleared⟩ := due_of_concat numbered waits' sets kept uncleared
      exact ⟨due, clears ▸ uncleared⟩
  · rintro ⟨due, uncleared⟩
    obtain ⟨i, task', waits', sets, kept, none⟩ := due
    have other : id ≠ i := by
      rintro rfl
      cases waits.symm.trans waits'
      rw [own os id task waits sets kept] at uncleared
      cases uncleared
    refine ⟨i, task', by rw [tasks, if_neg other, waits'], sets, ?_, ?_⟩
    · exact Flight.noneSince_concat_iff.mpr ⟨kept, fun _ => h.reply _ id reply⟩
    · exact Flight.noneSince_concat_iff.mpr ⟨none, fun _ => clears.trans uncleared⟩

/-! ### Runs -/

/-- **What a mark says.** The state bears the mark iff some operation waits that set it, and since that operation was
started the mark was neither given up nor cleared. -/
theorem shown_iff (h : m.Lawful b) (own : m.ClearsOwn b f) (idle : f.waiting = []) (unmarked : m.shown f.state = false)
    (os : List (Occurrence Operation Reply Adjustment)) : m.shown (f.run b os).state = true ↔ m.Due b f os := by
  have idle : ∀ id, f.task? id = none := fun id => by rw [Flight.task?, idle]; rfl
  have numbered : f.Numbered := fun id _ => idle id
  -- from the end of the run: what is due is a matter of everything since an operation was started
  induction os using List.reverseRecOn with
  | nil =>
    rw [Flight.run_nil, unmarked]
    constructor
    · intro shown
      cases shown
    · rintro ⟨id, task, waits, -⟩
      rw [Flight.run_nil, idle] at waits
      cases waits
  | append_singleton os o ih =>
    have ih : m.shown (f.run b os).state = true ↔ m.Due b f os := ih
    have state : (f.run b (os ++ [o])).state = ((f.run b os).after b o).state := by rw [Flight.run_append]; rfl
    rw [state]
    cases o with
    | start operation =>
      rw [Flight.state_after_start, h.start, due_start numbered, Bool.or_eq_true, Bool.and_eq_true, Bool.not_eq_true',
        ih]
    | reply id reply =>
      cases waits : (f.run b os).task? id with
      | none => rw [Flight.after_reply_of_none _ _ waits, due_reply_of_none h numbered waits, ih]
      | some task =>
        rw [Flight.state_after_reply _ _ waits, h.resume, due_reply h own numbered waits, Bool.and_eq_true,
          Bool.not_eq_true', ih]
    | adjust a =>
      rw [Flight.state_after_adjust, h.adjust, due_adjust numbered, Bool.and_eq_true, Bool.not_eq_true', ih]

end Mark

end Switchboard
