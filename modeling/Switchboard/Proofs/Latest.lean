import Switchboard.Proofs.Flight

/-!
# Of several operations the latest counts

A store may number the operations of one kind: a counter in the state goes up when such an operation begins, and the
operation keeps the new count in its tasks until it is over. `Latest number count ticket f` says that the counter then
tells which of them began last. Here `number` is the number that a task holds, none if its operation is of another
kind; `count` is the counter; `ticket` is the operation that began last. A task that waits holds the present count iff
it belongs to that operation (`Latest.holds_iff`).

An occurrence with which no operation of the kind begins keeps the ticket (`Latest.after_start`, `Latest.after_reply`,
`Latest.after_adjust`); one with which an operation begins hands it on (`Latest.begin_start`, `Latest.begin_reply`).
-/

namespace Switchboard

variable {State Task Operation Reply Adjustment : Type}

/-- The operation `ticket` is the last one that took a number. -/
structure Latest (number : Task → Option Nat) (count : State → Nat) (ticket : Option Nat) (f : Flight State Task) :
    Prop where
  numbered : f.Numbered
  given : ∀ id, ticket = some id → id < f.started
  own : ∀ id task, ticket = some id → f.task? id = some task → number task = some (count f.state)
  past : ∀ id task n, f.task? id = some task → number task = some n → n ≤ count f.state
  alone : ∀ id task, f.task? id = some task → number task = some (count f.state) → ticket = some id

namespace Latest

variable {number : Task → Option Nat} {count : State → Nat} {ticket : Option Nat} {f g : Flight State Task}

/-- Where nothing was started nothing has begun. -/
theorem fresh (s : State) : Latest number count none { state := s } := ⟨fun _ _ => rfl, nofun, nofun, nofun, nofun⟩

/-- The number that a task holds is the present count iff its operation began last. -/
theorem holds_iff (h : Latest number count ticket f) {id n : Nat} {task : Task} (waits : f.task? id = some task)
    (holds : number task = some n) : count f.state = n ↔ ticket = some id := by
  constructor
  · rintro rfl
    exact h.alone id task waits holds
  · intro own
    have := h.own id task own waits
    rw [holds] at this
    exact (Option.some.inj this).symm

/-- Tasks of new operations hold no number, and all others hold what they held before: nothing has begun. -/
theorem keep (h : Latest number count ticket f) (numbered : g.Numbered) (started : f.started ≤ g.started)
    (same : count g.state = count f.state)
    (tasks : ∀ id task, g.task? id = some task →
      (f.started ≤ id ∧ number task = none) ∨ ∃ task', f.task? id = some task' ∧ number task' = number task) :
    Latest number count ticket g := by
  refine ⟨numbered, fun id hid => Nat.lt_of_lt_of_le (h.given id hid) started, ?_, ?_, ?_⟩
  · intro id task hid waits
    rw [same]
    rcases tasks id task waits with ⟨new, -⟩ | ⟨task', waits', holds⟩
    · have := h.given id hid
      omega
    · rw [← holds]
      exact h.own id task' hid waits'
  · intro id task n waits holds
    rw [same]
    rcases tasks id task waits with ⟨-, none⟩ | ⟨task', waits', holds'⟩
    · rw [none] at holds
      cases holds
    · exact h.past id task' n waits' (holds'.trans holds)
  · intro id task waits holds
    rw [same] at holds
    rcases tasks id task waits with ⟨-, none⟩ | ⟨task', waits', holds'⟩
    · rw [none] at holds
      cases holds
    · exact h.alone id task' waits' (holds'.trans holds)

/-- One operation took the next number, and all other tasks are as before: that operation began last. -/
theorem renew (h : Latest number count ticket f) {id : Nat} (numbered : g.Numbered) (given : id < g.started)
    (up : count g.state = count f.state + 1)
    (own : ∀ task, g.task? id = some task → number task = some (count f.state + 1))
    (others : ∀ i, id ≠ i → g.task? i = f.task? i) : Latest number count (some id) g := by
  refine ⟨numbered, ?_, ?_, ?_, ?_⟩
  · rintro _ ⟨⟩
    exact given
  · rintro _ task ⟨⟩ waits
    rw [up]
    exact own task waits
  · intro i task n waits holds
    rw [up]
    by_cases hi : id = i
    · subst hi
      rw [own task waits] at holds
      exact Nat.le_of_eq (Option.some.inj holds).symm
    · rw [others i hi] at waits
      exact Nat.le_succ_of_le (h.past i task n waits holds)
  · intro i task waits holds
    by_cases hi : id = i
    · rw [hi]
    · -- the number of an operation that began before is not above the count before
      rw [others i hi] at waits
      rw [up] at holds
      have := h.past i task _ waits holds
      omega

/-! ## One occurrence -/

variable (b : Behaviour State Task Operation Reply Adjustment)

theorem after_start (h : Latest number count ticket f) {operation : Operation}
    (same : count (b.start f.state operation).state = count f.state)
    (none : ∀ task, (b.start f.state operation).next.task? = some task → number task = none) :
    Latest number count ticket (f.after b (.start operation)) := by
  refine h.keep (h.numbered.after b _) (Nat.le_succ _) ((congrArg count (f.state_after_start b _)).trans same) ?_
  intro id task waits
  rw [f.task?_after_start, Option.or_eq_some_iff] at waits
  rcases waits with old | ⟨-, new⟩
  · exact Or.inr ⟨task, old, rfl⟩
  · split at new
    · rename_i hid
      exact Or.inl ⟨Nat.le_of_eq hid, none task new⟩
    · cases new

theorem begin_start (h : Latest number count ticket f) {operation : Operation}
    (up : count (b.start f.state operation).state = count f.state + 1)
    (own : ∀ task, (b.start f.state operation).next.task? = some task → number task = some (count f.state + 1)) :
    Latest number count (some f.started) (f.after b (.start operation)) := by
  refine h.renew (h.numbered.after b _) (Nat.lt_succ_self _) ((congrArg count (f.state_after_start b _)).trans up) ?_ ?_
  · intro task waits
    rw [f.task?_after_start, h.numbered f.started (Nat.le_refl _), Option.none_or, if_pos rfl] at waits
    exact own task waits
  · intro i hi
    rw [f.task?_after_start, if_neg hi, Option.or_none]

variable {id : Nat} {task : Task}

theorem after_reply (h : Latest number count ticket f) (waits : f.task? id = some task) {reply : Reply}
    (same : count (b.resume f.state reply task).state = count f.state)
    (next : ∀ task', (b.resume f.state reply task).next.task? = some task' → number task = number task') :
    Latest number count ticket (f.after b (.reply id reply)) := by
  refine h.keep (h.numbered.after b _) ?_ ((congrArg count (f.state_after_reply b waits reply)).trans same) ?_
  · rw [f.started_after]
    omega
  · intro i task' waits'
    rw [f.task?_after_reply b waits] at waits'
    split at waits'
    · rename_i hi
      subst hi
      exact Or.inr ⟨task, waits, next task' waits'⟩
    · exact Or.inr ⟨task', waits', rfl⟩

theorem begin_reply (h : Latest number count ticket f) (waits : f.task? id = some task) {reply : Reply}
    (up : count (b.resume f.state reply task).state = count f.state + 1)
    (own : ∀ task', (b.resume f.state reply task).next.task? = some task' → number task' = some (count f.state + 1)) :
    Latest number count (some id) (f.after b (.reply id reply)) := by
  have given := h.numbered.lt_of_waits waits
  refine h.renew (h.numbered.after b _) ?_ ((congrArg count (f.state_after_reply b waits reply)).trans up) ?_ ?_
  · rw [f.started_after]
    omega
  · intro task' waits'
    rw [f.task?_after_reply b waits, if_pos rfl] at waits'
    exact own task' waits'
  · intro i hi
    rw [f.task?_after_reply b waits, if_neg hi]

theorem after_adjust (h : Latest number count ticket f) {adjustment : Adjustment}
    (same : count (b.adjust f.state adjustment) = count f.state) :
    Latest number count ticket (f.after b (.adjust adjustment)) :=
  h.keep h.numbered (Nat.le_refl _) same fun _ task waits => Or.inr ⟨task, waits, rfl⟩

end Latest

end Switchboard
