import Switchboard.Proofs.Course

/-!
# Runs that differ in one operation

A run and what is left of it without one of its operations: the operations that start later have other numbers there,
so the moments of the one run are those of the other under a renumbering (`Occurrence.renumber`). `Shadows` relates the
two flights as long as the states are alike in a sense that every turn keeps (`Behaviour.Keeps`) and each operation has
the same task under its other number; every occurrence keeps it (`Shadows.after`), so a run does (`Shadows.run`).

What the one operation itself does must be no difference to the state: so it is with a start that changes nothing that
counts (`shadows_start`) and with such a reply (`Shadows.reply_of_lost`). Or it goes on as another operation would
start, which takes its place then (`Shadows.hand_over`).
-/

namespace Switchboard

variable {State Task Operation Reply Adjustment : Type}

/-- An occurrence under other numbers; a reply to an operation that has none is left out. -/
def Occurrence.renumber (σ : Nat → Option Nat) :
    Occurrence Operation Reply Adjustment → Option (Occurrence Operation Reply Adjustment)
  | .start operation => some (.start operation)
  | .reply id r => (σ id).map (.reply · r)
  | .adjust adjustment => some (.adjust adjustment)

/-- A relation of states that every turn keeps; what remains to be done is the same. -/
structure Behaviour.Keeps (b : Behaviour State Task Operation Reply Adjustment) (Alike : State → State → Prop) :
    Prop where
  start : ∀ s t operation, Alike s t → Alike (b.start s operation).state (b.start t operation).state ∧
    (b.start s operation).next.task? = (b.start t operation).next.task?
  resume : ∀ s t reply task, Alike s t → Alike (b.resume s reply task).state (b.resume t reply task).state ∧
    (b.resume s reply task).next.task? = (b.resume t reply task).next.task?
  adjust : ∀ s t adjustment, Alike s t → Alike (b.adjust s adjustment) (b.adjust t adjustment)

/-- Every turn keeps equality. -/
theorem Behaviour.keeps_eq (b : Behaviour State Task Operation Reply Adjustment) : b.Keeps Eq :=
  ⟨fun _ _ _ same => same ▸ ⟨rfl, rfl⟩, fun _ _ _ _ same => same ▸ ⟨rfl, rfl⟩, fun _ _ _ same => same ▸ rfl⟩

namespace Flight

/-- The flight `g` shadows `f`: the states are alike, and the operation that has the number `i` in `f` has the number
`σ i` in `g`. -/
structure Shadows (Alike : State → State → Prop) (σ : Nat → Option Nat) (f g : Flight State Task) : Prop where
  state : Alike f.state g.state
  task : ∀ i j, σ i = some j → f.task? i = g.task? j
  distinct : ∀ i i' j, σ i = some j → σ i' = some j → i = i'
  /-- Operations to come are numbered on in both. -/
  coming : ∀ d, σ (f.started + d) = some (g.started + d)

section

variable {b : Behaviour State Task Operation Reply Adjustment} {Alike : State → State → Prop} {σ : Nat → Option Nat}
  {f g : Flight State Task}

theorem Shadows.after_start (keeps : b.Keeps Alike) (h : Shadows Alike σ f g) (operation : Operation) :
    Shadows Alike σ (f.after b (.start operation)) (g.after b (.start operation)) := by
  obtain ⟨alike, next⟩ := keeps.start _ _ operation h.state
  have newest : σ f.started = some g.started := h.coming 0
  refine ⟨?_, fun i j hij => ?_, h.distinct, fun d => ?_⟩
  · rw [state_after_start, state_after_start]
    exact alike
  · have own : f.started = i ↔ g.started = j := by
      constructor
      · rintro rfl
        exact Option.some.inj (newest.symm.trans hij)
      · rintro rfl
        exact h.distinct _ _ _ newest hij
    rw [task?_after_start, task?_after_start, h.task i j hij, next]
    simp only [own]
  · rw [started_after, started_after, Nat.add_assoc, Nat.add_assoc]
    exact h.coming _

theorem Shadows.after_reply (keeps : b.Keeps Alike) (h : Shadows Alike σ f g) {id j : Nat} (hid : σ id = some j)
    (reply : Reply) : Shadows Alike σ (f.after b (.reply id reply)) (g.after b (.reply j reply)) := by
  have same := h.task id j hid
  cases waits : f.task? id with
  | none =>
    rw [after_reply_of_none b f waits, after_reply_of_none b g (same.symm.trans waits)]
    exact h
  | some task =>
    have waits' := same.symm.trans waits
    obtain ⟨alike, next⟩ := keeps.resume _ _ reply task h.state
    refine ⟨?_, fun i j' hij => ?_, h.distinct, fun d => ?_⟩
    · rw [state_after_reply b f waits, state_after_reply b g waits']
      exact alike
    · have own : id = i ↔ j = j' := by
        constructor
        · rintro rfl
          exact Option.some.inj (hid.symm.trans hij)
        · rintro rfl
          exact h.distinct _ _ _ hid hij
      rw [task?_after_reply b f waits, task?_after_reply b g waits', h.task i j' hij, next]
      simp only [own]
    · rw [started_after, started_after]
      exact h.coming d

/-- What happens to the one flight happens to the other under its number, or is nothing to either. -/
theorem Shadows.after (keeps : b.Keeps Alike) (h : Shadows Alike σ f g) {o : Occurrence Operation Reply Adjustment}
    (lost : ∀ id reply, o = .reply id reply → σ id = none → f.task? id = none) :
    Shadows Alike σ (f.after b o) ((o.renumber σ).elim g (g.after b)) := by
  cases o with
  | start operation => exact h.after_start keeps operation
  | reply id reply =>
    cases hid : σ id with
    | none =>
      rw [Occurrence.renumber, hid, after_reply_of_none b f (lost id reply rfl hid)]
      exact h
    | some j =>
      rw [Occurrence.renumber, hid]
      exact h.after_reply keeps hid reply
  | adjust adjustment => exact ⟨keeps.adjust _ _ adjustment h.state, h.task, h.distinct, h.coming⟩

/-- An operation without a number gets no reply in the run, or is over. -/
def Lost (σ : Nat → Option Nat) (f : Flight State Task) (os : List (Occurrence Operation Reply Adjustment)) : Prop :=
  ∀ id, σ id = none → os.any (Occurrence.answers id) = false ∨ id < f.started ∧ f.task? id = none

/-- What happens to the one flight in a run happens to the other under other numbers. -/
theorem Shadows.run (keeps : b.Keeps Alike) {os : List (Occurrence Operation Reply Adjustment)}
    (h : Shadows Alike σ f g) (lost : Lost σ f os) :
    Shadows Alike σ (f.run b os) (g.run b (os.filterMap (Occurrence.renumber σ))) := by
  induction os generalizing f g with
  | nil => exact h
  | cons o os ih =>
    have first := h.after (o := o) keeps (by
      rintro id reply rfl hid
      rcases lost id hid with unanswered | ⟨-, finished⟩
      · rw [List.any_cons, (Occurrence.answers_reply id id reply).mpr rfl] at unanswered
        cases unanswered
      · exact finished)
    have rest : Lost σ (f.after b o) os := by
      intro id hid
      rcases lost id hid with unanswered | ⟨given, finished⟩
      · rw [List.any_cons, Bool.or_eq_false_iff] at unanswered
        exact Or.inl unanswered.2
      · exact Or.inr ⟨given_after given o, task?_after_of_over b finished given o⟩
    rw [run_cons]
    cases kept : o.renumber σ with
    | none =>
      rw [List.filterMap_cons_none kept]
      rw [kept] at first
      exact ih first rest
    | some o' =>
      rw [List.filterMap_cons_some kept, run_cons]
      rw [kept] at first
      exact ih first rest

/-- A reply that makes no difference to the state, to an operation that has no number in `g`. -/
theorem Shadows.reply_of_lost (h : Shadows Alike σ f g) {id : Nat} (hid : σ id = none) {task : Task}
    (waits : f.task? id = some task) (reply : Reply) (alike : Alike (b.resume f.state reply task).state g.state) :
    Shadows Alike σ (f.after b (.reply id reply)) g := by
  refine ⟨?_, fun i j hij => ?_, h.distinct, fun d => ?_⟩
  · rw [state_after_reply b f waits]
    exact alike
  · have other : id ≠ i := by
      rintro rfl
      rw [hid] at hij
      cases hij
    rw [task?_after_reply b f waits, if_neg other]
    exact h.task i j hij
  · rw [started_after]
    exact h.coming d

end

/-! ## One operation less -/

/-- The numbers of operations without the one numbered `n`. -/
def without (n i : Nat) : Option Nat := if i < n then some i else if i = n then none else some (i - 1)

/-- The numbers of operations if the one numbered `n` is there the one numbered `k`. -/
def handedOver (n k i : Nat) : Option Nat := if i = n then some k else if n < i ∧ i ≤ k then some (i - 1) else some i

theorem without_eq_none_iff {n i : Nat} : without n i = none ↔ i = n := by
  unfold without
  split
  · simp; omega
  · split <;> simp [*]

theorem without_eq_some_iff {n i j : Nat} : without n i = some j ↔ i < n ∧ j = i ∨ n < i ∧ j + 1 = i := by
  unfold without
  split
  · simp; omega
  · split <;> simp <;> omega

theorem handedOver_eq_some_iff {n k i j : Nat} (le : n ≤ k) :
    handedOver n k i = some j ↔ i = n ∧ j = k ∨ without n i = some j ∧ j < k ∨ k < i ∧ j = i := by
  rw [without_eq_some_iff]
  unfold handedOver
  split
  · simp; omega
  · split <;> simp <;> omega

section

variable {b : Behaviour State Task Operation Reply Adjustment} {Alike : State → State → Prop} {f g : Flight State Task}
  {n : Nat} {os : List (Occurrence Operation Reply Adjustment)}

theorem lost_of_unanswered (unanswered : os.any (Occurrence.answers n) = false) : Lost (without n) f os := by
  intro id hid
  rw [without_eq_none_iff.mp hid]
  exact Or.inl unanswered

theorem lost_of_over (given : n < f.started) (finished : f.task? n = none) : Lost (without n) f os := by
  intro id hid
  rw [without_eq_none_iff.mp hid]
  exact Or.inr ⟨given, finished⟩

/-- No operation is lost where one takes the place of another. -/
theorem lost_handedOver {k : Nat} : Lost (handedOver n k) f os := by
  intro id hid
  unfold handedOver at hid
  split at hid
  · cases hid
  · split at hid <;> cases hid

/-- The start of an operation that makes no difference to the state. -/
theorem shadows_start (numbered : f.Numbered) {operation : Operation}
    (alike : Alike (b.start f.state operation).state f.state) :
    Shadows Alike (without f.started) (f.after b (.start operation)) f := by
  refine ⟨?_, fun i j hij => ?_, fun i i' j hi hi' => ?_, fun d => ?_⟩
  · rw [state_after_start]
    exact alike
  · rw [task?_after_start]
    rcases without_eq_some_iff.mp hij with ⟨before, rfl⟩ | ⟨later, rfl⟩
    · rw [if_neg (by omega), Option.or_none]
    · rw [if_neg (by omega), Option.or_none, numbered (j + 1) (by omega), numbered j (by omega)]
  · rw [without_eq_some_iff] at hi hi'
    omega
  · rw [without_eq_some_iff, started_after]
    simp only [Occurrence.starts, if_true]
    omega

/-- The operation that `g` does without goes on as another one would start, and is that one from then on. -/
theorem Shadows.hand_over (h : Shadows Alike (without n) f g) (given : n < f.started) (numbered : f.Numbered)
    (numbered' : g.Numbered) {task : Task} (waits : f.task? n = some task) (reply : Reply) (operation : Operation)
    (alike : Alike (b.resume f.state reply task).state (b.start g.state operation).state)
    (next : (b.resume f.state reply task).next.task? = (b.start g.state operation).next.task?) :
    Shadows Alike (handedOver n g.started) (f.after b (.reply n reply)) (g.after b (.start operation)) := by
  have count : f.started = g.started + 1 := by
    have newest := without_eq_some_iff.mp (h.coming 0)
    omega
  have le : n ≤ g.started := by omega
  refine ⟨?_, fun i j hij => ?_, fun i i' j hi hi' => ?_, fun d => ?_⟩
  · rw [state_after_reply b f waits, state_after_start]
    exact alike
  · rw [task?_after_reply b f waits, task?_after_start]
    rcases (handedOver_eq_some_iff le).mp hij with ⟨rfl, rfl⟩ | ⟨old, below⟩ | ⟨above, rfl⟩
    · rw [if_pos rfl, numbered' _ (Nat.le_refl _), if_pos rfl, Option.none_or, next]
    · have other : n ≠ i := fun own => by
        rw [← own, without_eq_some_iff] at old
        omega
      rw [if_neg other, if_neg (by omega), Option.or_none]
      exact h.task i j old
    · rw [if_neg (by omega), if_neg (by omega), Option.or_none, numbered j (by omega), numbered' j (by omega)]
  · rw [handedOver_eq_some_iff le, without_eq_some_iff] at hi hi'
    omega
  · rw [handedOver_eq_some_iff le, started_after, started_after]
    simp only [Occurrence.starts, if_true]
    right
    right
    simp only [Bool.false_eq_true, if_false]
    omega

end

end Flight

end Switchboard
