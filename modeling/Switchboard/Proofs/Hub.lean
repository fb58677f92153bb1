import Mathlib.Data.List.Induction
import Switchboard.Hub

/-!
# What a hub holds

A hub is what was done to it: listeners were registered and subscriptions dropped (`Change`). At every moment it holds
the listeners that were registered and whose subscription was not dropped since, in the order of registration, each
under a number of its own (`holds_made`). Dropping a subscription removes the listener that it is for and no other
(`Holds.unsubscribe_own`).
-/

namespace Switchboard.Hub

variable {Handler : Type}

/-- What is done to a hub. -/
inductive Change (Handler : Type) where
  | listen (channel : String) (handler : Handler)
  | drop (s : Subscription)

/-- Whether a change registers a listener. -/
def Change.registers : Change Handler → Bool
  | .listen .. => true
  | .drop _ => false

/-- The hub after a change. -/
def change (hub : Hub Handler) : Change Handler → Hub Handler
  | .listen channel handler => hub.listen channel handler
  | .drop s => hub.unsubscribe s

/-- The hub after several changes. -/
def changed (hub : Hub Handler) (changes : List (Change Handler)) : Hub Handler := changes.foldl change hub

/-- The hub that a history makes of a new one. -/
def made (history : List (Change Handler)) : Hub Handler := changed {} history

/-- The listener was registered, as the next one after those before it, and its subscription was not dropped since. -/
def Stands (history : List (Change Handler)) (l : Listener Handler) : Prop :=
  ∃ before later, history = before ++ .listen l.subscription.channel l.handler :: later ∧
    l.subscription.id = before.countP Change.registers ∧ .drop l.subscription ∉ later

/-- What a hub of a history holds. -/
structure Holds (hub : Hub Handler) (history : List (Change Handler)) : Prop where
  /-- On a channel are the listeners that were registered on it and not dropped since. -/
  mem_on_iff : ∀ channel l, l ∈ hub.on channel ↔ l.subscription.channel = channel ∧ Stands history l
  /-- They are in the order of registration, and no two of them have the same number. -/
  ordered : hub.listeners.Pairwise fun l l' => l.subscription.id < l'.subscription.id

theorem made_append (history changes : List (Change Handler)) :
    made (history ++ changes) = (made history).changed changes := List.foldl_append

theorem made_concat (history : List (Change Handler)) (c : Change Handler) :
    made (history ++ [c]) = (made history).change c := made_append history [c]

theorem mem_on {hub : Hub Handler} {channel : String} {l : Listener Handler} :
    l ∈ hub.on channel ↔ l ∈ hub.listeners ∧ l.subscription.channel = channel := by
  rw [on, List.mem_filter, beq_iff_eq]

theorem registered_made (history : List (Change Handler)) :
    (made history).registered = history.countP Change.registers := by
  induction history using List.reverseRecOn with
  | nil => rfl
  | append_singleton history c ih =>
    rw [made_concat, List.countP_append, ← ih]
    cases c <;> rfl

/-! ## Who stands -/

theorem Stands.lt {history : List (Change Handler)} {l : Listener Handler} (h : Stands history l) :
    l.subscription.id < history.countP Change.registers := by
  obtain ⟨before, later, rfl, number, -⟩ := h
  rw [number, List.countP_append, List.countP_cons_of_pos rfl]
  omega

theorem stands_concat_drop {history : List (Change Handler)} {s : Subscription} {l : Listener Handler} :
    Stands (history ++ [.drop s]) l ↔ Stands history l ∧ l.subscription ≠ s := by
  constructor
  · rintro ⟨before, later, e, number, kept⟩
    rcases List.eq_nil_or_concat later with rfl | ⟨later, last, rfl⟩
    · cases (List.append_inj' e rfl).2
    · rw [List.concat_eq_append, ← List.cons_append, ← List.append_assoc] at e
      obtain ⟨rfl, last⟩ := List.append_inj' e rfl
      cases last
      rw [List.concat_eq_append, List.mem_append, List.mem_singleton, not_or] at kept
      exact ⟨⟨before, later, rfl, number, kept.1⟩, fun own => kept.2 (by rw [own])⟩
  · rintro ⟨⟨before, later, rfl, number, kept⟩, other⟩
    refine ⟨before, later ++ [.drop s], by rw [List.append_assoc, List.cons_append], number, ?_⟩
    rw [List.mem_append, List.mem_singleton, not_or, Change.drop.injEq]
    exact ⟨kept, other⟩

theorem stands_concat_listen {history : List (Change Handler)} {channel : String} {handler : Handler}
    {l : Listener Handler} :
    Stands (history ++ [.listen channel handler]) l ↔
      Stands history l ∨ l = ⟨⟨channel, history.countP Change.registers⟩, handler⟩ := by
  constructor
  · rintro ⟨before, later, e, number, kept⟩
    rcases List.eq_nil_or_concat later with rfl | ⟨later, last, rfl⟩
    · obtain ⟨rfl, last⟩ := List.append_inj' e rfl
      cases last
      rw [← number]
      exact Or.inr rfl
    · rw [List.concat_eq_append, ← List.cons_append, ← List.append_assoc] at e
      obtain ⟨rfl, -⟩ := List.append_inj' e rfl
      exact Or.inl ⟨before, later, rfl, number, fun dropped => kept (by simp [dropped])⟩
  · rintro (⟨before, later, rfl, number, kept⟩ | rfl)
    · refine ⟨before, later ++ [.listen channel handler], by rw [List.append_assoc, List.cons_append], number, ?_⟩
      rw [List.mem_append, List.mem_singleton, not_or]
      exact ⟨kept, nofun⟩
    · exact ⟨history, [], rfl, rfl, List.not_mem_nil⟩

/-! ## What a hub holds -/

theorem mem_listeners_made {history : List (Change Handler)} {l : Listener Handler} :
    l ∈ (made history).listeners ↔ Stands history l := by
  induction history using List.reverseRecOn with
  | nil =>
    refine ⟨nofun, fun ⟨before, later, e, _⟩ => ?_⟩
    cases before <;> cases e
  | append_singleton history c ih =>
    rw [made_concat]
    cases c with
    | listen channel handler =>
      rw [stands_concat_listen, ← ih, ← registered_made]
      exact List.mem_append.trans (or_congr_right List.mem_singleton)
    | drop s =>
      rw [stands_concat_drop, ← ih]
      exact List.mem_filter.trans (and_congr_right fun _ => bne_iff_ne)

/-- **What a hub holds** at every moment. -/
theorem holds_made (history : List (Change Handler)) : (made history).Holds history where
  mem_on_iff channel l := by rw [mem_on, mem_listeners_made, and_comm]
  ordered := by
    induction history using List.reverseRecOn with
    | nil => exact List.Pairwise.nil
    | append_singleton history c ih =>
      rw [made_concat]
      cases c with
      | listen channel handler =>
        refine List.pairwise_append.mpr ⟨ih, List.pairwise_singleton _ _, fun l old new hnew => ?_⟩
        rw [List.mem_singleton.mp hnew]
        show l.subscription.id < (made history).registered
        rw [registered_made]
        exact (mem_listeners_made.mp old).lt
      | drop s => exact ih.sublist List.filter_sublist

/-- Dropping a subscription removes the listener that it is for, and leaves all others in their order. -/
theorem Holds.unsubscribe_own {hub : Hub Handler} {history : List (Change Handler)} (h : hub.Holds history)
    {before later : List (Listener Handler)} {l : Listener Handler} (e : hub.listeners = before ++ l :: later) :
    (hub.unsubscribe l.subscription).listeners = before ++ later := by
  have ordered := h.ordered
  rw [e, List.pairwise_append, List.pairwise_cons] at ordered
  obtain ⟨-, ⟨up, -⟩, down⟩ := ordered
  have others : ∀ l' ∈ before ++ later, (l'.subscription != l.subscription) = true := by
    intro l' mem
    rw [bne_iff_ne]
    intro same
    rcases List.mem_append.mp mem with mem | mem
    · exact absurd (congrArg Subscription.id same) (Nat.ne_of_lt (down l' mem l List.mem_cons_self))
    · exact absurd (congrArg Subscription.id same) (Nat.ne_of_gt (up l' mem))
  show hub.listeners.filter _ = before ++ later
  rw [e, List.filter_append, List.filter_cons_of_neg (by simp), ← List.filter_append, List.filter_eq_self.mpr others]

end Switchboard.Hub
