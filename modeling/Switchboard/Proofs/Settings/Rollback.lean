import Mathlib.Data.List.Induction
import Switchboard.Proofs.Settings.Failing
import Switchboard.Proofs.Settings.Overlap

/-!
# What a rollback takes back

An update that fails goes back to the state in which it began, but for the page, if the persisted part is the one that
it made; otherwise nothing is taken back. In the first case every other field of the persisted part is as it was, so
only the field that was changed and the view are at stake (`same_undo`): what calls since then did to them is undone
with the update. That is the one way in which a change is lost that no later call replaced
(`in_effect_unless_taken_back`), and it does happen (`view_taken_back`).
-/

namespace Switchboard.Settings

/-- An aspect of what is shown. -/
inductive Aspect where
  | stored (φ : Field)
  | view
  | page

namespace Aspect

/-- Whether two states show the same. -/
def Same (s t : State) : Aspect → Prop
  | stored φ => φ.Agree s.persisted t.persisted
  | view => s.viewSpace = t.viewSpace
  | page => s.page = t.page

theorem Same.refl (s : State) (a : Aspect) : a.Same s s := by
  cases a with
  | stored φ => exact Field.Agree.refl _ φ
  | view | page => rfl

theorem Same.trans {s t u : State} {a : Aspect} (h : a.Same s t) (h' : a.Same t u) : a.Same s u := by
  cases a with
  | stored φ => exact Field.Agree.trans h h'
  | view | page => exact Eq.trans h h'

/-- What a rollback of a change may take back. -/
def AtStake (change : Change) (a : Aspect) : Prop := a = .view ∨ a = .stored change.field

end Aspect

/-- A moment is a call that sets an aspect, be it to what it is already. -/
inductive Sets : Moment → Aspect → Prop
  | field (change : Change) : Sets (.start change) (.stored change.field)
  /-- The view follows the active space. -/
  | follows (space : Option Uuid) : Sets (.start (.activeSpace space)) .view
  | view (space : Option Uuid) : Sets (.adjust (.view space)) .view
  | page (page : Page) : Sets (.adjust (.navigate page)) .page

/-! ## One moment -/

section

variable (s : State) {a : Aspect}

theorem same_apply {change : Change} (unset : ¬ Sets (.start change) a) : a.Same (s.apply change) s := by
  cases a with
  | stored φ =>
    refine agree_apply_of_ne s ?_
    rintro rfl
    exact unset (.field change)
  | view =>
    cases change with
    | activeSpace space => exact absurd (.follows space) unset
    | theme | sidebar | toggleSidebar => rfl
  | page => exact page_apply s change

theorem same_adjust {d : Adjustment} (unset : ¬ Sets (.adjust d) a) : a.Same (s.adjust d) s := by
  cases d with
  | view space =>
    cases a with
    | view => exact absurd (.view space) unset
    | stored φ => exact Field.Agree.refl _ φ
    | page => rfl
  | navigate page =>
    cases a with
    | page => exact absurd (.page page) unset
    | stored φ => exact Field.Agree.refl _ φ
    | view => rfl

/-- A rollback leaves an aspect as it is, or the persisted part is as the update made it, the aspect is at stake, and it
goes back to what it was when the update began. -/
theorem same_undo {task : Task} {change : Change} (made : task.after = (task.previous.apply change).persisted)
    (a : Aspect) : a.Same (s.undo task) s ∨
      s.persisted = task.after ∧ a.AtStake change ∧ a.Same (s.undo task) task.previous := by
  unfold State.undo
  split
  · rename_i unchanged
    cases a with
    | stored φ =>
      by_cases own : φ = change.field
      · exact Or.inr ⟨unchanged, Or.inr (congrArg Aspect.stored own), Field.Agree.refl _ φ⟩
      · left
        show φ.Agree task.previous.persisted s.persisted
        rw [unchanged, made]
        exact (agree_apply_of_ne task.previous own).symm
    | view => exact Or.inr ⟨unchanged, Or.inl rfl, rfl⟩
    | page => exact Or.inl rfl
  · exact Or.inl (.refl s a)

theorem state_start (change : Change) : (s.start change).state = s.apply change := by
  rcases s.start_cases change with ⟨-, turn⟩ | ⟨-, task, turn, -⟩ <;> rw [turn]

theorem state_resume_ok (task : Task) : (s.resume (.ok ()) task).state = s := by
  simp only [State.resume]
  split <;> rfl

/-- An update that goes on would still go back to where it began. -/
theorem resume_goes_on {result : Except String Unit} {task task' : Task}
    (h : (s.resume result task).next.task? = some task') :
    result = .ok () ∧ task'.previous = task.previous ∧ task'.after = task.after := by
  cases result with
  | error message => cases h
  | ok u =>
    simp only [State.resume] at h
    split at h
    · cases h
    · cases h
      exact ⟨rfl, rfl, rfl⟩

/-- An update waits with the state in which it began. -/
theorem task?_start {change : Change} {task : Task} (h : (s.start change).next.task? = some task) :
    task.previous = s ∧ task.after = (s.apply change).persisted := by
  rcases s.start_cases change with ⟨-, turn⟩ | ⟨-, t, turn, -, after, previous⟩
  · rw [turn] at h
    cases h
  · rw [turn] at h
    cases h
    exact ⟨previous, after⟩

end

/-! ## Runs -/

section

variable {data : KeyMap String} {os : List Moment}

theorem reached_concat (data : KeyMap String) (os : List Moment) (o : Moment) :
    reached data (os ++ [o]) = (reached data os).after o :=
  List.foldl_append

theorem store_reached (data : KeyMap String) (os : List Moment) :
    (reached data os).store = (Backed.restored data).store.run behaviour os := by
  induction os using List.reverseRecOn with
  | nil => rfl
  | append_singleton os o ih => rw [reached_concat, Flight.run_append, ← ih]; rfl

theorem started_le_reached (data : KeyMap String) (os ps : List Moment) :
    (reached data os).store.started ≤ (reached data (os ++ ps)).store.started := by
  rw [store_reached, store_reached, Flight.run_append, Flight.started_run behaviour _ ps]
  exact Nat.le_add_right _ _

/-- The update numbered `id` began with `change` in the state after `before`, and it would go back there. -/
structure Began (data : KeyMap String) (before : List Moment) (change : Change) (id : Nat) (task : Task) : Prop where
  number : (reached data before).store.started = id
  previous : task.previous = (reached data before).store.state
  after : task.after = ((reached data before).store.state.apply change).persisted

/-- What began before the first part of a run was over began in that part. -/
theorem Began.split {before since ys : List Moment} {change : Change} {id : Nat} {task : Task}
    (began : Began data before change id task) (run : os ++ ys = before ++ .start change :: since)
    (early : id < (reached data os).store.started) :
    ∃ since', os = before ++ .start change :: since' ∧ since = since' ++ ys := by
  rw [← began.number] at early
  rcases List.append_eq_append_iff.mp run with ⟨middle, rfl, -⟩ | ⟨middle, rfl, rest⟩
  · exact absurd (started_le_reached data os middle) (Nat.not_le_of_lt early)
  · cases middle with
    | nil =>
      rw [List.append_nil] at early
      exact absurd early (Nat.lt_irrefl _)
    | cons o since' =>
      cases rest
      exact ⟨since', rfl, rfl⟩

/-- An update began in a run, and it would go back to where it began. -/
def BeganIn (data : KeyMap String) (os : List Moment) (id : Nat) (task : Task) : Prop :=
  ∃ before change since, os = before ++ .start change :: since ∧ Began data before change id task

/-- What began in a run began in a longer one, however far it has come. -/
theorem BeganIn.concat {id : Nat} {t task : Task} (h : BeganIn data os id t) (o : Moment)
    (previous : task.previous = t.previous) (after : task.after = t.after) : BeganIn data (os ++ [o]) id task := by
  obtain ⟨before, change, since, rfl, began⟩ := h
  refine ⟨before, change, since ++ [o], ?_, began.number, previous.trans began.previous, after.trans began.after⟩
  rw [List.append_assoc, List.cons_append]

/-- An update that waits began in the run. -/
theorem began_of_waits {id : Nat} {task : Task} (waits : (reached data os).store.task? id = some task) :
    BeganIn data os id task := by
  induction os using List.reverseRecOn generalizing task with
  | nil => cases waits
  | append_singleton os o ih =>
    rw [reached_concat] at waits
    cases o with
    | start change =>
      rcases Option.or_eq_some_iff.mp ((Flight.task?_after_start ..).symm.trans waits) with old | ⟨-, new⟩
      · exact (ih old).concat _ rfl rfl
      · split at new
        · rename_i number
          obtain ⟨previous, after⟩ := task?_start _ new
          exact ⟨os, change, [], rfl, number, previous, after⟩
        · cases new
    | reply i result =>
      cases ht : (reached data os).store.task? i with
      | none =>
        rw [Backed.after_of_none ht] at waits
        exact (ih waits).concat _ rfl rfl
      | some t =>
        have next := (Flight.task?_after_reply behaviour _ ht result id).symm.trans waits
        split at next
        · rename_i own
          subst own
          obtain ⟨-, previous, after⟩ := resume_goes_on _ next
          exact (ih ht).concat _ previous after
        · exact (ih next).concat _ rfl rfl
    | adjust d => exact (ih waits).concat _ rfl rfl

/-- The update that `change` began after the run `before` fails in the moment `f`, after `since`, and takes an aspect
back. -/
structure TakesBack (data : KeyMap String) (before : List Moment) (change : Change) (since : List Moment) (f : Moment)
    (a : Aspect) : Prop where
  fails : ∃ message, f = .reply (reached data before).store.started (.error message)
  waits : ((reached data (before ++ .start change :: since)).store.task? (reached data before).store.started).isSome
  /-- The persisted part is what the update made of it. -/
  made : (reached data (before ++ .start change :: since)).store.state.persisted =
    ((reached data before).store.state.apply change).persisted
  atStake : a.AtStake change
  /-- The aspect is again what it was when the update began. -/
  back : a.Same (reached data (before ++ .start change :: since ++ [f])).store.state (reached data before).store.state

/-- The moment after a run takes an aspect back: the update that fails began in the run `os`. -/
def TakenBack (data : KeyMap String) (os ys : List Moment) (a : Aspect) : Prop :=
  ∃ before change since zs f ws, os = before ++ .start change :: since ∧ ys = zs ++ f :: ws ∧
    TakesBack data before change (since ++ zs) f a

theorem TakenBack.concat {ys : List Moment} {a : Aspect} (h : TakenBack data os ys a) (o : Moment) :
    TakenBack data os (ys ++ [o]) a := by
  obtain ⟨before, change, since, zs, f, ws, rfl, rfl, takes⟩ := h
  exact ⟨before, change, since, zs, f, ws ++ [o], rfl, by rw [List.append_assoc]; rfl, takes⟩

/-- An aspect is as it was after the run `os`, and it would be so after the rollback of any later update. -/
structure InEffect (data : KeyMap String) (os ys : List Moment) (a : Aspect) : Prop where
  same : a.Same (reached data (os ++ ys)).store.state (reached data os).store.state
  later : ∀ id task, (reached data (os ++ ys)).store.task? id = some task → (reached data os).store.started ≤ id →
    a.Same task.previous (reached data os).store.state

namespace InEffect

variable {ys : List Moment} {a : Aspect}

theorem nil (numbered : (reached data os).store.Numbered) (a : Aspect) : InEffect data os [] a := by
  refine ⟨?_, fun id task waits later => ?_⟩
  · rw [List.append_nil]
    exact .refl _ a
  · rw [List.append_nil, numbered id later] at waits
    cases waits

/-- An aspect is in effect after a moment that shows the same of it, where no update goes back to another state than
before. -/
theorem keep (h : InEffect data os ys a) {o : Moment}
    (same : a.Same ((reached data (os ++ ys)).after o).store.state (reached data (os ++ ys)).store.state)
    (tasks : ∀ id task, ((reached data (os ++ ys)).after o).store.task? id = some task →
      task.previous = (reached data (os ++ ys)).store.state ∨
        ∃ t, (reached data (os ++ ys)).store.task? id = some t ∧ task.previous = t.previous) :
    InEffect data os (ys ++ [o]) a := by
  refine ⟨?_, fun id task waits later => ?_⟩
  · rw [← List.append_assoc, reached_concat]
    exact same.trans h.same
  · rw [← List.append_assoc, reached_concat] at waits
    rcases tasks id task waits with previous | ⟨t, waited, previous⟩
    · rw [previous]
      exact h.same
    · rw [previous]
      exact h.later id t waited later

theorem start (h : InEffect data os ys a) {change : Change} (unset : ¬ Sets (.start change) a) :
    InEffect data os (ys ++ [.start change]) a := by
  refine h.keep ?_ fun id task waits => ?_
  · show a.Same ((reached data (os ++ ys)).store.after behaviour (.start change)).state _
    rw [Flight.state_after_start]
    show a.Same ((reached data (os ++ ys)).store.state.start change).state _
    rw [state_start]
    exact same_apply _ unset
  · rcases Option.or_eq_some_iff.mp ((Flight.task?_after_start ..).symm.trans waits) with old | ⟨-, new⟩
    · exact Or.inr ⟨task, old, rfl⟩
    · split at new
      · exact Or.inl (task?_start _ new).1
      · cases new

theorem adjust (h : InEffect data os ys a) {d : Adjustment} (unset : ¬ Sets (.adjust d) a) :
    InEffect data os (ys ++ [.adjust d]) a :=
  h.keep (same_adjust _ unset) fun _ task waits => Or.inr ⟨task, waits, rfl⟩

section Reply

variable {id : Nat} {task : Task} (waits : (reached data (os ++ ys)).store.task? id = some task)
include waits

theorem tasks_reply (result : Except String Unit) {i : Nat} {t : Task}
    (waits' : ((reached data (os ++ ys)).after (.reply id result)).store.task? i = some t) :
    ∃ t', (reached data (os ++ ys)).store.task? i = some t' ∧ t.previous = t'.previous := by
  have next := (Flight.task?_after_reply behaviour _ waits result i).symm.trans waits'
  split at next
  · rename_i own
    subst own
    exact ⟨task, waits, (resume_goes_on _ next).2.1⟩
  · exact ⟨t, next, rfl⟩

theorem succeed (h : InEffect data os ys a) : InEffect data os (ys ++ [.reply id (.ok ())]) a := by
  refine h.keep ?_ fun i t waits' => Or.inr (tasks_reply waits _ waits')
  show a.Same ((reached data (os ++ ys)).store.after behaviour (.reply id (.ok ()))).state _
  rw [Flight.state_after_reply behaviour _ waits]
  show a.Same ((reached data (os ++ ys)).store.state.resume (.ok ()) task).state _
  rw [state_resume_ok]
  exact .refl _ a

/-- An aspect that a failing update takes back goes to what it was when the update began. If that was after the run
`os`, it was the same then. -/
theorem fail (h : InEffect data os ys a) (message : String) :
    InEffect data os (ys ++ [.reply id (.error message)]) a ∨
      TakenBack data os (ys ++ [.reply id (.error message)]) a := by
  have state : ((reached data (os ++ ys)).after (.reply id (.error message))).store.state =
      (reached data (os ++ ys)).store.state.undo task :=
    Flight.state_after_reply behaviour _ waits _
  have tasks := fun i t => tasks_reply (i := i) (t := t) waits (.error message)
  obtain ⟨before, change, since, run, began⟩ := began_of_waits waits
  have made : task.after = (task.previous.apply change).persisted := by rw [began.after, began.previous]
  rcases same_undo (reached data (os ++ ys)).store.state made a with same | ⟨unchanged, atStake, back⟩
  · exact Or.inl (h.keep (by rwa [state]) fun i t waits' => Or.inr (tasks i t waits'))
  · by_cases later : (reached data os).store.started ≤ id
    · -- the update began after `os`, when the aspect was in effect
      left
      refine ⟨?_, fun i t waits' => ?_⟩
      · rw [← List.append_assoc, reached_concat, state]
        exact back.trans (h.later id task waits later)
      · rw [← List.append_assoc, reached_concat] at waits'
        obtain ⟨t', waited, previous⟩ := tasks i t waits'
        rw [previous]
        exact h.later i t' waited
    · right
      obtain ⟨since', rfl, rfl⟩ := began.split run (Nat.lt_of_not_le later)
      have regroup : before ++ .start change :: (since' ++ ys) = before ++ .start change :: since' ++ ys := by
        rw [List.append_assoc, List.cons_append]
      refine ⟨before, change, since', ys, _, [], rfl, rfl, ⟨message, by rw [began.number]⟩, ?_, ?_, atStake, ?_⟩
      · rw [regroup, began.number, waits]
        rfl
      · rw [regroup, unchanged, began.after]
      · rw [regroup, reached_concat, state, ← began.previous]
        exact back

theorem reply (h : InEffect data os ys a) (result : Except String Unit) :
    InEffect data os (ys ++ [.reply id result]) a ∨ TakenBack data os (ys ++ [.reply id result]) a := by
  cases result with
  | ok u => exact Or.inl (succeed waits h)
  | error message => exact fail waits h message

end Reply

/-- One moment more: an aspect that it does not set stays in effect, or it is taken back. -/
theorem concat (h : InEffect data os ys a) {o : Moment} (unset : ¬ Sets o a) :
    InEffect data os (ys ++ [o]) a ∨ TakenBack data os (ys ++ [o]) a := by
  cases o with
  | start change => exact Or.inl (h.start unset)
  | adjust d => exact Or.inl (h.adjust unset)
  | reply id result =>
    cases waits : (reached data (os ++ ys)).store.task? id with
    | none =>
      have same := Backed.after_of_none waits result
      exact Or.inl (h.keep (by rw [same]; exact .refl _ a) fun _ t waits' => Or.inr ⟨t, by rwa [same] at waits', rfl⟩)
    | some task => exact reply waits h result

end InEffect

theorem numbered_reached (data : KeyMap String) (os : List Moment) : (reached data os).store.Numbered := by
  rw [store_reached]
  exact Flight.Numbered.run behaviour (fun _ _ => rfl) os

theorem inEffect_or_takenBack (data : KeyMap String) (os : List Moment) {ys : List Moment} {a : Aspect}
    (unset : ∀ o ∈ ys, ¬ Sets o a) : InEffect data os ys a ∨ TakenBack data os ys a := by
  induction ys using List.reverseRecOn with
  | nil => exact Or.inl (.nil (numbered_reached data os) a)
  | append_singleton ys o ih =>
    rcases ih fun o' ho' => unset o' (List.mem_append_left _ ho') with inEffect | takenBack
    · exact inEffect.concat (unset o (List.mem_append_right _ (List.mem_singleton_self o)))
    · exact Or.inr (takenBack.concat o)

/-- **What is undone.** From any moment of a run on, an aspect that no call sets is as it was, unless an update that
began before fails while the persisted part is as that update made it, and the aspect is the view or the field that the
update changed: then the aspect goes back to what it was when that update began. So a page that was gone to stays, and
so does what others did to another field, or to any aspect if the persisted part is not what the update made. -/
theorem in_effect_unless_taken_back (data : KeyMap String) (os : List Moment) {ys : List Moment} {a : Aspect}
    (unset : ∀ o ∈ ys, ¬ Sets o a) :
    a.Same (reached data (os ++ ys)).store.state (reached data os).store.state ∨ TakenBack data os ys a :=
  (inEffect_or_takenBack data os unset).imp_left InEffect.same

end

/-- The theme is changed, and before that is stored someone goes to another page. -/
def darkThenRegistry : List Moment := [.start (.theme .dark), .adjust (.navigate .registry)]

theorem page_outlasts_rollback :
    (reached .empty (darkThenRegistry ++ [.reply 0 (.error "disk full")])).store.state.page = .registry := by
  have unset : ∀ o ∈ [Occurrence.reply 0 (.error "disk full")], ¬ Sets o .page := by
    intro o ho sets
    cases List.mem_singleton.mp ho
    cases sets
  rcases in_effect_unless_taken_back .empty darkThenRegistry unset with same | ⟨_, _, _, _, _, _, _, _, takes⟩
  · exact same
  · rcases takes.atStake with view | stored
    · cases view
    · cases stored

/-- The call in a moment has been accepted: an adjustment is at once, an update when it has returned without an
error. -/
def Accepted (b : Backed) (number : Nat) : Moment → Prop
  | .adjust _ => True
  | .start _ => (number, .ok ()) ∈ b.returned
  | .reply .. => False

/-- Someone looks at another space while a theme is stored. That fails, and the view is taken back as well. -/
theorem view_taken_back : ¬ ∀ (data : KeyMap String) (before : List Moment) (change : Change) (xs : List Moment)
    (o : Moment) (ys : List Moment) (message : String) (a : Aspect),
    ((reached data (before ++ .start change :: xs ++ o :: ys)).store.task? (reached data before).store.started).isSome →
    Accepted (reached data (before ++ .start change :: xs ++ o :: ys))
      (reached data (before ++ .start change :: xs)).store.started o →
    Sets o a → (∀ o' ∈ ys, ¬ Sets o' a) →
    a.Same (reached data (before ++ .start change :: xs ++ o :: ys ++
        [.reply (reached data before).store.started (.error message)])).store.state
      (reached data (before ++ .start change :: xs ++ [o])).store.state := by
  intro claim
  have same := claim .empty [] (.theme .dark) [] (.adjust (.view (some ⟨1⟩))) [] "disk full" .view (by decide) trivial
    (.view _) (fun _ ho => absurd ho List.not_mem_nil)
  cases same

/-- An update to what is shown already returns at once, and yet it is taken back with the one that made it so. -/
example : (reached .empty [.start (.theme .dark), .start (.theme .dark)]).returned = [(1, .ok ())] ∧
    (reached .empty [.start (.theme .dark), .start (.theme .dark), .reply 0 (.error "disk full")]).store.state = {} :=
  ⟨rfl, by decide⟩

end Switchboard.Settings
