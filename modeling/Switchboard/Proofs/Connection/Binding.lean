import Mathlib.Data.List.DropRight
import Switchboard.Connection.Store
import Switchboard.Proofs.Flight

/-!
# Isolation of bindings

A run of a store falls into its last binding, what came before and what came since. Of all that, what is known at the
end depends on little: the last binding, and since then the reply to its own snapshot, the events of its space and the
user's changes, its *own run* (`ownRun`).

* `Expects k f` says which operation the binding `k` still awaits its snapshot from: the one with its ticket, and no
  other operation holds a snapshot task for the number of the binding. A moment that does not bind keeps this
  (`Expects.after`), and a moment that binds sets it up (`expects_after_of_binds`).
* `Mirrors k f g` relates a store to the store that sees the own run only; it is kept by every moment, where `g` takes
  in what is left of the moment (`Mirrors.after`).
* `binding_isolated` puts these together for every run from the start.
-/

namespace Switchboard.Connection

open Backend (Reply)

/-- What happens to the connections. -/
abbrev Moment := Occurrence Operation Reply Adjustment

/-- A store that nothing happened to. -/
def fresh : Store := { state := {} }

/-- The store after a run from the start. -/
def reached (os : List Moment) : Store := fresh.run behaviour os

/-- A state but for the number of its binding and the requests under way. -/
def State.contents (s : State) : State := { s with binding := 0, pending := .empty }

/-! ## The last binding of a run -/

/-- A binding: its space, and the number of the operation that asks for its snapshot. -/
structure Binding where
  space : Option Uuid := none
  ticket : Option Nat := none
  deriving DecidableEq, Repr

/-- Whether a moment makes a binding, or ends one. -/
def binds : Moment → Bool
  | .start (.attach _) => true
  | .adjust .unbind => true
  | _ => false

theorem binds_cases {o : Moment} (h : binds o = true) :
    (∃ space, o = .start (.attach space)) ∨ o = .adjust .unbind := by
  cases o with
  | start operation =>
    cases operation with
    | attach space => exact Or.inl ⟨space, rfl⟩
    | request r server => cases h
  | reply id reply => cases h
  | adjust a =>
    cases a with
    | unbind => exact Or.inr rfl
    | _ => cases h

theorem ne_unbind {a : Adjustment} (h : binds (.adjust a) = false) : a ≠ .unbind := by
  rintro rfl
  cases h

/-- The binding that a moment leaves if `started` operations were started before it. -/
def bindingAt (started : Nat) : Moment → Binding
  | .start (.attach space) => { space := some space, ticket := some started }
  | _ => {}

/-- A run up to its last binding. -/
def untilBinding (os : List Moment) : List Moment := os.rdropWhile fun o => !binds o

/-- A run after its last binding. -/
def sinceBinding (os : List Moment) : List Moment := os.rtakeWhile fun o => !binds o

/-- The last binding of a run. -/
def lastBinding (os : List Moment) : Binding :=
  match (untilBinding os).getLast? with
  | some o => bindingAt ((untilBinding os).dropLast.countP Occurrence.starts) o
  | none => {}

/-- Whether a change is of concern to a space: an event is only to its own. -/
def concerns (space : Option Uuid) : Adjustment → Bool
  | .status e => space == some e.spaceId
  | .progress e => space == some e.spaceId
  | .features e => space == some e.spaceId
  | .unbind => true
  | .collapse _ => true
  | .dismissError => true

/-- What a moment is to a binding: the reply to its snapshot, which is the first operation of its own run, or a change
that is of concern to its space. -/
def own (k : Binding) : Moment → Option Moment
  | .start _ => none
  | .reply id reply => if k.ticket = some id then some (.reply 0 reply) else none
  | .adjust a => if concerns k.space a then some (.adjust a) else none

/-- The last binding of a run, and of what came since then its own moments. -/
def ownRun (os : List Moment) : List Moment :=
  (untilBinding os).getLast?.toList ++ (sinceBinding os).filterMap (own (lastBinding os))

/-- Whether the reply to the snapshot came in a run. -/
def Binding.answered (k : Binding) (os : List Moment) : Bool :=
  os.any fun
    | .reply id _ => k.ticket == some id
    | _ => false

theorem answered_reply (k : Binding) (id : Nat) (reply : Reply) :
    k.answered [.reply id reply] = (k.ticket == some id) := Bool.or_false _

theorem answered_cons (k : Binding) (o : Moment) (os : List Moment) :
    k.answered (o :: os) = (k.answered [o] || k.answered os) := by
  simp [Binding.answered]

theorem binds_of_mem_sinceBinding {os : List Moment} {o : Moment} (h : o ∈ sinceBinding os) : binds o = false := by
  simpa using List.mem_rtakeWhile_imp h

/-- A run has no binding, or a last one. -/
theorem last_binding_cases (os : List Moment) :
    (untilBinding os = [] ∧ sinceBinding os = os) ∨
    ∃ before o, binds o = true ∧ untilBinding os = before ++ [o] ∧ os = before ++ o :: sinceBinding os := by
  have parts : untilBinding os ++ sinceBinding os = os := List.rdropWhile_append_rtakeWhile
  by_cases h : untilBinding os = []
  · rw [h, List.nil_append] at parts
    exact Or.inl ⟨h, parts⟩
  · have last : binds ((untilBinding os).getLast h) = true := by
      have : ¬(!binds ((untilBinding os).getLast h)) = true := List.rdropWhile_last_not _ os h
      simpa using this
    refine Or.inr ⟨(untilBinding os).dropLast, (untilBinding os).getLast h, last, ?_, ?_⟩
    · exact (List.dropLast_append_getLast h).symm
    · rw [← List.singleton_append, ← List.append_assoc, List.dropLast_append_getLast h, parts]

/-! ## What a moment does to the contents -/

namespace State

variable (s : State)

/-- The number of the binding and the requests under way have no part in any change but a binding. -/
theorem contents_adjust {a : Adjustment} (h : a ≠ .unbind) : (s.adjust a).contents = s.contents.adjust a := by
  cases a with
  | unbind => exact absurd rfl h
  | status e =>
    have same : s.contents.accepts e = s.accepts e := rfl
    simp only [adjust, acceptStatus, same]
    split <;> rfl
  | progress e =>
    have same : s.contents.isBoundTo e.spaceId = s.isBoundTo e.spaceId := rfl
    simp only [adjust, acceptProgress, same]
    split <;> rfl
  | features e =>
    have same : s.contents.isBoundTo e.spaceId = s.isBoundTo e.spaceId := rfl
    simp only [adjust, acceptFeatures, same]
    split <;> rfl
  | collapse server => rfl
  | dismissError => rfl

/-- A change that is of no concern to the bound space is none. -/
theorem adjust_of_not_concerns {a : Adjustment} (h : concerns s.space a = false) : s.adjust a = s := by
  cases a with
  | status e => simp only [adjust, acceptStatus, accepts, isBoundTo, show (s.space == some e.spaceId) = false from h,
      Bool.false_and, Bool.false_eq_true, if_false]
  | progress e => simp only [adjust, acceptProgress, isBoundTo, show (s.space == some e.spaceId) = false from h,
      Bool.false_eq_true, if_false]
  | features e => simp only [adjust, acceptFeatures, isBoundTo, show (s.space == some e.spaceId) = false from h,
      Bool.false_eq_true, if_false]
  | unbind => cases h
  | collapse server => cases h
  | dismissError => cases h

/-- Nothing but a binding changes the bound space, its number or whether its snapshot is awaited. -/
theorem adjust_keeps {a : Adjustment} (h : a ≠ .unbind) :
    (s.adjust a).space = s.space ∧ (s.adjust a).binding = s.binding ∧ (s.adjust a).loading = s.loading := by
  cases a with
  | unbind => exact absurd rfl h
  | status e =>
    simp only [adjust, acceptStatus]
    split <;> exact ⟨rfl, rfl, rfl⟩
  | progress e =>
    simp only [adjust, acceptProgress]
    split <;> exact ⟨rfl, rfl, rfl⟩
  | features e =>
    simp only [adjust, acceptFeatures]
    split <;> exact ⟨rfl, rfl, rfl⟩
  | collapse server => exact ⟨rfl, rfl, rfl⟩
  | dismissError => exact ⟨rfl, rfl, rfl⟩

/-- Making a request changes which requests are under way, and nothing else. -/
theorem start_request (r : Backend.Request) (server : String) :
    ∃ pending, (s.start (.request r server)).state = { s with pending } := by
  simp only [start]
  split
  · exact ⟨s.pending, rfl⟩
  · exact ⟨s.pending.add server, rfl⟩

/-- So does its acknowledgement. -/
theorem resume_request (reply : Reply) (r : Backend.Request) (space : Uuid) (server : String) :
    ∃ pending, (s.resume reply (.request r space server)).state = { s with pending } := by
  have acknowledged : ∃ pending, s.acknowledged space server = { s with pending } := by
    unfold State.acknowledged
    split
    · exact ⟨s.pending.erase server, rfl⟩
    · exact ⟨s.pending, rfl⟩
  simp only [resume]
  split <;> exact acknowledged

/-- A request is answered by no snapshot. -/
theorem task?_start_request (r : Backend.Request) (server : String) (space : Uuid) (n : Nat) :
    (s.start (.request r server)).next.task? ≠ some (.snapshot space n) := by
  simp only [start]
  split <;> simp [Next.task?]

/-- Every operation ends with its reply. -/
theorem task?_resume (reply : Reply) (task : Task) : (s.resume reply task).next.task? = none := by
  cases task with
  | snapshot space n => rfl
  | request r space server =>
    simp only [resume]
    split <;> rfl

/-- The snapshot of an earlier binding is discarded. -/
theorem finishAttach_of_ne {n : Nat} (h : s.binding ≠ n) (space : Uuid) (reply : Reply) :
    s.finishAttach space n reply = s := if_neg h

/-- The reply to the snapshot of the binding ends the wait, whatever it says. -/
theorem finishAttach_keeps (space : Uuid) (reply : Reply) :
    (s.finishAttach space s.binding reply).space = s.space ∧
    (s.finishAttach space s.binding reply).binding = s.binding ∧
    (s.finishAttach space s.binding reply).loading = false := by
  rw [finishAttach, if_pos rfl]
  split <;> exact ⟨rfl, rfl, rfl⟩

/-- What the reply brings does not depend on the number of the binding. -/
theorem contents_finishAttach (space space' : Uuid) (reply : Reply) :
    (s.finishAttach space s.binding reply).contents = s.contents.finishAttach space' 0 reply := by
  have same : reply.statuses space = reply.statuses space' := rfl
  have zero : s.contents.binding = 0 := rfl
  rw [finishAttach, finishAttach, if_pos rfl, if_pos zero, same]
  split <;> rfl

end State

/-! ## The awaited snapshot -/

/-- The store is bound by `k`: the operation with its ticket waits for the snapshot of the binding, or is over, and no
other operation waits for it. -/
structure Expects (k : Binding) (f : Store) : Prop where
  numbered : f.Numbered
  space : f.state.space = k.space
  given : ∀ id, k.ticket = some id → id < f.started
  own : ∀ id task, k.ticket = some id → f.task? id = some task → ∃ space, task = .snapshot space f.state.binding
  past : ∀ id space n, f.task? id = some (.snapshot space n) → n ≤ f.state.binding
  alone : ∀ id space, f.task? id = some (.snapshot space f.state.binding) → k.ticket = some id
  loading : f.state.loading = (k.ticket.bind f.task?).isSome

section Step

variable {k : Binding} {f g : Store}

/-- Whatever leaves the own operation alone and adds no snapshot to come leaves the binding as it is. -/
theorem Expects.keep (h : Expects k f) (numbered : g.Numbered) (started : f.started ≤ g.started)
    (state : g.state.space = f.state.space ∧ g.state.binding = f.state.binding ∧ g.state.loading = f.state.loading)
    (same : ∀ id, k.ticket = some id → g.task? id = f.task? id)
    (fewer : ∀ id space n, g.task? id = some (.snapshot space n) → f.task? id = some (.snapshot space n)) :
    Expects k g := by
  obtain ⟨space, binding, loading⟩ := state
  refine ⟨numbered, space.trans h.space, fun id hid => (h.given id hid).trans_le started, ?_, ?_, ?_, ?_⟩
  · intro id task hid htask
    rw [binding]
    exact h.own id task hid (same id hid ▸ htask)
  · intro id space n htask
    rw [binding]
    exact h.past id space n (fewer id space n htask)
  · intro id space htask
    rw [binding] at htask
    exact h.alone id space (fewer id space _ htask)
  · rw [loading, h.loading]
    cases hk : k.ticket with
    | none => rfl
    | some id => rw [Option.bind_some, Option.bind_some, same id hk]

variable (f) in
/-- Making a request changes at most which requests are under way. -/
theorem state_after_request (r : Backend.Request) (server : String) :
    ∃ pending, (f.after behaviour (.start (.request r server))).state = { f.state with pending } := by
  obtain ⟨pending, e⟩ := f.state.start_request r server
  exact ⟨pending, (f.state_after_start behaviour _).trans e⟩

variable (f) in
/-- A reply ends its operation. -/
theorem task?_after_answer (id : Nat) (reply : Reply) (i : Nat) :
    (f.after behaviour (.reply id reply)).task? i = if id = i then none else f.task? i := by
  cases htask : f.task? id with
  | none =>
    rw [Flight.after_reply_of_none _ _ htask]
    split
    · rename_i same
      rw [← same, htask]
    · rfl
  | some task =>
    rw [f.task?_after_reply behaviour htask]
    simp only [behaviour, State.task?_resume]

/-- The reply to another operation changes at most which requests are under way. -/
theorem Expects.after_other_reply (h : Expects k f) {id : Nat} (hid : k.ticket ≠ some id) (reply : Reply) :
    ∃ pending, (f.after behaviour (.reply id reply)).state = { f.state with pending } := by
  cases htask : f.task? id with
  | none => exact ⟨f.state.pending, by rw [Flight.after_reply_of_none _ _ htask]⟩
  | some task =>
    rw [Flight.state_after_reply _ _ htask]
    cases task with
    | snapshot space n =>
      have stale : f.state.binding ≠ n := by
        rintro rfl
        exact hid (h.alone id space htask)
      exact ⟨f.state.pending, f.state.finishAttach_of_ne stale space reply⟩
    | request r space server => exact f.state.resume_request reply r space server

/-- The reply to the own operation brings the snapshot, if it is still awaited. -/
theorem Expects.after_own_reply (h : Expects k f) {id : Nat} (hid : k.ticket = some id) (reply : Reply) :
    (f.state.loading = false ∧ f.after behaviour (.reply id reply) = f) ∨
    (f.state.loading = true ∧ ∃ space, f.task? id = some (.snapshot space f.state.binding) ∧
      (f.after behaviour (.reply id reply)).state = f.state.finishAttach space f.state.binding reply) := by
  have loading : f.state.loading = (f.task? id).isSome := by rw [h.loading, hid, Option.bind_some]
  cases htask : f.task? id with
  | none =>
    rw [htask] at loading
    exact Or.inl ⟨loading, Flight.after_reply_of_none _ _ htask reply⟩
  | some task =>
    rw [htask] at loading
    obtain ⟨space, rfl⟩ := h.own id task hid htask
    exact Or.inr ⟨loading, space, rfl, Flight.state_after_reply _ _ htask reply⟩

theorem Expects.after_start (h : Expects k f) (r : Backend.Request) (server : String) :
    Expects k (f.after behaviour (.start (.request r server))) := by
  have tasks := f.task?_after_start behaviour (.request r server)
  refine h.keep (h.numbered.after _ _) (Nat.le_succ _) ?_ ?_ ?_
  · obtain ⟨pending, e⟩ := state_after_request f r server
    rw [e]
    exact ⟨rfl, rfl, rfl⟩
  · intro id hid
    have := h.given id hid
    rw [tasks, if_neg (by omega), Option.or_none]
  · intro id space n htask
    rw [tasks, Option.or_eq_some_iff] at htask
    rcases htask with htask | ⟨-, htask⟩
    · exact htask
    · split at htask
      · exact absurd htask (f.state.task?_start_request r server space n)
      · cases htask

theorem Expects.after_reply (h : Expects k f) (id : Nat) (reply : Reply) :
    Expects k (f.after behaviour (.reply id reply)) := by
  have tasks := task?_after_answer f id reply
  have fewer : ∀ i space n, (f.after behaviour (.reply id reply)).task? i = some (.snapshot space n) →
      f.task? i = some (.snapshot space n) := by
    intro i space n hi
    rw [tasks] at hi
    split at hi
    · cases hi
    · exact hi
  have started : f.started ≤ (f.after behaviour (.reply id reply)).started := by
    rw [Flight.started_after]
    omega
  by_cases hid : k.ticket = some id
  · rcases h.after_own_reply hid reply with ⟨-, same⟩ | ⟨-, space, -, state⟩
    · rwa [same]
    · -- the snapshot has come, so no operation waits for it any more
      obtain ⟨sameSpace, sameBinding, ended⟩ := f.state.finishAttach_keeps space reply
      refine ⟨h.numbered.after _ _, ?_, fun i hi => (h.given i hi).trans_le started, ?_, ?_, ?_, ?_⟩
      · rw [state]
        exact sameSpace.trans h.space
      · intro i task hi htask
        rw [tasks, if_pos (Option.some.inj (hid.symm.trans hi))] at htask
        cases htask
      · intro i space' n hi
        rw [state, sameBinding]
        exact h.past i space' n (fewer i space' n hi)
      · intro i space' hi
        rw [state, sameBinding] at hi
        exact h.alone i space' (fewer i space' _ hi)
      · rw [state, hid, Option.bind_some, tasks, if_pos rfl]
        exact ended
  · obtain ⟨pending, e⟩ := h.after_other_reply hid reply
    refine h.keep (h.numbered.after _ _) started ?_ ?_ fewer
    · rw [e]
      exact ⟨rfl, rfl, rfl⟩
    · intro i hi
      have other : id ≠ i := by
        rintro rfl
        exact hid hi
      rw [tasks, if_neg other]

/-- A moment that does not bind leaves the binding. -/
theorem Expects.after (h : Expects k f) {o : Moment} (ho : binds o = false) : Expects k (f.after behaviour o) := by
  cases o with
  | start operation =>
    cases operation with
    | attach space => cases ho
    | request r server => exact h.after_start r server
  | reply id reply => exact h.after_reply id reply
  | adjust a =>
    exact h.keep h.numbered (Nat.le_refl _) (f.state.adjust_keeps (ne_unbind ho)) (fun _ _ => rfl) (fun _ _ _ => id)

variable (f) in
theorem task?_after_attach (space : Uuid) (id : Nat) :
    (f.after behaviour (.start (.attach space))).task? id =
      (f.task? id).or (if f.started = id then some (.snapshot space (f.state.binding + 1)) else none) :=
  f.task?_after_start behaviour (.attach space) id

/-- A snapshot that is awaited after an attach was awaited before, or is the one for the new binding. -/
theorem snapshot_after_attach {space space' : Uuid} {id n : Nat}
    (h : (f.after behaviour (.start (.attach space))).task? id = some (.snapshot space' n)) :
    f.task? id = some (.snapshot space' n) ∨ (f.started = id ∧ n = f.state.binding + 1) := by
  rw [task?_after_attach, Option.or_eq_some_iff] at h
  rcases h with old | ⟨-, new⟩
  · exact Or.inl old
  · split at new
    · rename_i own
      cases new
      exact Or.inr ⟨own, rfl⟩
    · cases new

/-- A moment that binds sets up the new binding: no operation waits for a snapshot of its number yet, unless it is the
one that the moment starts. -/
theorem Expects.bind (h : Expects k f) {o : Moment} (ho : binds o = true) :
    Expects (bindingAt f.started o) (f.after behaviour o) := by
  rcases binds_cases ho with ⟨space, rfl⟩ | rfl
  · have own : (f.after behaviour (.start (.attach space))).task? f.started =
        some (.snapshot space (f.state.binding + 1)) := by
      rw [task?_after_attach, h.numbered f.started (Nat.le_refl _), if_pos rfl, Option.none_or]
    refine ⟨h.numbered.after _ _, rfl, ?_, ?_, ?_, ?_, ?_⟩
    · rintro id ⟨⟩
      exact Nat.lt_succ_self f.started
    · rintro id task ⟨⟩ htask
      rw [own] at htask
      exact ⟨space, (Option.some.inj htask).symm⟩
    · intro id space' n htask
      show n ≤ f.state.binding + 1
      rcases snapshot_after_attach htask with old | ⟨-, new⟩
      · have := h.past id space' n old
        omega
      · omega
    · intro id space' htask
      have htask : (f.after behaviour (.start (.attach space))).task? id =
        some (.snapshot space' (f.state.binding + 1)) := htask
      rcases snapshot_after_attach htask with old | ⟨new, -⟩
      · have := h.past id space' _ old
        omega
      · rw [← new]
        rfl
    · show true = (Option.bind (some f.started) (f.after behaviour (.start (.attach space))).task?).isSome
      rw [Option.bind_some, own, Option.isSome_some]
  · refine ⟨h.numbered, rfl, nofun, nofun, ?_, ?_, rfl⟩
    · intro id space n htask
      show n ≤ f.state.binding + 1
      have := h.past id space n htask
      omega
    · intro id space htask
      have := h.past id space (f.state.binding + 1) htask
      omega

/-- Whether the snapshot is awaited changes with its reply only. -/
theorem Expects.loading_after (h : Expects k f) {o : Moment} (ho : binds o = false) :
    (f.after behaviour o).state.loading = (f.state.loading && !k.answered [o]) := by
  cases o with
  | start operation =>
    cases operation with
    | attach space => cases ho
    | request r server =>
      obtain ⟨pending, e⟩ := state_after_request f r server
      rw [e]
      exact (Bool.and_true _).symm
  | reply id reply =>
    rw [answered_reply]
    by_cases hid : k.ticket = some id
    · rw [beq_iff_eq.mpr hid, Bool.not_true, Bool.and_false]
      rcases h.after_own_reply hid reply with ⟨ended, same⟩ | ⟨-, space, -, state⟩
      · rw [same, ended]
      · rw [state, (f.state.finishAttach_keeps space reply).2.2]
    · rw [beq_eq_false_iff_ne.mpr hid, Bool.not_false, Bool.and_true]
      obtain ⟨pending, e⟩ := h.after_other_reply hid reply
      rw [e]
  | adjust a =>
    exact (f.state.adjust_keeps (ne_unbind ho)).2.2.trans (Bool.and_true _).symm

end Step

/-! ## Runs -/

section Run

variable {k : Binding} {f g : Store}

theorem expects_fresh : Expects {} fresh :=
  ⟨fun _ _ => rfl, rfl, nofun, nofun, nofun, nofun, rfl⟩

/-- After every run some binding is in place. -/
theorem Expects.exists_run (h : Expects k f) (os : List Moment) : ∃ k', Expects k' (f.run behaviour os) := by
  induction os generalizing k f with
  | nil => exact ⟨k, h⟩
  | cons o os ih =>
    cases ho : binds o with
    | true => exact ih (h.bind ho)
    | false => exact ih (h.after ho)

theorem exists_expects_reached (os : List Moment) : ∃ k, Expects k (reached os) := expects_fresh.exists_run os

theorem started_reached (os : List Moment) : (reached os).started = os.countP Occurrence.starts := by
  rw [reached, Flight.started_run]
  exact Nat.zero_add _

theorem Expects.run (h : Expects k f) {os : List Moment} (hos : ∀ o ∈ os, binds o = false) :
    Expects k (f.run behaviour os) := by
  induction os generalizing f with
  | nil => exact h
  | cons o os ih => exact ih (h.after (hos o List.mem_cons_self)) fun o' ho' => hos o' (List.mem_cons_of_mem o ho')

/-- The snapshot of a binding is awaited until its reply comes. -/
theorem Expects.loading_run (h : Expects k f) {os : List Moment} (hos : ∀ o ∈ os, binds o = false) :
    (f.run behaviour os).state.loading = (f.state.loading && !k.answered os) := by
  induction os generalizing f with
  | nil => exact (Bool.and_true _).symm
  | cons o os ih =>
    have ho := hos o List.mem_cons_self
    rw [Flight.run_cons, ih (h.after ho) fun o' ho' => hos o' (List.mem_cons_of_mem o ho'), h.loading_after ho,
      answered_cons k o os, Bool.not_or, Bool.and_assoc]

/-- The binding as its own run has it: there its snapshot is asked for by the first operation. -/
def Binding.alone (k : Binding) : Binding := { k with ticket := k.ticket.map fun _ => 0 }

/-- The store `g` knows what `f` does, each in its own numbering of operations. -/
structure Mirrors (k : Binding) (f g : Store) : Prop where
  whole : Expects k f
  part : Expects k.alone g
  contents : f.state.contents = g.state.contents

/-- A binding starts afresh, whatever was known. -/
theorem Mirrors.of_binds (h : Expects k f) {o : Moment} (ho : binds o = true) :
    Mirrors (bindingAt f.started o) (f.after behaviour o) (fresh.after behaviour o) := by
  rcases binds_cases ho with ⟨space, rfl⟩ | rfl
  · exact ⟨h.bind ho, expects_fresh.bind ho, rfl⟩
  · exact ⟨h.bind ho, expects_fresh.bind ho, rfl⟩

/-- A binding to a space awaits its snapshot. -/
theorem loading_after_of_binds (f : Store) {o : Moment} (ho : binds o = true) (started : Nat) :
    (f.after behaviour o).state.loading = (bindingAt started o).space.isSome := by
  rcases binds_cases ho with ⟨space, rfl⟩ | rfl <;> rfl

/-- What a moment changes of the contents, its own part changes too. -/
theorem Mirrors.after (h : Mirrors k f g) {o : Moment} (ho : binds o = false) :
    Mirrors k (f.after behaviour o) ((own k o).elim g (g.after behaviour)) := by
  cases o with
  | start operation =>
    cases operation with
    | attach space => cases ho
    | request r server =>
      obtain ⟨pending, e⟩ := state_after_request f r server
      refine ⟨h.whole.after ho, h.part, ?_⟩
      rw [e]
      exact h.contents
  | reply id reply =>
    have whole := h.whole.after ho
    by_cases hid : k.ticket = some id
    · rw [own, if_pos hid, Option.elim_some]
      have alone : k.alone.ticket = some 0 := by rw [Binding.alone, hid, Option.map_some]
      refine ⟨whole, h.part.after rfl, ?_⟩
      -- both await the snapshot, or neither does
      have loading : f.state.loading = g.state.loading := (congrArg State.loading h.contents :)
      rcases h.whole.after_own_reply hid reply with ⟨ended, same⟩ | ⟨awaited, space, -, state⟩
      · rcases h.part.after_own_reply alone reply with ⟨-, same'⟩ | ⟨awaited', -⟩
        · rw [same, same', h.contents]
        · rw [loading, awaited'] at ended
          cases ended
      · rcases h.part.after_own_reply alone reply with ⟨ended', -⟩ | ⟨-, space', -, state'⟩
        · rw [loading, ended'] at awaited
          cases awaited
        · rw [state, state', f.state.contents_finishAttach space space', g.state.contents_finishAttach space' space',
            h.contents]
    · rw [own, if_neg hid, Option.elim_none]
      obtain ⟨pending, e⟩ := h.whole.after_other_reply hid reply
      refine ⟨whole, h.part, ?_⟩
      rw [e]
      exact h.contents
  | adjust a =>
    have ha := ne_unbind ho
    by_cases hc : concerns k.space a = true
    · rw [own, if_pos hc, Option.elim_some]
      refine ⟨h.whole.after ho, h.part.after ho, ?_⟩
      show (f.state.adjust a).contents = (g.state.adjust a).contents
      rw [State.contents_adjust _ ha, State.contents_adjust _ ha, h.contents]
    · rw [own, if_neg hc, Option.elim_none]
      refine ⟨h.whole.after ho, h.part, ?_⟩
      rw [← h.whole.space, Bool.not_eq_true] at hc
      show (f.state.adjust a).contents = g.state.contents
      rw [f.state.adjust_of_not_concerns hc, h.contents]

theorem Mirrors.run (h : Mirrors k f g) {os : List Moment} (hos : ∀ o ∈ os, binds o = false) :
    Mirrors k (f.run behaviour os) (g.run behaviour (os.filterMap (own k))) :=
  Flight.run_filterMap behaviour (fun o ho _ _ h => h.after (hos o ho)) h

end Run

/-- A run and its own part mirror each other; the snapshot is awaited from the last binding to its reply. -/
theorem mirrors_reached (os : List Moment) :
    Mirrors (lastBinding os) (reached os) (reached (ownRun os)) ∧
    (reached os).state.loading = ((lastBinding os).space.isSome && !(lastBinding os).answered (sinceBinding os)) := by
  have since : ∀ o ∈ sinceBinding os, binds o = false := fun o ho => binds_of_mem_sinceBinding ho
  rcases last_binding_cases os with ⟨none, all⟩ | ⟨before, o, ho, last, parts⟩
  · have unbound : lastBinding os = {} := by rw [lastBinding, none]; rfl
    have start : Mirrors {} fresh fresh := ⟨expects_fresh, expects_fresh, rfl⟩
    have part : ownRun os = os.filterMap (own {}) := by rw [ownRun, none, all, unbound]; rfl
    rw [all] at since
    rw [unbound, part, all]
    exact ⟨start.run since, start.whole.loading_run since⟩
  · have bound : lastBinding os = bindingAt (before.countP Occurrence.starts) o := by
      rw [lastBinding, last, List.getLast?_concat, List.dropLast_concat]
    have part : ownRun os = o :: (sinceBinding os).filterMap (own (lastBinding os)) := by
      rw [ownRun, last, List.getLast?_concat]
      rfl
    have split : reached os = ((reached before).after behaviour o).run behaviour (sinceBinding os) := by
      conv_lhs => rw [parts]
      rw [reached, Flight.run_append, Flight.run_cons]
      rfl
    obtain ⟨k, h⟩ := exists_expects_reached before
    have anew := Mirrors.of_binds h ho
    rw [started_reached, ← bound] at anew
    have awaits := loading_after_of_binds (reached before) ho (before.countP Occurrence.starts)
    rw [← bound] at awaits
    rw [split, part]
    refine ⟨anew.run since, ?_⟩
    rw [anew.whole.loading_run since, awaits]

/-- **Bindings are isolated.** Whatever happens to a store in whatever order, what it knows is what a fresh store knows
that sees nothing but the last binding, the reply to its snapshot, the events of its space since then and the user's
changes since then. While a space is bound, the records are shown once that reply came. -/
theorem binding_isolated (os : List Moment) :
    (reached os).state.contents = (reached (ownRun os)).state.contents ∧
    (reached os).state.space = (lastBinding os).space ∧
    ∀ space, (reached os).state.space = some space →
      (reached os).state.visible? =
        if (lastBinding os).answered (sinceBinding os) then some (reached os).state.records else none := by
  obtain ⟨mirrors, loading⟩ := mirrors_reached os
  refine ⟨mirrors.contents, mirrors.whole.space, fun space bound => ?_⟩
  rw [← mirrors.whole.space, bound, Option.isSome_some, Bool.true_and] at loading
  rw [State.visible?, loading]
  cases (lastBinding os).answered (sinceBinding os) <;> rfl

/-- A space is left and bound again before its first snapshot fails. -/
def revisit : List Moment :=
  [.start (.attach ⟨1⟩), .start (.attach ⟨2⟩), .start (.attach ⟨1⟩), .reply 0 (.rejected "gone" []),
    .start (.request .enable "gh"), .reply 2 (.ok (.obj []))]

theorem revisit_isolated :
    (reached revisit).state.space = some ⟨1⟩ ∧ (reached revisit).state.error = none ∧
    (reached revisit).state.contents = (reached [.start (.attach ⟨1⟩), .reply 0 (.ok (.obj []))]).state.contents ∧
    (reached revisit).state.visible? = some (reached revisit).state.records := by
  obtain ⟨same, -, shown⟩ := binding_isolated revisit
  have bound : (reached revisit).state.space = some ⟨1⟩ := by decide
  exact ⟨bound, by decide, same, (shown ⟨1⟩ bound).trans (if_pos (by decide))⟩

end Switchboard.Connection
