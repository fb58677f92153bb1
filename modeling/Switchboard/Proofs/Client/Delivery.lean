import Switchboard.Proofs.Client.Moments
import Switchboard.Rehearsal.Run

/-!
# Delivery of events

To dispatch an event is to put on the agenda that every listener on its channel hears it. While a listener hears an
event, anything may happen: it may register and remove listeners, itself included, and dispatch events in its turn,
which is work on top of that of the first dispatch.

`Serves` says that pieces of work are begun one after the other, each of them once. Since the agenda is a stack, this is
what becomes of any pieces of work on it, however much comes on top of them in between (`seenTo_of_agenda`). For a
dispatch it means that the listeners that were on the channel when it began hear the event, all of them and nobody else,
once and in the order of registration. `hub_delivers` puts this together with what the hubs hold.
-/

namespace Switchboard.Client

/-! ## Work on the agenda -/

/-- The pieces of work `due` are begun in a run one after the other: each when nothing is above it any more, and
everything else that is done in between is above those that are left. What is `below` is not begun. -/
inductive Serves (below : List Work) : List Work → Client → List Moment → Prop
  | done (c : Client) : Serves below [] c []
  | begin {c : Client} {work : Work} {due : List Work} {os : List Moment} :
    c.agenda = work :: due ++ below → Serves below due (c.after .work) os →
      Serves below (work :: due) c (.work :: os)
  | above {c : Client} {due : List Work} {o : Moment} {os : List Moment} :
    (o = .work → ∃ work more, c.agenda = work :: more ++ due ++ below) → Serves below due (c.after o) os →
      Serves below due c (o :: os)

/-- What becomes of the pieces of work `due`, which lie on top of `below`. -/
inductive SeenTo (below due : List Work) (c : Client) : List Moment → Prop
  /-- They were begun, and what they brought about is done. -/
  | finished {course : List Moment} (rest : List Moment) :
    Serves below due c course → (c.run course).agenda = below → SeenTo below due c (course ++ rest)
  /-- Some of them were begun, and there are some left or there is `more` to be done before. -/
  | underWay {begun left more : List Work} {os : List Moment} :
    begun ++ left = due → Serves (left ++ below) begun c os → (c.run os).agenda = more ++ left ++ below →
      more ++ left ≠ [] → SeenTo below due c os

variable {below due : List Work} {c : Client} {os : List Moment}

theorem SeenTo.begin {work : Work} (h : c.agenda = work :: due ++ below) (next : SeenTo below due (c.after .work) os) :
    SeenTo below (work :: due) c (.work :: os) := by
  cases next with
  | finished rest serves ends => exact .finished rest (.begin h serves) ends
  | @underWay begun left more _ split serves ends on =>
    refine .underWay (congrArg (work :: ·) split) (.begin ?_ serves) ends on
    rw [h, ← split, List.cons_append, List.cons_append, List.append_assoc]

theorem SeenTo.above {o : Moment} (h : o = .work → ∃ work more, c.agenda = work :: more ++ due ++ below)
    (next : SeenTo below due (c.after o) os) : SeenTo below due c (o :: os) := by
  cases next with
  | finished rest serves ends => exact .finished rest (.above h serves) ends
  | @underWay begun left more _ split serves ends on =>
    refine .underWay split (.above (fun work => ?_) serves) ends on
    obtain ⟨work, more, agenda⟩ := h work
    exact ⟨work, more, by rw [agenda, ← split, ← List.append_assoc, ← List.append_assoc]⟩

/-- Whatever happens, work on the agenda is done at some time in the run, or it is under way at the end. -/
theorem seenTo_of_agenda (more : List Work) (h : c.agenda = more ++ due ++ below) : SeenTo below due c os := by
  -- along the run: `more` is what is above the work that is due, and nothing comes between them
  induction os generalizing c more due with
  | nil =>
    by_cases idle : more ++ due = []
    · obtain ⟨rfl, rfl⟩ := List.append_eq_nil_iff.mp idle
      exact .finished [] (.done c) h
    · exact .underWay (List.nil_append due) (.done c) h idle
  | cons o os ih =>
    by_cases work : o = .work
    · subst work
      rcases more with _ | ⟨next, more⟩
      · rcases due with _ | ⟨next, due⟩
        · exact .finished (.work :: os) (.done c) h
        · obtain ⟨new, agenda⟩ := agenda_work h
          exact .begin h (ih new (agenda.symm.trans (List.append_assoc _ _ _).symm))
      · obtain ⟨new, agenda⟩ := agenda_work h
        refine .above (fun _ => ⟨next, more, h⟩) (ih (new ++ more) (agenda.symm.trans ?_))
        simp only [List.append_eq, List.append_assoc]
    · obtain ⟨new, agenda⟩ := agenda_after (c := c) work
      refine .above (fun e => absurd e work) (ih (new ++ more) (agenda.symm.trans ?_))
      rw [h]
      simp only [List.append_assoc]

/-! ## Dispatches -/

/-- A dispatch is delivered: of the listeners that are on the channel when it begins, each hears the event once, in
order. -/
def Delivers (c : Client) (scene : Scene) (e : Event) (os : List Moment) : Prop :=
  SeenTo c.agenda (hearings ((c.hub scene.hub).on e.channel) scene e) (c.dispatch scene e) os

theorem delivers (c : Client) (scene : Scene) (e : Event) (os : List Moment) : c.Delivers scene e os :=
  seenTo_of_agenda [] rfl

/-- Whether a listener understands a payload. -/
def Handler.understands : Handler → Json → Bool
  | .status, payload => (StatusChanged.decode payload).isOk
  | .progress, payload => (AuthProgress.decode payload).isOk
  | .features, payload => (Features.decode payload).isOk
  | .changes, payload => (ServerChanged.decode payload).isOk
  | .script _ reading _, payload => (reading.read payload).isOk

/-- A payload that a listener does not understand is passed over. -/
theorem hear_of_not_understood {handler : Handler} {payload : Json} (h : handler.understands payload = false)
    (scene : Scene) : c.hear handler payload scene = (c, []) := by
  have fault : ∀ {α : Type} {read : Except Record.Fault α}, read.isOk = false → ∃ f, read = .error f := by
    intro α read h
    cases read with
    | ok a => cases h
    | error f => exact ⟨f, rfl⟩
  cases handler with
  | status | progress | features | changes | script name reading actions =>
    obtain ⟨f, e⟩ := fault h
    simp only [hear, e]

/-- A dispatch that a listener calls begins when it is the next piece of work. -/
theorem after_act_dispatch {scene : Scene} {e : Event} {rest : List Work}
    (h : c.agenda = .act (.dispatch e) scene :: rest) :
    c.after .work = { c with agenda := rest }.dispatch scene e := after_work h

/-! ## Rehearsals -/

theorem exists_run_absorb (r : Rehearsal) (effects : List Effect) :
    ∃ os, (effects.foldl Rehearsal.absorb r).client = r.client.run os := by
  induction effects generalizing r with
  | nil => exact ⟨[], rfl⟩
  | cons effect effects ih =>
    obtain ⟨os, e⟩ := ih (r.absorb effect)
    have first : ∃ ps, (r.absorb effect).client = r.client.run ps := by
      cases effect with
      | call ticket call =>
        simp only [Rehearsal.absorb]
        split
        · exact ⟨[.demand (.answer ticket _)], rfl⟩
        · exact ⟨[], rfl⟩
      | note note =>
        simp only [Rehearsal.absorb]
        split <;> exact ⟨[], rfl⟩
      | heard name payload => exact ⟨[], rfl⟩
      | finished ticket result =>
        simp only [Rehearsal.absorb]
        split <;> exact ⟨[], rfl⟩
    obtain ⟨ps, e'⟩ := first
    exact ⟨ps ++ os, by rw [List.foldl_cons, e, e', run_append]⟩

/-- What happens to the client of a rehearsal while its work is done is a run. -/
theorem exists_run_settle (limit : Nat) (r : Rehearsal) :
    ∃ os, (r.settle limit).client = r.client.run os := by
  induction limit generalizing r with
  | zero => exact ⟨[], rfl⟩
  | succ limit ih =>
    cases step : r.client.step with
    | none =>
      simp only [Rehearsal.settle, step]
      exact ⟨[], rfl⟩
    | some next =>
      simp only [Rehearsal.settle, step]
      obtain ⟨os, e⟩ := exists_run_absorb { r with client := next.1 } next.2
      obtain ⟨ps, e'⟩ := ih (r.proceed next)
      have first : r.client.after .work = next.1 := by rw [after, step]; rfl
      refine ⟨.work :: (os ++ ps), ?_⟩
      have run : r.client.run (.work :: (os ++ ps)) = (next.1.run os).run ps := by
        rw [← run_append, ← first]
        rfl
      rw [e', run, ← e]
      rfl

/-- **Delivery.** Whatever happens to a client in whatever order, each hub holds the listeners that were registered on
it and not dropped since; a subscription that is dropped removes its own listener and no other. A moment that comes down
to a dispatch is delivered to the listeners that were on the channel then, and so is a dispatch that a listener calls in
the middle of another. The answer to a dispatch is their number. A listener that does not understand a payload does
nothing, and nothing else is different. -/
theorem hub_delivers (c : Client) (os : List Moment) :
    (∀ i past, i < c.hubs.length → c.hub i = Hub.made past →
      ((c.run os).hub i).Holds (past ++ c.history i os) ∧
      ∀ before l later, ((c.run os).hub i).listeners = before ++ l :: later →
        (((c.run os).after (.drop ⟨i, l.subscription⟩)).hub i).listeners = before ++ later ∧
        ∀ j, j ≠ i → ((c.run os).after (.drop ⟨i, l.subscription⟩)).hub j = (c.run os).hub j) ∧
    (∀ before o later (d : Client) scene e, os = before ++ o :: later → (c.run before).after o = d.dispatch scene e →
      d.Delivers scene e later) ∧
    (∀ scene e rest, (c.run os).agenda = .act (.dispatch e) scene :: rest →
      (c.run os).after .work = { c.run os with agenda := rest }.dispatch scene e) ∧
    (∀ (r : Rehearsal) e background limit, ∃ ps,
      ((r.carryOut (.dispatch e background)).1.settle limit).client =
        (r.client.dispatch ⟨r.client.currentHub, background⟩ e).run ps ∧
      r.client.Delivers ⟨r.client.currentHub, background⟩ e ps ∧
      (r.carryOut (.dispatch e background)).2 =
        .count ((r.client.hub r.client.currentHub).on e.channel).length) ∧
    (∀ (handler : Handler) payload scene, handler.understands payload = false →
      ∀ d : Client, d.perform (.hear handler payload scene) = (d, [])) := by
  refine ⟨fun i past exist made => ?_, fun before o later d scene e _ _ => delivers d scene e later,
    fun scene e rest agenda => after_act_dispatch agenda, fun r e background limit => ?_,
    fun handler payload scene deaf d => hear_of_not_understood deaf scene⟩
  · have holds : ((c.run os).hub i).Holds (past ++ c.history i os) := by
      rw [hub_run c exist, made, ← Hub.made_append]
      exact Hub.holds_made _
    refine ⟨holds, fun before l later split => ⟨?_, fun j other => ?_⟩⟩
    · rw [after, hub_remove, if_pos rfl]
      exact holds.unsubscribe_own split
    · rw [after, hub_remove, if_neg fun own => other own.symm]
  · obtain ⟨ps, run⟩ := exists_run_settle limit (r.carryOut (.dispatch e background)).1
    exact ⟨ps, run, delivers _ _ e ps, rfl⟩

/-- The first of two listeners removes the second one and registers another; then it dispatches an event to a third. -/
def crossing : Client :=
  let actions : List Action := [.unsubscribe "b", .listen "d" "tick" .anything [], .dispatch ⟨"tock", .null⟩]
  let empty : Client := { bus := { room := 1 } }
  ((empty.addListener 0 "a" "tick" .anything actions).addListener 0 "b" "tick" .anything []).addListener 0 "c" "tock"
    .anything []

/-- A run to the dispatch that the first listener calls, and beyond it. -/
def crossed : List Moment := [.dispatch ⟨0, true⟩ ⟨"tick", .null⟩, .work, .work, .work, .work, .work, .work]

/-- The listener that was removed hears the first event, the one that was registered does not. -/
theorem crossing_delivers :
    { crossing.run (crossed.take 4) with agenda := [.hear (.script "b" .anything []) .null ⟨0, true⟩] }.Delivers
      ⟨0, true⟩ ⟨"tock", .null⟩ [.work, .work] ∧
    (Rehearsal.settle 10 (Rehearsal.carryOut { client := crossing } (.dispatch ⟨"tick", .null⟩ true)).1).heard =
      [("a", .null), ("c", .null), ("b", .null)] :=
  ⟨(hub_delivers crossing crossed).2.1 (crossed.take 4) .work [.work, .work] _ _ _ rfl rfl, rfl⟩

end Switchboard.Client
