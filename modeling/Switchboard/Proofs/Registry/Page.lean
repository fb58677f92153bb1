import Mathlib.Data.List.DropRight
import Switchboard.Proofs.Catalog.Page
import Switchboard.Proofs.Registry.Pending

/-!
# The current page

A page is chosen by the user: directly, or with a search, a filter or a sort order, which go back to the first page.
Nothing else changes it (`page_after`). At that moment it is one of the pages that there are (`inRange_adjust`), but how
many there are is a matter of the list, and the list changes with the space and with what a load or a refresh brings.
None of these looks at the page, so it may be left beyond the last one (`outgrown_out_of_range`).

`page_in_range` says what holds in every state: a page out of range was in range when it was chosen, and the list has
changed since.
-/

namespace Switchboard.Registry

open Backend (Reply)

/-- Whether the current page is one of the pages that there are. -/
def State.InRange (s : State) : Prop := 1 ≤ s.page ∧ s.page ≤ s.pageCount

instance (s : State) : Decidable s.InRange := inferInstanceAs (Decidable (1 ≤ s.page ∧ s.page ≤ s.pageCount))

/-- Whether a moment chooses the page. -/
def choosesPage : Moment → Bool
  | .adjust .dismissError => false
  | .adjust _ => true
  | _ => false

/-- Whether the reply to a task may change the list: it ends the last load, or brings the last fetch of what is
installed. -/
def State.renews (s : State) : Task → Bool
  | .installed load .. => s.loads = load.number
  | .refresh _ fetch => s.fetches = fetch
  | _ => false

/-- Whether a moment may change the list: a change of space, or a reply that brings a new list. -/
def changesList (f : Store) : Moment → Bool
  | .reply id _ => (f.task? id).any f.state.renews
  | o => switches f.state o

/-- A run up to the last choice of a page. -/
def untilChoice (os : List Moment) : List Moment := os.rdropWhile fun o => !choosesPage o

/-! ## Page and list -/

namespace State

variable (s : State)

theorem one_le_pageCount : 1 ≤ s.pageCount := Catalog.one_le_pageCount _ _

/-- The page that is chosen is in range. -/
theorem inRange_adjust {a : Adjustment} (h : choosesPage (.adjust a) = true) : (s.adjust a).InRange := by
  have first : ∀ t : State, t.page = 1 → t.InRange := by
    intro t e
    rw [InRange, e]
    exact ⟨UInt32.le_refl 1, t.one_le_pageCount⟩
  cases a with
  | select filter option => exact first _ rfl
  | search query => exact first _ rfl
  | sort sort => exact first _ rfl
  | clearFilters => exact first _ rfl
  | goTo page =>
    -- the number of pages does not depend on the current one
    have count : (s.adjust (.goTo page)).pageCount = s.pageCount := rfl
    have positive : 1 ≤ max page 1 := by
      rw [UInt32.max_def]
      split
      · exact UInt32.le_refl 1
      · exact Std.le_of_not_ge ‹_›
    rw [InRange, count]
    exact ⟨Std.le_min_iff.mpr ⟨positive, s.one_le_pageCount⟩, Std.min_le_right⟩
  | dismissError => cases h

/-- A page that there is has something on it, unless there is nothing to show. -/
theorem InRange.pageRows_ne_nil {s : State} (h : s.InRange) (shown : s.display ≠ []) : s.pageRows ≠ [] :=
  Catalog.paginate_ne_nil shown h.2

/-- What the list is made of, and the page. -/
def view : List Definition × List Installation × Catalog.Config × Catalog.Selections × String × String × UInt32 :=
  (s.definitions, s.installed, s.config, s.selections, s.sort, s.query, s.page)

theorem inRange_of_view_eq {s t : State} (h : s.view = t.view) (within : s.InRange) : t.InRange := by
  simp only [view, Prod.mk.injEq] at h
  obtain ⟨definitions, installed, config, selections, sort, query, page⟩ := h
  rw [InRange, pageCount, display, rows, ← definitions, ← installed, ← config, ← selections, ← sort, ← query, ← page]
  exact within

/-! ## What a turn does to them -/

theorem page_start (operation : Operation) : (s.start operation).state.page = s.page := by
  cases h : operation.space? with
  | none =>
    obtain ⟨fetches, pending, e⟩ := s.start_eq h
    rw [e]
  | some space =>
    cases operation with
    | load space => rfl
    | refresh | mutate m => cases h

theorem page_resume (reply : Reply) (task : Task) : (s.resume reply task).state.page = s.page := by
  cases h : task.load? with
  | none =>
    obtain ⟨installed, error, fetches, pending, e⟩ := s.resume_eq_of_no_load reply h
    rw [e]
  | some load =>
    rcases s.resume_load_cases reply h with ⟨task', e, -⟩ | ⟨config, featured, catalog, offline, rfl⟩
    · rw [e]
    · show (s.finishLoad load config featured catalog offline (reply.installed load.space)).page = s.page
      by_cases last : s.loads = load.number
      · obtain ⟨config', sort, error, e⟩ := s.finishLoad_of_eq config featured catalog offline
          (reply.installed load.space) last
        rw [e]
      · rw [s.finishLoad_of_ne config featured catalog offline (reply.installed load.space) last]

theorem view_start {operation : Operation} (h : switches s (.start operation) = false) :
    (s.start operation).state.view = s.view := by
  cases e : operation.space? with
  | none =>
    obtain ⟨fetches, pending, e⟩ := s.start_eq e
    rw [e]
    rfl
  | some space =>
    cases operation with
    | load space =>
      have same : s.space = some space := bne_eq_false_iff_eq.mp h
      show (s.beginLoad space).view = s.view
      simp only [view, beginLoad, if_pos same]
    | refresh | mutate m => cases e

theorem view_resume (reply : Reply) {task : Task} (h : s.renews task = false) :
    (s.resume reply task).state.view = s.view := by
  cases task with
  | config load | home load config | catalog load config featured | offline load config featured catalog => rfl
  | installed load config featured catalog offline =>
    have old : s.loads ≠ load.number := of_decide_eq_false h
    show (s.finishLoad load config featured catalog offline (reply.installed load.space)).view = s.view
    rw [s.finishLoad_of_ne config featured catalog offline (reply.installed load.space) old]
  | mutation m space =>
    obtain ⟨fetches, pending, e⟩ := s.resume_mutation_eq reply m space
    rw [e]
    rfl
  | refresh space fetch =>
    have old : s.fetches ≠ fetch := of_decide_eq_false h
    show (s.finishRefresh fetch (reply.installed space)).view = s.view
    simp only [finishRefresh, if_neg old]

end State

/-! ## Moments -/

/-- Only a choice of the user changes the page. -/
theorem page_after (f : Store) {o : Moment} (h : choosesPage o = false) :
    (f.after behaviour o).state.page = f.state.page := by
  cases o with
  | start operation =>
    rw [state_start]
    exact f.state.page_start operation
  | reply id reply =>
    cases waits : f.task? id with
    | none => rw [Flight.after_reply_of_none behaviour f waits]
    | some task =>
      rw [state_reply waits]
      exact f.state.page_resume reply task
  | adjust a =>
    cases a with
    | dismissError => rfl
    | select filter option | search query | sort sort | clearFilters | goTo page => cases h

/-- A choice brings the page into range, and only a change of the list takes it out. -/
theorem inRange_after (f : Store) {o : Moment} (kept : changesList f o = false)
    (h : choosesPage o = true ∨ f.state.InRange) : (f.after behaviour o).state.InRange := by
  cases o with
  | start operation =>
    have within : f.state.InRange := h.resolve_left Bool.false_ne_true
    rw [state_start]
    exact State.inRange_of_view_eq (f.state.view_start kept).symm within
  | reply id reply =>
    have within : f.state.InRange := h.resolve_left Bool.false_ne_true
    cases waits : f.task? id with
    | none => rwa [Flight.after_reply_of_none behaviour f waits]
    | some task =>
      have old : f.state.renews task = false := by rwa [changesList, waits] at kept
      rw [state_reply waits]
      exact State.inRange_of_view_eq (f.state.view_resume reply old).symm within
  | adjust a =>
    cases chosen : choosesPage (.adjust a) with
    | true => exact f.state.inRange_adjust chosen
    | false =>
      have within : f.state.InRange := h.resolve_left (by rw [chosen]; exact Bool.false_ne_true)
      cases a with
      | dismissError => exact within
      | select filter option | search query | sort sort | clearFilters | goTo page => cases chosen

/-! ## Runs -/

theorem untilChoice_concat_of_choice {o : Moment} (h : choosesPage o = true) (os : List Moment) :
    untilChoice (os ++ [o]) = os ++ [o] := List.rdropWhile_concat_neg _ _ _ (by rw [h]; exact Bool.false_ne_true)

theorem untilChoice_concat_of_no_choice {o : Moment} (h : choosesPage o = false) (os : List Moment) :
    untilChoice (os ++ [o]) = untilChoice os := List.rdropWhile_concat_pos _ _ _ (by rw [h]; rfl)

theorem inRange_fresh : fresh.state.InRange := ⟨UInt32.le_refl 1, fresh.state.one_le_pageCount⟩

theorem changesList_eq_false_of_choice (f : Store) {o : Moment} (h : choosesPage o = true) :
    changesList f o = false := by
  cases o with
  | adjust a => rfl
  | start operation | reply id reply => cases h

/-- The page is the one that was chosen last, and it was in range then. -/
theorem page_reached (os : List Moment) :
    (reached os).state.page = (reached (untilChoice os)).state.page ∧ (reached (untilChoice os)).state.InRange := by
  induction os using List.reverseRecOn with
  | nil => exact ⟨rfl, inRange_fresh⟩
  | append_singleton os o ih =>
    cases chosen : choosesPage o with
    | true =>
      rw [untilChoice_concat_of_choice chosen]
      refine ⟨rfl, ?_⟩
      rw [reached_concat]
      exact inRange_after _ (changesList_eq_false_of_choice _ chosen) (Or.inl chosen)
    | false =>
      rw [untilChoice_concat_of_no_choice chosen, reached_concat, page_after _ chosen]
      exact ih

/-- The list changed since the last choice of a page. -/
def ListChanged (os : List Moment) : Prop :=
  ∃ before o later, os = untilChoice os ++ before ++ o :: later ∧
    changesList (reached (untilChoice os ++ before)) o = true

theorem ListChanged.concat {os : List Moment} (h : ListChanged os) {o : Moment} (unchosen : choosesPage o = false) :
    ListChanged (os ++ [o]) := by
  obtain ⟨before, o', later, e, changes⟩ := h
  refine ⟨before, o', later ++ [o], ?_, ?_⟩
  · rw [untilChoice_concat_of_no_choice unchosen]
    conv_lhs => rw [e]
    simp only [List.append_assoc, List.cons_append]
  · rwa [untilChoice_concat_of_no_choice unchosen]

theorem inRange_or_listChanged (os : List Moment) : (reached os).state.InRange ∨ ListChanged os := by
  induction os using List.reverseRecOn with
  | nil => exact Or.inl inRange_fresh
  | append_singleton os o ih =>
    rw [reached_concat]
    cases chosen : choosesPage o with
    | true => exact Or.inl (inRange_after _ (changesList_eq_false_of_choice _ chosen) (Or.inl chosen))
    | false =>
      rcases ih with within | changed
      · cases changes : changesList (reached os) o with
        | false => exact Or.inl (inRange_after _ changes (Or.inr within))
        | true =>
          obtain ⟨since, e⟩ := List.rdropWhile_prefix (fun o => !choosesPage o) os
          refine Or.inr ⟨since, o, [], ?_, ?_⟩
          · rw [untilChoice_concat_of_no_choice chosen, untilChoice, e]
          · rwa [untilChoice_concat_of_no_choice chosen, untilChoice, e]
      · exact Or.inr (changed.concat chosen)

/-- **The current page.** Whatever happens to the registry in whatever order, the page is the one that was chosen last,
and it was in range when it was chosen. If it is not in range any more, the list has changed since; and while it is in
range, there is something on it if there is anything to show. -/
theorem page_in_range (os : List Moment) :
    ((reached os).state.page = (reached (untilChoice os)).state.page ∧
      (reached (untilChoice os)).state.InRange) ∧
    (¬ (reached os).state.InRange → ListChanged os) ∧
    ((reached os).state.InRange → (reached os).state.display ≠ [] → (reached os).state.pageRows ≠ []) :=
  ⟨page_reached os, (inRange_or_listChanged os).resolve_left, fun within shown => within.pageRows_ne_nil shown⟩

/-- A catalog of servers of these ids. -/
def catalogOf (ids : List String) : Reply :=
  .ok (.arr (ids.map fun id => .obj [("id", .str id), ("name", .str id),
    ("transport", .obj [("type", .str "http"), ("url", .str "http://localhost/mcp")])]))

/-- The moments of a load, the operation numbered `id`, of a catalog that is shown one server a page. -/
def loadOf (id : Nat) (ids : List String) : List Moment :=
  [.start (.load ⟨1⟩), .reply id (.ok (.obj [("items_per_page", .int 1)])), .reply id (.ok .null),
    .reply id (catalogOf ids), .reply id (.ok (.bool false)), .reply id (.ok (.arr []))]

/-- The second of two pages is chosen, and then the catalog shrinks to one server. -/
def outgrown : List Moment := loadOf 0 ["files", "mail"] ++ [.adjust (.goTo 2)] ++ loadOf 1 ["files"]

theorem outgrown_listChanged : ¬ (reached outgrown).state.InRange ∧ ListChanged outgrown := by
  have out : ¬ (reached outgrown).state.InRange := by decide +kernel
  exact ⟨out, (page_in_range outgrown).2.1 out⟩

/-- The page is out of range, and empty although there is something to show. -/
theorem outgrown_out_of_range :
    ¬ (reached outgrown).state.InRange ∧ (reached outgrown).state.display ≠ [] ∧
      (reached outgrown).state.pageRows = [] := by decide +kernel

end Switchboard.Registry
