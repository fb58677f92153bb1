import Switchboard.Catalog.Display
import Switchboard.Proofs.KeyMap
import Switchboard.Proofs.Catalog.Order

/-!
# What is displayed

The rows to display are those that qualify: they match the query, and they meet every condition that a selection asks
for. They come in the order that is chosen, rows that go either way round as they came, or as they all came if there
is no such order. That leaves no choice (`Displays.eq`): a list that is sorted is determined by the order inside its
ties (`eq_of_sorted_of_ties`). So selections that ask for nothing do not matter, and what is displayed is displayed
again as it is (`display_determined`).
-/

namespace Switchboard.Catalog

open Std

/-! ## Stable sorts -/

section

variable {α : Type} {cmp : α → α → Ordering} [TransCmp cmp]

theorem ne_gt_iff_isLE {o : Ordering} : (o != .gt) = o.isLE := by cases o <;> rfl

theorem ne_gt_trans (a b c : α) (hab : (cmp a b != .gt) = true) (hbc : (cmp b c != .gt) = true) :
    (cmp a c != .gt) = true := by
  rw [ne_gt_iff_isLE] at hab hbc ⊢
  exact TransCmp.isLE_trans hab hbc

theorem ne_gt_total (a b : α) : ((cmp a b != .gt) || (cmp b a != .gt)) = true := by
  have swap : cmp b a = (cmp a b).swap := OrientedCmp.eq_swap
  rw [swap]
  cases cmp a b <;> rfl

theorem sorted_mergeSort (l : List α) :
    (l.mergeSort fun a b => cmp a b != .gt).Pairwise fun a b => cmp a b ≠ .gt := by
  refine (List.pairwise_mergeSort ne_gt_trans ne_gt_total l).imp ?_
  exact fun h => bne_iff_ne.mp h

/-- A stable sort leaves elements that go either way round in order. -/
theorem filter_ties_mergeSort (x : α) (l : List α) :
    (l.mergeSort fun a b => cmp a b != .gt).filter (fun a => cmp x a == .eq) = l.filter fun a => cmp x a == .eq := by
  have tied : (l.filter fun a => cmp x a == .eq).Pairwise fun a b => (cmp a b != .gt) = true := by
    refine List.pairwise_iff_forall_sublist.mpr fun {a b} sub => ?_
    have ha := (List.mem_filter.mp (sub.subset List.mem_cons_self)).2
    have hb := (List.mem_filter.mp (sub.subset (List.mem_cons_of_mem _ List.mem_cons_self))).2
    rw [ne_gt_iff_isLE]
    refine TransCmp.isLE_trans (b := x) ?_ ?_
    · have swap : cmp a x = (cmp x a).swap := OrientedCmp.eq_swap
      rw [swap, beq_iff_eq.mp ha]
      rfl
    · rw [beq_iff_eq.mp hb]
      rfl
  have sub := (List.sublist_mergeSort ne_gt_trans ne_gt_total tied List.filter_sublist).filter fun a => cmp x a == .eq
  rw [List.filter_filter] at sub
  simp only [Bool.and_self] at sub
  refine (sub.eq_of_length ?_).symm
  exact ((List.mergeSort_perm l _).filter _).length_eq.symm

/-- A list that is sorted is determined by the order of the elements that go either way round. -/
theorem eq_of_sorted_of_ties {l₁ l₂ : List α} (h₁ : l₁.Pairwise fun a b => cmp a b ≠ .gt)
    (h₂ : l₂.Pairwise fun a b => cmp a b ≠ .gt)
    (same : ∀ x, l₁.filter (fun a => cmp x a == .eq) = l₂.filter fun a => cmp x a == .eq) : l₁ = l₂ := by
  have refl : ∀ a, (cmp a a == .eq) = true := fun a => beq_iff_eq.mpr ReflCmp.compare_self
  have mem : ∀ a, a ∈ l₁ ↔ a ∈ l₂ := by
    intro a
    have tied := congrArg (a ∈ ·) (same a)
    simpa [List.mem_filter, refl a] using tied
  induction l₁ generalizing l₂ with
  | nil =>
    cases l₂ with
    | nil => rfl
    | cons b _ => cases (mem b).mpr List.mem_cons_self
  | cons a t₁ ih =>
    cases l₂ with
    | nil => cases (mem a).mp List.mem_cons_self
    | cons b t₂ =>
      obtain ⟨ha, rest₁⟩ := List.pairwise_cons.mp h₁
      obtain ⟨hb, rest₂⟩ := List.pairwise_cons.mp h₂
      -- the first elements go either way round, so they are the first of the same ties
      have tie : (cmp a b == .eq) = true := by
        rcases List.mem_cons.mp ((mem a).mp List.mem_cons_self) with rfl | ha'
        · exact refl a
        · rcases List.mem_cons.mp ((mem b).mpr List.mem_cons_self) with rfl | hb'
          · exact refl b
          · have le := ha b hb'
            have ge := hb a ha'
            have swap : cmp b a = (cmp a b).swap := OrientedCmp.eq_swap
            rw [swap] at ge
            cases h : cmp a b with
            | eq => rfl
            | lt => simp [h] at ge
            | gt => exact absurd h le
      have first := same a
      rw [List.filter_cons, if_pos (refl a), List.filter_cons, if_pos tie] at first
      obtain ⟨rfl, -⟩ := List.cons.inj first
      have rest : ∀ x, t₁.filter (fun c => cmp x c == .eq) = t₂.filter fun c => cmp x c == .eq := by
        intro x
        have tied := same x
        rw [List.filter_cons, List.filter_cons] at tied
        split at tied
        · exact (List.cons.inj tied).2
        · exact tied
      refine congrArg (a :: ·) (ih rest₁ rest₂ rest ?_)
      intro c
      have tied := congrArg (c ∈ ·) (rest c)
      simpa [List.mem_filter, refl c] using tied

end

/-- Rows are sorted by rules as rows, without their projections. -/
theorem sortBy_eq (rules : List Rule) (rows : List Row) :
    sortBy rules rows = rows.mergeSort fun a b => compareRows rules a b != .gt := by
  have decorated : ((rows.mergeSort fun a b => compareRows rules a b != .gt).map fun r => (r.projection, r)) =
      (rows.map fun r => (r.projection, r)).mergeSort fun a b => compareBy rules a.1 b.1 != .gt :=
    List.map_mergeSort fun _ _ _ _ => rfl
  rw [sortBy, ← decorated, List.map_map]
  exact List.map_id _

/-! ## What qualifies -/

/-- A value meets a condition with an operator that is known. -/
inductive Match.Meets (m : Match) (entity : Json) : Prop
  | eq {v : Json} (operator : m.operator = .eq) (field : entity.resolve m.field = some v) (same : v.same m.value = true)
  | within {v w : Json} {choices : List Json} (operator : m.operator = .within)
      (field : entity.resolve m.field = some v) (value : m.value = .arr choices) (mem : w ∈ choices)
      (same : w.same v = true)
  | contains {w : Json} {items : List Json} (operator : m.operator = .contains)
      (field : entity.resolve m.field = some (.arr items)) (mem : w ∈ items) (same : w.same m.value = true)

/-- The condition that a selection asks for, if it asks for one. -/
structure Asks (config : Config) (filterId optionId : String) (m : Match) : Prop where
  not_all : optionId ≠ "all"
  /-- Of filters with one id the first counts, and of its options. -/
  resolves : ∃ f o, config.filters.find? (fun f => f.id == filterId) = some f ∧
    f.options.find? (fun o => o.id == optionId) = some o ∧ o.rule = some m
  known : ∀ name, m.operator ≠ .unknown name

/-- A row qualifies if it matches the query and meets each condition that a selection asks for. -/
structure Row.Qualifies (config : Config) (selections : Selections) (query : String) (r : Row) : Prop where
  found : r.matchesQuery query = true
  meets : ∀ filterId optionId, selections.get? filterId = some optionId → ∀ m, Asks config filterId optionId m →
    m.Meets r.projection

theorem items?_eq_some_iff {v : Json} {items : List Json} : v.items? = some items ↔ v = .arr items := by
  cases v <;> simp [Json.items?]

theorem holds_iff (m : Match) (entity : Json) (known : ∀ name, m.operator ≠ .unknown name) :
    m.holds entity = true ↔ m.Meets entity := by
  unfold Match.holds
  cases op : m.operator with
  | eq =>
    rw [Option.any_eq_true]
    constructor
    · rintro ⟨v, field, same⟩
      exact .eq op field same
    · rintro (⟨_, field, same⟩ | ⟨op', _⟩ | ⟨op', _⟩)
      · exact ⟨_, field, same⟩
      · cases op.symm.trans op'
      · cases op.symm.trans op'
  | within =>
    rw [Option.any_eq_true]
    constructor
    · rintro ⟨v, field, some_same⟩
      obtain ⟨w, mem, same⟩ := List.any_eq_true.mp some_same
      cases value : m.value.items? with
      | none => simp [value] at mem
      | some choices =>
        rw [value] at mem
        exact .within op field (items?_eq_some_iff.mp value) mem same
    · rintro (⟨op', _⟩ | ⟨_, field, value, mem, same⟩ | ⟨op', _⟩)
      · cases op.symm.trans op'
      · refine ⟨_, field, List.any_eq_true.mpr ⟨_, ?_, same⟩⟩
        rw [items?_eq_some_iff.mpr value]
        exact mem
      · cases op.symm.trans op'
  | contains =>
    rw [Option.any_eq_true]
    constructor
    · rintro ⟨items, field, some_same⟩
      obtain ⟨v, found, hv⟩ := Option.bind_eq_some_iff.mp field
      obtain ⟨w, mem, same⟩ := List.any_eq_true.mp some_same
      rw [items?_eq_some_iff.mp hv] at found
      exact .contains op found mem same
    · rintro (⟨op', _⟩ | ⟨op', _⟩ | ⟨_, field, mem, same⟩)
      · cases op.symm.trans op'
      · cases op.symm.trans op'
      · exact ⟨_, by rw [field]; rfl, List.any_eq_true.mpr ⟨_, mem, same⟩⟩
  | unknown name => exact absurd op (known name)

theorem rule?_eq_some_iff {config : Config} {filterId optionId : String} {m : Match} :
    config.rule? filterId optionId = some m ↔
      ∃ f o, config.filters.find? (fun f => f.id == filterId) = some f ∧
        f.options.find? (fun o => o.id == optionId) = some o ∧ o.rule = some m := by
  simp only [Config.rule?, Config.filter?, Filter.option?, Option.bind_eq_some_iff]
  constructor
  · rintro ⟨o, ⟨f, filter, option⟩, rule⟩
    exact ⟨f, o, filter, option, rule⟩
  · rintro ⟨f, o, filter, option, rule⟩
    exact ⟨o, ⟨f, filter, option⟩, rule⟩

/-- A selection lets pass what meets the condition it asks for; if it asks for none, everything. -/
theorem passes_iff (config : Config) (entity : Json) (filterId optionId : String) :
    passes config entity filterId optionId = true ↔ ∀ m, Asks config filterId optionId m → m.Meets entity := by
  by_cases all : optionId = allOption
  · subst all
    simp only [passes, beq_self_eq_true, Bool.true_or, true_iff]
    exact fun m asks => absurd rfl asks.not_all
  rw [passes, beq_eq_false_iff_ne.mpr all, Bool.false_or]
  cases rule : config.rule? filterId optionId with
  | none =>
    simp only [true_iff]
    intro m asks
    cases rule.symm.trans (rule?_eq_some_iff.mpr asks.resolves)
  | some m =>
    constructor
    · intro holds m' asks
      cases rule.symm.trans (rule?_eq_some_iff.mpr asks.resolves)
      exact (holds_iff m entity asks.known).mp holds
    · intro meets
      by_cases known : ∀ name, m.operator ≠ .unknown name
      · exact (holds_iff m entity known).mpr (meets m ⟨all, rule?_eq_some_iff.mp rule, known⟩)
      · obtain ⟨name, unknown⟩ := Classical.not_forall_not.mp known
        simp [Match.holds, unknown]

theorem qualifies_iff (config : Config) (selections : Selections) (query : String) (r : Row) :
    (passesAll config selections r.projection && r.matchesQuery query) = true ↔
      r.Qualifies config selections query := by
  rw [Bool.and_eq_true, passesAll, List.all_eq_true]
  constructor
  · rintro ⟨passed, found⟩
    refine ⟨found, fun filterId optionId selected => ?_⟩
    exact (passes_iff ..).mp (passed _ ((selections.get?_eq_some_iff ..).mp selected))
  · rintro ⟨found, meets⟩
    refine ⟨fun s hs => ?_, found⟩
    exact (passes_iff ..).mpr (meets _ _ ((selections.get?_eq_some_iff ..).mpr hs))

instance (config : Config) (selections : Selections) (query : String) (r : Row) :
    Decidable (r.Qualifies config selections query) :=
  decidable_of_iff _ (qualifies_iff config selections query r)

theorem candidates_eq (rows : List Row) (config : Config) (selections : Selections) (query : String) :
    candidates rows config selections query = rows.filter fun r => r.Qualifies config selections query := by
  rw [candidates, search, List.filter_filter]
  apply List.filter_congr
  intro r _
  rw [Bool.eq_iff_iff, decide_eq_true_iff]
  exact qualifies_iff config selections query r

/-! ## What is displayed -/

/-- **What a list to display is**, of rows, for selections, an order and a query. -/
structure Displays (rows : List Row) (config : Config) (selections : Selections) (sortId query : String)
    (out : List Row) : Prop where
  perm : out.Perm (rows.filter fun r => r.Qualifies config selections query)
  /-- No row is greater than a later one. -/
  sorted : ∀ s, config.sortOptions.find? (fun s => s.id == sortId) = some s →
    out.Pairwise fun a b => compareRows s.rules a b ≠ .gt
  /-- Rows that go either way round are in the order in which they came. -/
  stable : ∀ s, config.sortOptions.find? (fun s => s.id == sortId) = some s → ∀ x,
    out.filter (fun r => compareRows s.rules x r == .eq) =
      (rows.filter fun r => r.Qualifies config selections query).filter fun r => compareRows s.rules x r == .eq
  /-- If there is no such order, all rows are in the order in which they came. -/
  unsorted : config.sortOptions.find? (fun s => s.id == sortId) = none →
    out = rows.filter fun r => r.Qualifies config selections query

section

variable {rows out : List Row} {config : Config} {selections : Selections} {sortId query : String}

theorem displays_display :
    Displays rows config selections sortId query (display rows config selections sortId query) := by
  unfold display Config.sort?
  rw [candidates_eq]
  cases found : config.sortOptions.find? (fun s => s.id == sortId) with
  | none =>
    refine ⟨.refl _, ?_, ?_, fun _ => rfl⟩
    all_goals
      intro s hs
      cases found.symm.trans hs
  | some s =>
    have order := transCmp_compareRows s.rules
    simp only [sortBy_eq]
    refine ⟨List.mergeSort_perm _ _, ?_, ?_, ?_⟩
    · intro s' hs
      cases found.symm.trans hs
      exact sorted_mergeSort _
    · intro s' hs x
      cases found.symm.trans hs
      exact filter_ties_mergeSort x _
    · intro absent
      cases found.symm.trans absent

theorem Displays.eq {other : List Row} (h : Displays rows config selections sortId query out)
    (h' : Displays rows config selections sortId query other) : out = other := by
  cases found : config.sortOptions.find? (fun s => s.id == sortId) with
  | none => rw [h.unsorted found, h'.unsorted found]
  | some s =>
    have order := transCmp_compareRows s.rules
    refine eq_of_sorted_of_ties (h.sorted s found) (h'.sorted s found) fun x => ?_
    rw [h.stable s found, h'.stable s found]

/-- What is displayed is what is to display of itself. -/
theorem Displays.self (h : Displays rows config selections sortId query out) :
    Displays out config selections sortId query out := by
  have all : out.filter (fun r => r.Qualifies config selections query) = out := by
    rw [List.filter_eq_self]
    exact fun r hr => (List.mem_filter.mp (h.perm.mem_iff.mp hr)).2
  constructor
  · rw [all]
  · exact h.sorted
  · intro s hs x
    rw [all]
  · exact fun _ => all.symm

/-- Selections that ask for the same conditions have the same rows qualify. -/
theorem Row.Qualifies.of_asks {others : Selections} {r : Row}
    (same : ∀ f o m, Asks config f o m → (selections.get? f = some o ↔ others.get? f = some o)) :
    r.Qualifies config selections query ↔ r.Qualifies config others query := by
  constructor
  · rintro ⟨found, meets⟩
    exact ⟨found, fun f o selected m asks => meets f o ((same f o m asks).mpr selected) m asks⟩
  · rintro ⟨found, meets⟩
    exact ⟨found, fun f o selected m asks => meets f o ((same f o m asks).mp selected) m asks⟩

end

/-- **The displayed list is determined** by what it is to be. Selections that ask for nothing do not matter, and what
is displayed is displayed again as it is. -/
theorem display_determined (rows : List Row) (config : Config) (selections : Selections) (sortId query : String) :
    (∀ out, Displays rows config selections sortId query out ↔ out = display rows config selections sortId query) ∧
    (∀ others : Selections,
      (∀ f o m, Asks config f o m → (selections.get? f = some o ↔ others.get? f = some o)) →
      display rows config others sortId query = display rows config selections sortId query) ∧
    display (display rows config selections sortId query) config selections sortId query =
      display rows config selections sortId query := by
  refine ⟨fun out => ⟨fun h => h.eq displays_display, ?_⟩, fun others same => ?_, ?_⟩
  · rintro rfl
    exact displays_display
  · apply Displays.eq displays_display
    obtain ⟨perm, sorted, stable, unsorted⟩ : Displays rows config selections sortId query _ := displays_display
    simp only [Row.Qualifies.of_asks same] at perm stable unsorted
    exact ⟨perm, sorted, stable, unsorted⟩
  · exact Displays.eq displays_display displays_display.self

def onlineOnly : Match := { field := "offline", operator := .eq, value := .bool false }

def newOnly : Match := { field := "installed_at", operator := .unknown "after", value := .null }

/-- A filter with a condition, one with an operator that is not known, and an order by name. -/
def tidy : Config where
  filters := [
    { id := "shown", label := "Shown", options := [{ id := "online", label := "Online", rule := some onlineOnly }] },
    { id := "age", label := "Age", options := [{ id := "new", label := "New", rule := some newOnly }] }]
  sortOptions := [{ id := "name", label := "Name", rules := [{ field := "name" }] }]

def fleet : List Row :=
  [Row.of { id := "z", name := "Zed" } none false, Row.of { id := "b", name := "Bob" } none true,
    Row.of { id := "a", name := "amy" } none false]

theorem fleet_display_determined :
    (display fleet tidy (.ofList [("shown", "online"), ("age", "new")]) "name" "").map Row.name = ["amy", "Zed"] := by
  rw [(display_determined fleet tidy (.ofList [("shown", "online")]) "name" "").2.1]
  · have found : candidates fleet tidy (.ofList [("shown", "online")]) "" = [fleet[0], fleet[2]] := rfl
    have greater : compareRows [{ field := "name" }] fleet[0] fleet[2] = .gt := by decide +kernel
    show (sortBy [{ field := "name" }] (candidates ..)).map Row.name = _
    rw [found, sortBy_eq]
    have names : fleet[2].name = "amy" ∧ fleet[0].name = "Zed" := ⟨rfl, rfl⟩
    simp only [List.mergeSort, List.MergeSort.Internal.splitInTwo]
    simp [greater, names]
  · intro f o m asks
    show _ ↔ (if "age" = f then some "new" else (KeyMap.ofList [("shown", "online")]).get? f) = some o
    split
    · rename_i own
      subst own
      refine ⟨nofun, ?_⟩
      rintro ⟨⟩
      have rule : tidy.rule? "age" "new" = some newOnly := rfl
      cases rule.symm.trans (rule?_eq_some_iff.mpr asks.resolves)
      exact absurd rfl (asks.known "after")
    · rfl

end Switchboard.Catalog
