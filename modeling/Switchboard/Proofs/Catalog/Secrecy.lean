import Mathlib.Data.List.Forall2
import Switchboard.Catalog.Display
import Switchboard.Proofs.Catalog.Merge

/-!
# Secrecy of input values

The values of inputs may be secret, and a row holds them. What else a row shows depends on them in one way only: whether
a required input has a value that is not empty. So installations that differ in nothing but values, and have the same
inputs filled in, give rows that differ in nothing but values (`map_withoutValues_merge`). Search, filters and sort
orders do not look at the values of a row, whatever the configuration says (`display_map`). Main statement:
`values_not_revealed`.
-/

namespace Switchboard

/-- Two installations are equal but for the values of inputs, and have values that are not empty for the same inputs. -/
structure Installation.EqualButValues (s t : Installation) : Prop where
  others : { s with inputValues := t.inputValues } = t
  filled : ∀ id, (∃ v, s.inputValues.get? id = some v ∧ v ≠ "") ↔ ∃ v, t.inputValues.get? id = some v ∧ v ≠ ""

namespace Catalog

/-- A row without the values of its inputs. -/
def Row.withoutValues (r : Row) : Row := { r with inputValues := .empty }

/-- The rows that are displayed of a catalog and its installations, with the statuses that are reported. -/
def listed (definitions : List Definition) (statuses : KeyMap StatusRecord) (config : Config) (selections : Selections)
    (sortId query : String) (installed : List Installation) : List Row :=
  display ((merge definitions installed).map (Row.withStatus statuses)) config selections sortId query

/-! ## What is looked at -/

section

variable {f : Row → Row} (texts : ∀ r, (f r).searchTexts = r.searchTexts)
  (projection : ∀ r, (f r).projection = r.projection)

include projection in
theorem sortBy_map (rules : List Rule) (rows : List Row) : sortBy rules (rows.map f) = (sortBy rules rows).map f := by
  have decorated : (rows.map f).map (fun r => (r.projection, r)) =
      (rows.map fun r => (r.projection, r)).map fun p => (p.1, f p.2) := by
    simp only [List.map_map]
    exact List.map_congr_left fun r _ => Prod.ext (projection r) rfl
  let above (a b : Json × Row) : Bool := compareBy rules a.1 b.1 != .gt
  have sorted : ((rows.map fun r => (r.projection, r)).mergeSort above).map (fun p => (p.1, f p.2)) =
      ((rows.map fun r => (r.projection, r)).map fun p => (p.1, f p.2)).mergeSort above :=
    List.map_mergeSort fun _ _ _ _ => rfl
  rw [sortBy, sortBy, decorated, ← sorted, List.map_map, List.map_map]
  rfl

include texts projection in
theorem candidates_map (rows : List Row) (config : Config) (selections : Selections) (query : String) :
    candidates (rows.map f) config selections query = (candidates rows config selections query).map f := by
  have matched : ∀ r, (f r).matchesQuery query = r.matchesQuery query := fun r => by
    rw [Row.matchesQuery, Row.matchesQuery, texts]
  have passed : ∀ r, passesAll config selections (f r).projection = passesAll config selections r.projection :=
    fun r => by rw [projection]
  simp only [candidates, search, List.filter_map, Function.comp_def, matched, passed]

include texts projection in
/-- What is displayed is a matter of the texts that are searched and of the projections. -/
theorem display_map (rows : List Row) (config : Config) (selections : Selections) (sortId query : String) :
    display (rows.map f) config selections sortId query = (display rows config selections sortId query).map f := by
  rw [display, display, candidates_map texts projection]
  cases config.sort? sortId with
  | none => rfl
  | some s => exact sortBy_map projection s.rules _

end

/-! ## Rows without values -/

theorem Row.id_withoutValues (r : Row) : r.withoutValues.id = r.id := rfl

/-- What a row shows besides values is the same of rows that are equal without them. -/
theorem map_congr_withoutValues {α : Type} {shows : Row → α} (blind : ∀ r, shows r.withoutValues = shows r)
    {rows others : List Row} (same : rows.map Row.withoutValues = others.map Row.withoutValues) :
    rows.map shows = others.map shows := by
  have through : ∀ l : List Row, l.map shows = (l.map Row.withoutValues).map shows := by
    intro l
    rw [List.map_map]
    exact List.map_congr_left fun r _ => (blind r).symm
  rw [through rows, through others, same]

theorem withStatus_withoutValues (statuses : KeyMap StatusRecord) (r : Row) :
    r.withoutValues.withStatus statuses = (r.withStatus statuses).withoutValues := by
  unfold Row.withStatus
  rw [Row.id_withoutValues]
  cases statuses.get? r.id <;> rfl

/-- The displayed rows without values are a matter of the rows without values. -/
theorem map_withoutValues_listed (definitions : List Definition) (statuses : KeyMap StatusRecord) (config : Config)
    (selections : Selections) (sortId query : String) (installed : List Installation) :
    (listed definitions statuses config selections sortId query installed).map Row.withoutValues =
      display (((merge definitions installed).map Row.withoutValues).map (Row.withStatus statuses)) config selections
        sortId query := by
  rw [listed, ← display_map (f := Row.withoutValues) (fun _ => rfl) (fun _ => rfl), List.map_map, List.map_map]
  congr 1
  exact List.map_congr_left fun r _ => (withStatus_withoutValues statuses r).symm

/-! ## Joining -/

section

variable {s t : Installation}

theorem hasInput_eq_true_iff (s : Installation) (id : String) :
    s.hasInput id = true ↔ ∃ v, s.inputValues.get? id = some v ∧ v ≠ "" := by
  rw [← Bool.not_eq_false, hasInput_eq_false_iff]
  simp

theorem hasInput_eq (h : s.EqualButValues t) (id : String) : s.hasInput id = t.hasInput id := by
  rw [Bool.eq_iff_iff, hasInput_eq_true_iff, hasInput_eq_true_iff]
  exact h.filled id

theorem serverId_eq (h : s.EqualButValues t) : s.serverId = t.serverId := by rw [← h.others]

theorem offlineDefinition_congr (h : s.EqualButValues t) : offlineDefinition s = offlineDefinition t := by
  rw [← h.others]
  rfl

/-- The row of an installation shows its values, and whether required inputs are filled in. -/
theorem withoutValues_of {o o' : Option Installation} (h : Option.Rel Installation.EqualButValues o o')
    (d : Definition) (offline : Bool) : (Row.of d o offline).withoutValues = (Row.of d o' offline).withoutValues := by
  cases h with
  | none => rfl
  | some h =>
    simp only [Row.of, Row.withoutValues, Option.any_some, hasInput_eq h]
    rw [← h.others]
    rfl

end

section

variable {installed others : List Installation} (alike : List.Forall₂ Installation.EqualButValues installed others)
include alike

theorem find?_alike (id : String) : Option.Rel Installation.EqualButValues
    (installed.find? fun s => s.serverId == id) (others.find? fun s => s.serverId == id) := by
  induction alike with
  | nil => exact .none
  | @cons s t _ _ h _ ih =>
    rw [List.find?_cons, List.find?_cons, serverId_eq h]
    cases t.serverId == id with
    | true => exact .some h
    | false => exact ih

theorem latest?_alike (id : String) :
    Option.Rel Installation.EqualButValues (latest? installed id) (latest? others id) :=
  find?_alike (List.forall₂_reverse_iff.mpr alike) id

theorem distinctBy_alike (seen : List String) : List.Forall₂ Installation.EqualButValues
    (distinctBy Installation.serverId seen installed) (distinctBy Installation.serverId seen others) := by
  induction alike generalizing seen with
  | nil => exact .nil
  | @cons s t _ _ h _ ih =>
    rw [distinctBy, distinctBy, serverId_eq h]
    split
    · exact ih seen
    · exact .cons h (ih _)

theorem withoutValues_offlineRow {s t : Installation} (h : s.EqualButValues t) :
    (offlineRow installed s).withoutValues = (offlineRow others t).withoutValues := by
  have last : Installation.EqualButValues ((latest? installed s.serverId).getD s)
      ((latest? others t.serverId).getD t) := by
    rw [serverId_eq h]
    have found := latest?_alike alike t.serverId
    revert found
    generalize latest? installed t.serverId = o, latest? others t.serverId = o'
    rintro (h' | _)
    · exact h'
    · exact h
  rw [offlineRow, offlineRow, offlineDefinition_congr last]
  exact withoutValues_of (.some last) _ true

/-- Joined rows differ in values alone. -/
theorem map_withoutValues_merge (definitions : List Definition) :
    (merge definitions installed).map Row.withoutValues = (merge definitions others).map Row.withoutValues := by
  rw [merge, merge, List.map_append, List.map_append, List.map_map, List.map_map, List.map_map, List.map_map]
  congr 1
  · exact List.map_congr_left fun d _ => withoutValues_of (latest?_alike alike d.id) d false
  · rw [← List.forall₂_eq_eq_eq, List.forall₂_map_left_iff, List.forall₂_map_right_iff]
    exact (distinctBy_alike alike _).imp fun s t h => withoutValues_offlineRow alike h

end

theorem map_paginate {α β : Type} (f : α → β) (items : List α) (page perPage : UInt32) :
    (paginate items page perPage).map f = paginate (items.map f) page perPage := by
  unfold paginate
  split
  · rfl
  · rw [List.map_take, List.map_drop]

/-- **Values of inputs are not revealed.** Installations that differ in values alone, the same inputs filled in, give
rows that differ in values alone and have the same projections; and whatever configuration, selections, order, query
and statuses there are, the same ids are displayed in the same order, on the same pages. -/
theorem values_not_revealed {installed others : List Installation}
    (alike : List.Forall₂ Installation.EqualButValues installed others) (definitions : List Definition) :
    (merge definitions installed).map Row.withoutValues = (merge definitions others).map Row.withoutValues ∧
    (merge definitions installed).map Row.projection = (merge definitions others).map Row.projection ∧
    ∀ statuses config selections sortId query,
      let shown := listed definitions statuses config selections sortId query
      (shown installed).map Row.withoutValues = (shown others).map Row.withoutValues ∧
      (shown installed).map Row.id = (shown others).map Row.id ∧
      (∀ page, (paginate (shown installed) page config.itemsPerPage).map Row.id =
        (paginate (shown others) page config.itemsPerPage).map Row.id) ∧
      pageCount (shown installed).length config.itemsPerPage = pageCount (shown others).length config.itemsPerPage := by
  have rows := map_withoutValues_merge alike definitions
  refine ⟨rows, map_congr_withoutValues (fun _ => rfl) rows, fun statuses config selections sortId query => ?_⟩
  have same : (listed definitions statuses config selections sortId query installed).map Row.withoutValues =
      (listed definitions statuses config selections sortId query others).map Row.withoutValues := by
    rw [map_withoutValues_listed, map_withoutValues_listed, rows]
  have ids := map_congr_withoutValues Row.id_withoutValues same
  refine ⟨same, ids, fun page => ?_, ?_⟩
  · rw [map_paginate, map_paginate, ids]
  · rw [← List.length_map Row.id, ids, List.length_map]

/-- It does not matter which value an input is filled in with. -/
theorem equalButValues_withInput (s : Installation) (key : String) {value other : String} (filled : value ≠ "")
    (filled' : other ≠ "") : (s.withInput key value).EqualButValues (s.withInput key other) where
  others := rfl
  filled id := by
    by_cases own : key = id <;> simp [Installation.withInput, KeyMap.get?_insert, own, filled, filled']

/-- A server that needs a token. -/
def guarded : Definition where
  id := "gh"
  name := "GitHub"
  transport := .stdio "gh" [] .empty ⟨[{ id := "token", label := "Token", required := true }]⟩

/-- Two servers with a token each. -/
def tokens (first second : String) : List Installation :=
  [(Installation.create .nil .epoch "home" "gh").withInput "token" first,
    (Installation.create .nil .epoch "home" "slack").withInput "token" second]

/-- A filter by the value of a token, and an order by it. -/
def prying : Config where
  filters := [{ id := "f", label := "F", options := [
    { id := "a", label := "A", rule := some { field := "input_values.token", operator := .eq, value := .str "a" } }] }]
  sortOptions := [{ id := "s", label := "S", rules := [{ field := "input_values.token", nulls := some .first }] }]

theorem tokens_not_revealed :
    List.Forall₂ Installation.EqualButValues (tokens "a" "b") (tokens "b" "a") ∧
    (merge [guarded] (tokens "a" "b")).map Row.projection = (merge [guarded] (tokens "b" "a")).map Row.projection ∧
    (listed [guarded] .empty prying (.ofList [("f", "a")]) "s" "" (tokens "a" "b")).map Row.id =
      (listed [guarded] .empty prying (.ofList [("f", "a")]) "s" "" (tokens "b" "a")).map Row.id := by
  have alike : List.Forall₂ Installation.EqualButValues (tokens "a" "b") (tokens "b" "a") :=
    .cons (equalButValues_withInput _ _ (by decide) (by decide))
      (.cons (equalButValues_withInput _ _ (by decide) (by decide)) .nil)
  have hidden := values_not_revealed alike [guarded]
  exact ⟨alike, hidden.2.1, (hidden.2.2 .empty prying (.ofList [("f", "a")]) "s" "").2.1⟩

end Catalog

end Switchboard
