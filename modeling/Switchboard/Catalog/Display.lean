import Switchboard.Catalog.Config
import Switchboard.Catalog.Row
import Switchboard.Json.Path
import Switchboard.Text.Case

/-!
# The displayed list

Rows are searched, then filtered by the selections, then sorted by the chosen order, and shown page by page.

- A row matches a query if the query's lower-case form occurs in the lower-case form of the name, the description, the
  id, the alias or a category. The empty query matches every row.
- A selection names an option of a filter. The option `all`, an unknown filter or option, an option without a condition
  and a condition with an unknown operator let everything pass.
- Two values are compared field by field, by the rules of a sort order; the first rule that tells them apart decides. A
  value without the field goes where the rule says, whatever the direction. Fields of different kinds, and fields other
  than truth values, texts and numbers, compare equal. The sort is stable; an unknown order leaves the rows as they are.
- A list is cut into pages of equal length, counted from one. Page zero is the first page, a page past the end is empty,
  and with a page length of zero there is one page that holds everything.
-/

namespace Switchboard.Catalog

/-! ## Search -/

/-- The texts of a row that are searched. -/
def Row.searchTexts (r : Row) : List String :=
  [r.definition.name] ++ r.definition.description.toList ++ [r.definition.id] ++ r.definition.shortName.toList
    ++ r.definition.categories

/-- Whether a row matches a query. -/
def Row.matchesQuery (query : String) (r : Row) : Bool :=
  query.isEmpty || r.searchTexts.any fun t => Text.contains (Text.lower t) (Text.lower query)

/-- The rows that match a query, in order. -/
def search (rows : List Row) (query : String) : List Row := rows.filter (Row.matchesQuery query)

/-! ## Selections -/

/-- The option that switches a filter off. -/
def allOption : String := "all"

/-- The selected option of each filter. -/
abbrev Selections := KeyMap String

/-- Whether a value meets a condition. -/
def Match.holds (m : Match) (entity : Json) : Bool :=
  let field := entity.resolve m.field
  match m.operator with
  | .eq => field.any fun v => v.same m.value
  | .within => field.any fun v => (m.value.items?.getD []).any fun w => w.same v
  | .contains => (field.bind Json.items?).any fun items => items.any fun w => w.same m.value
  | .unknown _ => true

/-- Whether a value passes the selection of one filter. -/
def passes (config : Config) (entity : Json) (filterId optionId : String) : Bool :=
  optionId == allOption ||
    match config.rule? filterId optionId with
    | some m => m.holds entity
    | none => true

/-- Whether a value passes all selections. -/
def passesAll (config : Config) (selections : Selections) (entity : Json) : Bool :=
  selections.entries.all fun s => passes config entity s.1 s.2

/-! ## Orders -/

/-- Orders texts by their lower-case forms, and those that agree by themselves. -/
def compareTexts (a b : String) : Ordering :=
  (compare (Text.lower a) (Text.lower b)).then (compare a b)

/-- Orders two fields that are both present; true goes before false. -/
def compareFields : Json → Json → Ordering
  | .bool a, .bool b => compare b a
  | .str a, .str b => compareTexts a b
  | .num a, .num b => Double.compare a.toDouble b.toDouble
  | _, _ => .eq

/-- The order in the direction of a rule. -/
def Direction.apply : Direction → Ordering → Ordering
  | .asc, o => o
  | .desc, o => o.swap

/-- Orders by one rule, given the fields. -/
def Rule.compareFound (r : Rule) : Option Json → Option Json → Ordering
  | none, none => .eq
  | none, some _ => if r.nulls = some .first then .lt else .gt
  | some _, none => if r.nulls = some .first then .gt else .lt
  | some a, some b => r.direction.apply (compareFields a b)

/-- Orders by one rule. -/
def Rule.compare (r : Rule) (a b : Json) : Ordering := r.compareFound (a.resolve r.field) (b.resolve r.field)

/-- Orders by several rules: the first that tells the values apart decides. -/
def compareBy : List Rule → Json → Json → Ordering
  | [], _, _ => .eq
  | r :: rest, a, b => (r.compare a b).then (compareBy rest a b)

/-! ## The list -/

/-- The rows that are searched for and selected, in order. -/
def candidates (rows : List Row) (config : Config) (selections : Selections) (query : String) : List Row :=
  (search rows query).filter fun r => passesAll config selections r.projection

/-- Sorts rows by rules; rows that compare equal stay in order. -/
def sortBy (rules : List Rule) (rows : List Row) : List Row :=
  ((rows.map fun r => (r.projection, r)).mergeSort fun a b => compareBy rules a.1 b.1 != .gt).map Prod.snd

/-- The rows to display. -/
def display (rows : List Row) (config : Config) (selections : Selections) (sortId query : String) : List Row :=
  let found := candidates rows config selections query
  match config.sort? sortId with
  | some s => sortBy s.rules found
  | none => found

/-! ## Pages -/

/-- One page of a list. -/
def paginate {α : Type} (items : List α) (page perPage : UInt32) : List α :=
  if perPage = 0 then items
  else (items.drop ((max page.toNat 1 - 1) * perPage.toNat)).take perPage.toNat

/-- The number of pages of `total` items, at least one. -/
def pageCount (total : Nat) (perPage : UInt32) : UInt32 :=
  if perPage = 0 ∨ total = 0 then 1
  else UInt32.ofNat (min ((total + perPage.toNat - 1) / perPage.toNat) (UInt32.size - 1))

end Switchboard.Catalog
