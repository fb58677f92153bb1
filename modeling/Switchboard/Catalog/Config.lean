import Switchboard.Record.Shape

/-!
# Filter and sort configuration

The catalog comes with its own filters and sort orders, as data: a filter has options, an option may have a match on a
field, and a sort order is a list of rules on fields. An operator this program does not know is kept by its name, and a
sort direction it does not know counts as ascending. Of several parts with one id the first counts.
-/

namespace Switchboard.Catalog

open Record (Decoder Shape)

/-! ## Filters -/

/-- How a field is compared with the value of a match. -/
inductive Operator where
  /-- The field equals the value. -/
  | eq
  /-- The field is one of the values. -/
  | within
  /-- The field has the value as an item. -/
  | contains
  | unknown (name : String)
  deriving DecidableEq, Repr

namespace Operator

/-- The operator of a name. -/
def ofName (name : String) : Operator :=
  if name = "eq" then .eq else if name = "in" then .within else if name = "contains" then .contains else .unknown name

/-- The name of an operator. -/
def name : Operator → String
  | .eq => "eq"
  | .within => "in"
  | .contains => "contains"
  | .unknown n => n

def toJson (o : Operator) : Json := .str o.name

def decode : Decoder Operator := fun v => (Record.text v).map ofName

end Operator

/-- A condition on one field. -/
structure Match where
  /-- The path of the field. -/
  field : String
  operator : Operator
  value : Json

namespace Match

def toJson (m : Match) : Json :=
  .obj [("field", .str m.field), ("operator", m.operator.toJson), ("value", m.value)]

def shape : Shape Match :=
  mk <$> Shape.required "field" Record.text <*> Shape.required "operator" Operator.decode
    <*> Shape.required "value" Record.anything

def decode : Decoder Match := shape.decode "FilterMatch"

end Match

/-- A choice that a filter offers. -/
structure FilterOption where
  id : String
  label : String
  icon : Option String := none
  rule : Option Match := none

namespace FilterOption

def toJson (o : FilterOption) : Json := .obj [
  ("id", .str o.id), ("label", .str o.label), ("icon", .optional .str o.icon),
  ("match", .optional Match.toJson o.rule)]

def shape : Shape FilterOption :=
  mk <$> Shape.required "id" Record.text <*> Shape.required "label" Record.text
    <*> Shape.optional "icon" Record.text <*> Shape.optional "match" Match.decode

def decode : Decoder FilterOption := shape.decode "FilterOption"

end FilterOption

/-- A filter. -/
structure Filter where
  id : String
  label : String
  /-- Whether one option or several may be chosen. -/
  kind : String := "single"
  options : List FilterOption := []

namespace Filter

/-- The option with an id. -/
def option? (f : Filter) (id : String) : Option FilterOption := f.options.find? fun o => o.id == id

def toJson (f : Filter) : Json := .obj [
  ("id", .str f.id), ("label", .str f.label), ("type", .str f.kind),
  ("options", .arr (f.options.map FilterOption.toJson))]

def shape : Shape Filter :=
  mk <$> Shape.required "id" Record.text <*> Shape.required "label" Record.text
    <*> Shape.defaulted "type" Record.text "single"
    <*> Shape.defaulted "options" (Record.list FilterOption.decode) []

def decode : Decoder Filter := shape.decode "FilterDefinition"

end Filter

/-! ## Sort orders -/

/-- The direction of a sort rule. -/
inductive Direction where
  | desc
  | asc
  deriving DecidableEq, Repr

namespace Direction

def name : Direction → String
  | .desc => "desc"
  | .asc => "asc"

def toJson (d : Direction) : Json := .str d.name

def decode : Decoder Direction := Record.oneOf [("desc", .desc), ("asc", .asc)] (some .asc)

end Direction

/-- Where rows without the field of a rule go. -/
inductive Nulls where
  | first
  | last
  deriving DecidableEq, Repr

namespace Nulls

def name : Nulls → String
  | .first => "first"
  | .last => "last"

def toJson (n : Nulls) : Json := .str n.name

def decode : Decoder Nulls := Record.oneOf [("first", .first), ("last", .last)] none

end Nulls

/-- One rule of a sort order. -/
structure Rule where
  /-- The path of the field. -/
  field : String
  direction : Direction := .asc
  nulls : Option Nulls := none
  deriving DecidableEq, Repr

namespace Rule

def toJson (r : Rule) : Json := .obj [
  ("field", .str r.field), ("direction", r.direction.toJson), ("nulls", .optional Nulls.toJson r.nulls)]

def shape : Shape Rule :=
  mk <$> Shape.required "field" Record.text <*> Shape.defaulted "direction" Direction.decode .asc
    <*> Shape.optional "nulls" Nulls.decode

def decode : Decoder Rule := shape.decode "SortRule"

end Rule

/-- A sort order. -/
structure SortOption where
  id : String
  label : String
  rules : List Rule := []
  deriving DecidableEq, Repr

namespace SortOption

def toJson (s : SortOption) : Json := .obj [
  ("id", .str s.id), ("label", .str s.label), ("rules", .arr (s.rules.map Rule.toJson))]

def shape : Shape SortOption :=
  mk <$> Shape.required "id" Record.text <*> Shape.required "label" Record.text
    <*> Shape.defaulted "rules" (Record.list Rule.decode) []

def decode : Decoder SortOption := shape.decode "SortOption"

end SortOption

/-! ## The whole configuration -/

/-- The sort order that is chosen at first. -/
def defaultSort : String := "name_asc"

/-- Filters, sort orders and the length of a page. -/
structure Config where
  filters : List Filter := []
  sortOptions : List SortOption := []
  defaultSort : String := defaultSort
  itemsPerPage : UInt32 := 24

namespace Config

/-- The filter with an id. -/
def filter? (c : Config) (id : String) : Option Filter := c.filters.find? fun f => f.id == id

/-- The sort order with an id. -/
def sort? (c : Config) (id : String) : Option SortOption := c.sortOptions.find? fun s => s.id == id

/-- The condition behind a filter's option; none if either is unknown or the option has no condition. -/
def rule? (c : Config) (filterId optionId : String) : Option Match :=
  ((c.filter? filterId).bind fun f => f.option? optionId).bind FilterOption.rule

def toJson (c : Config) : Json := .obj [
  ("filters", .arr (c.filters.map Filter.toJson)), ("sort_options", .arr (c.sortOptions.map SortOption.toJson)),
  ("default_sort", .str c.defaultSort), ("items_per_page", .int c.itemsPerPage.toNat)]

def shape : Shape Config :=
  mk <$> Shape.defaulted "filters" (Record.list Filter.decode) []
    <*> Shape.defaulted "sort_options" (Record.list SortOption.decode) []
    <*> Shape.defaulted "default_sort" Record.text Catalog.defaultSort
    <*> Shape.defaulted "items_per_page" Record.u32 24

def decode : Decoder Config := shape.decode "UiConfig"

end Config

/-- What the home page shows: the ids of the featured servers. -/
structure Home where
  featured : List String := []
  deriving DecidableEq, Repr

namespace Home

def toJson (h : Home) : Json := .obj [("featured_server_ids", .ofTextList h.featured)]

def shape : Shape Home := mk <$> Shape.defaulted "featured_server_ids" (Record.list Record.text) []

def decode : Decoder Home := shape.decode "HomeConfig"

end Home

end Switchboard.Catalog
