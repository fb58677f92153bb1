import Switchboard.Catalog.Display
import Switchboard.Uuid

/-!
# The state of the registry page

`Registry.State` is what the page of servers shows: the catalog, what is installed in the current space, and the
user's search, filters, sort order and page. The rows are derived from it on demand.
-/

namespace Switchboard.Registry

/-- What the registry page shows. -/
structure State where
  /-- The current space. -/
  space : Option Uuid := none
  definitions : List Definition := []
  installed : List Installation := []
  config : Catalog.Config := {}
  featuredIds : List String := []
  /-- Whether the catalog is a cached one or could not be reached. -/
  offline : Bool := false
  selections : Catalog.Selections := .empty
  sort : String := Catalog.defaultSort
  query : String := ""
  /-- The current page, counted from one. -/
  page : UInt32 := 1
  loading : Bool := false
  error : Option String := none
  /-- The servers with a change under way. -/
  pending : KeySet := .empty
  /-- How many loads were started; only the latest one counts. They are assumed to be fewer than 2 ^ 64, so that a
  number of 64 bits would count them too. -/
  loads : Nat := 0
  /-- How many fetches of the installed list were started, which are assumed to be fewer than 2 ^ 64; only the latest
  one counts. -/
  fetches : Nat := 0

namespace State

/-! ## What is shown -/

/-- All rows. -/
def rows (s : State) : List Catalog.Row := Catalog.merge s.definitions s.installed

/-- The rows that are searched for and selected, in the chosen order. -/
def display (s : State) : List Catalog.Row := Catalog.display s.rows s.config s.selections s.sort s.query

/-- The number of pages. -/
def pageCount (s : State) : UInt32 := Catalog.pageCount s.display.length s.config.itemsPerPage

/-- The rows of the current page. -/
def pageRows (s : State) : List Catalog.Row := Catalog.paginate s.display s.page s.config.itemsPerPage

/-- The featured rows, in their order; an id without a row is passed over. -/
def featured (s : State) : List Catalog.Row :=
  s.featuredIds.filterMap fun id => s.rows.find? fun r => r.id == id

/-- The name by which the user is told of a server. -/
def serverName (s : State) (server : String) : String :=
  match s.definitions.find? fun d => d.id == server with
  | some d => d.name
  | none =>
    match s.installed.find? fun i => i.serverId == server with
    | some i => i.displayName
    | none => server

/-! ## The user's changes -/

/-- Selects an option of a filter; the search is given up. -/
def selectFilter (s : State) (filter option : String) : State :=
  { s with
    selections := if option = Catalog.allOption then s.selections.erase filter else s.selections.insert filter option
    query := ""
    page := 1 }

/-- Searches; the selections stay. -/
def search (s : State) (query : String) : State := { s with query := query, page := 1 }

def sortBy (s : State) (sort : String) : State := { s with sort := sort, page := 1 }

def clearFilters (s : State) : State := { s with selections := .empty, page := 1 }

/-- Goes to a page, or to the nearest one that there is. -/
def goTo (s : State) (page : UInt32) : State := { s with page := min (max page 1) s.pageCount }

def dismissError (s : State) : State := { s with error := none }

end State

end Switchboard.Registry
