import Switchboard.Registry.State
import Switchboard.Turn

/-!
# Operations on the registry

A load fetches catalog and installations one after the other and takes them in together at the end, unless another
load was started in the meantime. A refresh fetches only the installations. A mutation changes an installation and, if
the backend agreed, is followed by a refresh. Of several fetches of the installed list only the one started last
counts.
-/

namespace Switchboard.Registry

open Backend (Call Inputs Rejection Reply)

/-- A change of an installation. -/
inductive Mutation where
  | install (server : String)
  | uninstall (server : String)
  | setEnabled (server : String) (enabled : Bool)
  | saveInputs (server : String) (inputs : Inputs)
  deriving DecidableEq

namespace Mutation

/-- The server to change. -/
def server : Mutation → String
  | install s | uninstall s | setEnabled s _ | saveInputs s _ => s

/-- The call that asks for the change in a space. -/
def call (space : Uuid) : Mutation → Call
  | install server => .install server space
  | uninstall server => .uninstall server space
  | setEnabled server enabled => .setEnabled server enabled space
  | saveInputs server inputs => .saveInputs server space inputs

/-- What was done, before the name of the server. -/
def verb : Mutation → String
  | install _ => "Installed"
  | uninstall _ => "Uninstalled"
  | setEnabled _ true => "Enabled"
  | setEnabled _ false => "Disabled"
  | saveInputs .. => "Saved configuration for"

/-- Reads the reply to the call; where the backend gives an installation it has to be one. -/
def read (m : Mutation) (space : Uuid) (reply : Reply) : Except Rejection Unit :=
  match m with
  | install _ | saveInputs .. => (reply.installation (m.call space)).map fun _ => ()
  | uninstall _ | setEnabled .. => reply.acknowledge (m.call space).command

end Mutation

/-- An operation. -/
inductive Operation where
  | load (space : Uuid)
  | refresh
  | mutate (mutation : Mutation)
  deriving DecidableEq

/-- A load: its space, and its place among the loads and among the fetches of the installed list. -/
structure Load where
  space : Uuid
  number : Nat
  fetch : Nat
  deriving DecidableEq, Repr

/-- What a waiting operation still has to do. The steps of a load hold what the replies so far gave. -/
inductive Task where
  | config (load : Load)
  | home (load : Load) (config : Option Catalog.Config)
  | catalog (load : Load) (config : Option Catalog.Config) (featured : List String)
  | offline (load : Load) (config : Option Catalog.Config) (featured : List String)
      (catalog : Except Rejection (List Definition))
  | installed (load : Load) (config : Option Catalog.Config) (featured : List String)
      (catalog : Except Rejection (List Definition)) (offline : Bool)
  | mutation (mutation : Mutation) (space : Uuid)
  | refresh (space : Uuid) (fetch : Nat)

/-- A change apart from any operation. -/
inductive Adjustment where
  | select (filter option : String)
  | search (query : String)
  | sort (sort : String)
  | clearFilters
  | goTo (page : UInt32)
  | dismissError
  deriving DecidableEq, Repr

/-- The call whose reply a task waits for. -/
def Task.call : Task → Call
  | config _ => .catalogConfig
  | home .. => .home
  | catalog .. => .catalog
  | offline .. => .offline
  | installed load .. => .installed load.space
  | mutation m space => m.call space
  | refresh space _ => .installed space

/-- The registry page with the operations in flight. -/
abbrev Store := Flight State Task

namespace State

/-! ## Loading -/

/-- Begins a load; a change of space gives up what belongs to the old one. -/
def beginLoad (s : State) (space : Uuid) : State :=
  { s with
    installed := if s.space = some space then s.installed else []
    pending := if s.space = some space then s.pending else .empty
    space := some space
    loading := true
    error := none
    loads := s.loads + 1
    fetches := s.fetches + 1 }

/-- Takes in a new configuration; a sort order it does not know is replaced by its default. -/
def takeConfig (s : State) : Option Catalog.Config → State
  | some c => { s with config := c, sort := if (c.sort? s.sort).isSome then s.sort else c.defaultSort }
  | none => s

/-- Takes in the catalog, or shows the installed servers without it. -/
def takeCatalog (s : State) (offline : Bool) : Except Rejection (List Definition) → State
  | .ok definitions => { s with definitions := definitions, offline := offline }
  | .error r =>
    { s with definitions := [], offline := true, error := some ("Failed to load registry: " ++ r.message) }

/-- What the user is told if the installed list cannot be had. -/
def installedError (r : Rejection) : String := "Failed to load installed servers: " ++ r.message

/-- Takes in the installed list that a load fetched, unless a later fetch was started. -/
def takeInstalled (s : State) (fetch : Nat) (installed : Except Rejection (List Installation)) : State :=
  if s.fetches = fetch then
    match installed with
    | .ok list => { s with installed := list }
    | .error r => { s with error := some (s.error.getD (installedError r)) }
  else s

/-- Ends a load: everything it fetched is taken in, unless a later load was started. -/
def finishLoad (s : State) (load : Load) (config : Option Catalog.Config) (featured : List String)
    (catalog : Except Rejection (List Definition)) (offline : Bool)
    (installed : Except Rejection (List Installation)) : State :=
  if s.loads = load.number then
    let s := { s.takeConfig config with featuredIds := featured }
    { (s.takeCatalog offline catalog).takeInstalled load.fetch installed with loading := false }
  else s

/-! ## Refreshing -/

/-- The first turn of a refresh; without a space there is nothing to fetch. -/
def beginRefresh (s : State) (notes : List Note) : Turn State Task :=
  match s.space with
  | none => ⟨s, .ends (.ok ()), notes⟩
  | some space => ⟨{ s with fetches := s.fetches + 1 }, .waits (.refresh space (s.fetches + 1)), notes⟩

/-- Ends a refresh: the list is taken in, unless a later fetch was started. -/
def finishRefresh (s : State) (fetch : Nat) (installed : Except Rejection (List Installation)) : State :=
  if s.fetches = fetch then
    match installed with
    | .ok list => { s with installed := list }
    | .error r => { s with error := some (installedError r) }
  else s

/-! ## Mutations -/

/-- The first turn of a mutation. -/
def beginMutation (s : State) (m : Mutation) : Turn State Task :=
  match s.space with
  | none => ⟨s, .ends (.error .notAttached), []⟩
  | some space => ⟨{ s with pending := s.pending.add m.server }, .waits (.mutation m space), []⟩

/-- The backend answered a mutation. -/
def finishMutation (s : State) (m : Mutation) (space : Uuid) (reply : Reply) : Turn State Task :=
  let s := { s with pending := s.pending.erase m.server }
  let name := s.serverName m.server
  match m.read space reply with
  | .ok () => s.beginRefresh [.success (m.verb ++ " " ++ name)]
  | .error r =>
    let command := (m.call space).command
    ⟨s, .ends (.error (.rejected command r)), [.error (command ++ " failed for " ++ name ++ ": " ++ r.message)]⟩

/-! ## Turns -/

/-- The first turn of an operation. -/
def start (s : State) : Operation → Turn State Task
  | .load space => ⟨s.beginLoad space, .waits (.config ⟨space, s.loads + 1, s.fetches + 1⟩), []⟩
  | .refresh => s.beginRefresh []
  | .mutate m => s.beginMutation m

/-- The turn of an operation whose reply came. -/
def resume (s : State) (reply : Reply) : Task → Turn State Task
  | .config load => ⟨s, .waits (.home load reply.catalogConfig.toOption), []⟩
  | .home load config =>
    ⟨s, .waits (.catalog load config ((reply.home.toOption.join.map Catalog.Home.featured).getD [])), []⟩
  | .catalog load config featured => ⟨s, .waits (.offline load config featured reply.catalog), []⟩
  | .offline load config featured catalog =>
    ⟨s, .waits (.installed load config featured catalog (reply.offline.toOption.getD false)), []⟩
  | .installed load config featured catalog offline =>
    ⟨s.finishLoad load config featured catalog offline (reply.installed load.space), .ends (.ok ()), []⟩
  | .mutation m space => s.finishMutation m space reply
  | .refresh space fetch => ⟨s.finishRefresh fetch (reply.installed space), .ends (.ok ()), []⟩

/-- Makes a change apart from any operation. -/
def adjust (s : State) : Adjustment → State
  | .select filter option => s.selectFilter filter option
  | .search query => s.search query
  | .sort sort => s.sortBy sort
  | .clearFilters => s.clearFilters
  | .goTo page => s.goTo page
  | .dismissError => s.dismissError

end State

/-- How the registry works. -/
def behaviour : Behaviour State Task Operation Reply Adjustment := ⟨State.start, State.resume, State.adjust⟩

end Switchboard.Registry
