import Switchboard.Server.Installation
import Switchboard.Server.Status

/-!
# Rows

A `Row` is what the server list shows of one server: its definition joined with its installation in the current space.
`merge` joins a whole catalog with the installations of a space. There is exactly one row an id: the first definition
and the last installation of an id count, and an installation without a definition is shown by its snapshot, or by a
placeholder if there is no readable one.

The projection of a row is the JSON value that filters and sort rules look at. It has every field but the input
values, which may be secret.
-/

namespace Switchboard.Catalog

/-- The elements whose key is new: neither in `seen` nor the key of an earlier element. -/
def distinctBy {α : Type} (key : α → String) (seen : List String) : List α → List α
  | [] => []
  | a :: rest =>
    if seen.contains (key a) then distinctBy key seen rest else a :: distinctBy key (key a :: seen) rest

/-- What the list shows of one server. -/
structure Row where
  definition : Definition
  isInstalled : Bool
  enabled : Bool
  oauthConnected : Bool
  /-- The values of the inputs; not part of the projection. -/
  inputValues : KeyMap String
  envOverrides : KeyMap String
  argsAppend : List String
  extraHeaders : KeyMap String
  /-- Whether a required input has no value. -/
  missingRequiredInputs : Bool
  status : Status
  installedAt : Option Instant
  /-- Whether the row was made from a snapshot or a placeholder. -/
  offline : Bool
  deriving DecidableEq

namespace Row

/-- The id of the server. -/
def id (r : Row) : String := r.definition.id

/-- The name of the server. -/
def name (r : Row) : String := r.definition.name

/-- The row of a definition and an installation, if there is one. An enabled server is taken to be connecting. -/
def of (d : Definition) (installed : Option Installation) (offline : Bool) : Row where
  definition := d
  isInstalled := installed.isSome
  enabled := installed.any Installation.enabled
  oauthConnected := installed.any Installation.oauthConnected
  inputValues := (installed.map Installation.inputValues).getD .empty
  envOverrides := (installed.map Installation.envOverrides).getD .empty
  argsAppend := (installed.map Installation.argsAppend).getD []
  extraHeaders := (installed.map Installation.extraHeaders).getD .empty
  missingRequiredInputs := d.requiredInputs.any fun i => !installed.any fun s => s.hasInput i.id
  status := if installed.any Installation.enabled then .connecting else .disconnected
  installedAt := installed.map Installation.createdAt
  offline := offline

/-- The value that filters and sort rules look at. -/
def projection (r : Row) : Json := .obj (r.definition.members ++ [
  ("is_installed", .bool r.isInstalled), ("enabled", .bool r.enabled), ("oauth_connected", .bool r.oauthConnected),
  ("env_overrides", .ofTexts r.envOverrides), ("args_append", .ofTextList r.argsAppend),
  ("extra_headers", .ofTexts r.extraHeaders), ("missing_required_inputs", .bool r.missingRequiredInputs),
  ("connection_status", r.status.toJson), ("installed_at", .optional (fun t : Instant => .str t.text) r.installedAt),
  ("offline", .bool r.offline)])

/-- The same row with the reported status, if there is a report. -/
def withStatus (statuses : KeyMap StatusRecord) (r : Row) : Row :=
  match statuses.get? r.id with
  | some record => { r with status := record.status }
  | none => r

end Row

/-! ## Joining -/

/-- Shown as the description of a server whose definition is not known. -/
def notCached : String := "(Server definition not cached)"

/-- A definition that shows an installation by its name alone. -/
def placeholder (s : Installation) : Definition :=
  { id := s.serverId, name := s.displayName, description := some notCached }

/-- The definition an installation is shown by without the catalog. Its id is that of the installation. -/
def offlineDefinition (s : Installation) : Definition :=
  match s.definition? with
  | some d => { d with id := s.serverId }
  | none => placeholder s

/-- The last installation of a server. -/
def latest? (installed : List Installation) (serverId : String) : Option Installation :=
  installed.reverse.find? fun s => s.serverId == serverId

/-- The row of an installation that the catalog does not know. -/
def offlineRow (installed : List Installation) (s : Installation) : Row :=
  let s := (latest? installed s.serverId).getD s
  .of (offlineDefinition s) (some s) true

/-- The rows of a catalog and the installations of a space. -/
def merge (definitions : List Definition) (installed : List Installation) : List Row :=
  (distinctBy Definition.id [] definitions).map (fun d => .of d (latest? installed d.id) false)
    ++ (distinctBy Installation.serverId (definitions.map Definition.id) installed).map (offlineRow installed)

end Switchboard.Catalog
