import Switchboard.Json.Basic
import Switchboard.Uuid

/-!
# Calls to the backend

The backend answers calls: a command by its name, with the arguments in a JSON object. `Call` lists them all; a call
that is about a space has the space among its arguments.
-/

namespace Switchboard.Backend

/-- What the user filled in for a server; a part that is none is left as it is. -/
structure Inputs where
  values : KeyMap String := .empty
  envOverrides : Option (KeyMap String) := none
  argsAppend : Option (List String) := none
  extraHeaders : Option (KeyMap String) := none
  deriving DecidableEq

/-- What can be asked of a connection. -/
inductive Request where
  | enable
  | disable
  | connect
  | cancel
  | retry
  deriving DecidableEq, Repr

/-- A call to the backend. -/
inductive Call where
  /-- The filters and sort orders of the catalog. -/
  | catalogConfig
  /-- What the home page shows. -/
  | home
  /-- The definitions of the catalog. -/
  | catalog
  /-- Whether the backend itself takes the catalog from a cache. -/
  | offline
  /-- What is installed in a space. -/
  | installed (space : Uuid)
  | install (server : String) (space : Uuid)
  | uninstall (server : String) (space : Uuid)
  | setEnabled (server : String) (enabled : Bool) (space : Uuid)
  | saveInputs (server : String) (space : Uuid) (inputs : Inputs)
  /-- The status of every server of a space. -/
  | statuses (space : Uuid)
  | connection (request : Request) (space : Uuid) (server : String)
  deriving DecidableEq

/-- The command behind a request. -/
def Request.command : Request → String
  | .enable => "enable_server_v2"
  | .disable => "disable_server_v2"
  | .connect => "start_auth_v2"
  | .cancel => "cancel_auth_v2"
  | .retry => "retry_connection"

/-- What a request does, as a verb before the server's id. -/
def Request.verb : Request → String
  | .enable => "enable"
  | .disable => "disable"
  | .connect => "connect"
  | .cancel => "cancel authentication for"
  | .retry => "retry"

namespace Call

/-- The name of the command. -/
def command : Call → String
  | catalogConfig => "get_registry_ui_config"
  | home => "get_registry_home_config"
  | catalog => "discover_servers"
  | offline => "is_registry_offline"
  | installed _ => "list_installed_servers"
  | install .. => "install_server"
  | uninstall .. => "uninstall_server"
  | setEnabled .. => "set_server_enabled"
  | saveInputs .. => "save_server_inputs"
  | statuses _ => "get_server_statuses"
  | connection request .. => request.command

/-- The space that the call is about, if any. -/
def space? : Call → Option Uuid
  | catalogConfig | home | catalog | offline => none
  | installed space | install _ space | uninstall _ space | setEnabled _ _ space | saveInputs _ space _
  | statuses space | connection _ space _ => some space

/-- The arguments. -/
def args (call : Call) : Json :=
  .obj <| match call with
    | catalogConfig | home | catalog | offline => []
    | installed space | statuses space => [("spaceId", .str space.text)]
    | install server space | uninstall server space => [("id", .str server), ("spaceId", .str space.text)]
    | setEnabled server enabled space =>
      [("id", .str server), ("enabled", .bool enabled), ("spaceId", .str space.text)]
    | saveInputs server space inputs => [
        ("id", .str server), ("inputValues", .ofTexts inputs.values), ("spaceId", .str space.text),
        ("envOverrides", .optional .ofTexts inputs.envOverrides),
        ("argsAppend", .optional .ofTextList inputs.argsAppend),
        ("extraHeaders", .optional .ofTexts inputs.extraHeaders)]
    | connection _ space server => [("spaceId", .str space.text), ("serverId", .str server)]

end Call

end Switchboard.Backend
