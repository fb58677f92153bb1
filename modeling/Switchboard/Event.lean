import Switchboard.Server.Status

/-!
# Events

The backend pushes events: a channel and a JSON payload. Four channels have typed payloads: a server's status changed,
the countdown of an authentication, the features found on a server, and a change of what is installed.
-/

namespace Switchboard

open Record (Decoder Shape)

/-- A pushed event. -/
structure Event where
  channel : String
  payload : Json

namespace Event

def toJson (e : Event) : Json := .obj [("channel", .str e.channel), ("payload", e.payload)]

def shape : Shape Event :=
  mk <$> Shape.required "channel" Record.text <*> Shape.required "payload" Record.anything

def decode : Decoder Event := shape.decode "UiEvent"

end Event

/-! ## Channels -/

namespace Channel

def statusChanged : String := "server-status-changed"
def authProgress : String := "server-auth-progress"
def featuresUpdated : String := "server-features-updated"
def serverChanged : String := "server-changed"

end Channel

/-! ## Payloads -/

/-- The status of a server changed. -/
structure StatusChanged where
  spaceId : Uuid
  serverId : String
  status : Status
  /-- The connection attempt the status belongs to. -/
  flow : UInt64
  hasConnectedBefore : Bool := false
  message : Option String := none
  deriving DecidableEq, Repr

namespace StatusChanged

/-- The record that the event reports. -/
def record (p : StatusChanged) : StatusRecord :=
  ⟨p.serverId, p.status, p.flow, p.hasConnectedBefore, p.message⟩

/-- The members that are always written. -/
def members (p : StatusChanged) : List (String × Json) := [
  ("space_id", .str p.spaceId.text), ("server_id", .str p.serverId), ("status", p.status.toJson),
  ("flow_id", .int p.flow.toNat), ("has_connected_before", .bool p.hasConnectedBefore)]

/-- The message is written only if there is one. -/
def toJson (p : StatusChanged) : Json :=
  .obj (p.members ++ match p.message with
    | some m => [("message", .str m)]
    | none => [])

/-- The event of a status change on a channel of choice; without a message none is written. -/
def eventOn (channel : String) (p : StatusChanged) : Event := ⟨channel, p.toJson⟩

/-- The event of a status change; its message is always written. -/
def event (p : StatusChanged) : Event :=
  ⟨Channel.statusChanged, .obj (p.members ++ [("message", .optional .str p.message)])⟩

def shape : Shape StatusChanged :=
  mk <$> Shape.required "space_id" Record.uuid <*> Shape.required "server_id" Record.text
    <*> Shape.required "status" Status.decode <*> Shape.required "flow_id" Record.u64
    <*> Shape.defaulted "has_connected_before" Record.bool false <*> Shape.optional "message" Record.text

def decode : Decoder StatusChanged := shape.decode "ServerStatusChangedPayload"

end StatusChanged

/-- The time left to authenticate. -/
structure AuthProgress where
  spaceId : Uuid
  serverId : String
  remaining : UInt64
  flow : UInt64
  deriving DecidableEq, Repr

namespace AuthProgress

def toJson (p : AuthProgress) : Json := .obj [
  ("space_id", .str p.spaceId.text), ("server_id", .str p.serverId), ("remaining_seconds", .int p.remaining.toNat),
  ("flow_id", .int p.flow.toNat)]

/-- The event of a tick of the countdown. -/
def event (p : AuthProgress) : Event := ⟨Channel.authProgress, p.toJson⟩

def shape : Shape AuthProgress :=
  mk <$> Shape.required "space_id" Record.uuid <*> Shape.required "server_id" Record.text
    <*> Shape.required "remaining_seconds" Record.u64 <*> Shape.required "flow_id" Record.u64

def decode : Decoder AuthProgress := shape.decode "ServerAuthProgressPayload"

end AuthProgress

/-- The features found on a server. -/
structure Features where
  spaceId : Uuid
  serverId : String
  tools : List String := []
  prompts : List String := []
  resources : List String := []
  added : List String := []
  removed : List String := []
  deriving DecidableEq, Repr

namespace Features

/-- How many features there are. -/
def total (p : Features) : Nat := p.tools.length + p.prompts.length + p.resources.length

def toJson (p : Features) : Json := .obj [
  ("space_id", .str p.spaceId.text), ("server_id", .str p.serverId), ("tools", .ofTextList p.tools),
  ("prompts", .ofTextList p.prompts), ("resources", .ofTextList p.resources), ("added", .ofTextList p.added),
  ("removed", .ofTextList p.removed)]

/-- The event of newly found features. -/
def event (p : Features) : Event := ⟨Channel.featuresUpdated, p.toJson⟩

def shape : Shape Features :=
  mk <$> Shape.required "space_id" Record.uuid <*> Shape.required "server_id" Record.text
    <*> Shape.defaulted "tools" (Record.list Record.text) [] <*> Shape.defaulted "prompts" (Record.list Record.text) []
    <*> Shape.defaulted "resources" (Record.list Record.text) []
    <*> Shape.defaulted "added" (Record.list Record.text) [] <*> Shape.defaulted "removed" (Record.list Record.text) []

def decode : Decoder Features := shape.decode "ServerFeaturesUpdatedPayload"

end Features

/-- What happened to an installation. -/
inductive Change where
  | installed
  | uninstalled
  | configUpdated
  | enabled
  | disabled
  deriving DecidableEq, Repr

namespace Change

def name : Change → String
  | .installed => "installed"
  | .uninstalled => "uninstalled"
  | .configUpdated => "config_updated"
  | .enabled => "enabled"
  | .disabled => "disabled"

/-- Every change, as declared. -/
def all : List Change := [.installed, .uninstalled, .configUpdated, .enabled, .disabled]

def toJson (c : Change) : Json := .str c.name

def decode : Decoder Change := Record.oneOf (all.map fun c => (c.name, c)) none

end Change

/-- An installation changed. -/
structure ServerChanged where
  change : Change
  spaceId : Uuid
  serverId : String
  serverName : Option String := none
  deriving DecidableEq, Repr

namespace ServerChanged

/-- The name is written only if there is one. -/
def toJson (p : ServerChanged) : Json :=
  .obj ([("action", p.change.toJson), ("space_id", .str p.spaceId.text), ("server_id", .str p.serverId)]
    ++ match p.serverName with
      | some n => [("server_name", .str n)]
      | none => [])

/-- The event of a changed installation. -/
def event (p : ServerChanged) : Event := ⟨Channel.serverChanged, p.toJson⟩

def shape : Shape ServerChanged :=
  mk <$> Shape.required "action" Change.decode <*> Shape.required "space_id" Record.uuid
    <*> Shape.required "server_id" Record.text <*> Shape.optional "server_name" Record.text

def decode : Decoder ServerChanged := shape.decode "ServerChangedPayload"

end ServerChanged

end Switchboard
