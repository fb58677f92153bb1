import Switchboard.Record.Shape

/-!
# Connection status

`Status` is what is known about the connection to a server; a `StatusRecord` is the backend's report of it, stamped
with the flow (the connection attempt) it belongs to.
-/

namespace Switchboard

open Record (Decoder Shape)

/-- The state of a connection. -/
inductive Status where
  | connected
  | disconnected
  | error
  | oauthRequired
  | connecting
  | refreshing
  | authenticating
  deriving DecidableEq, Repr

namespace Status

/-- The name of a status. -/
def name : Status → String
  | .connected => "connected"
  | .disconnected => "disconnected"
  | .error => "error"
  | .oauthRequired => "oauth_required"
  | .connecting => "connecting"
  | .refreshing => "refreshing"
  | .authenticating => "authenticating"

/-- Every status, as declared. -/
def all : List Status :=
  [.connected, .disconnected, .error, .oauthRequired, .connecting, .refreshing, .authenticating]

/-- Whether requests reach the server. -/
def isConnected : Status → Bool
  | .connected | .refreshing => true
  | _ => false

/-- Whether nothing is under way. -/
def isTerminal : Status → Bool
  | .connected | .disconnected | .error | .oauthRequired => true
  | _ => false

/-- Whether the user has to authenticate. -/
def needsAuth : Status → Bool
  | .oauthRequired | .authenticating => true
  | _ => false

def toJson (s : Status) : Json := .str s.name

def decode : Decoder Status := Record.oneOf (all.map fun s => (s.name, s)) none

end Status

/-- The status of one server as the backend reports it. -/
structure StatusRecord where
  serverId : String
  status : Status
  /-- The connection attempt the report belongs to; later attempts have larger numbers. -/
  flow : UInt64
  hasConnectedBefore : Bool := false
  message : Option String := none
  deriving DecidableEq, Repr

namespace StatusRecord

def toJson (r : StatusRecord) : Json := .obj [
  ("server_id", .str r.serverId), ("status", r.status.toJson), ("flow_id", .int r.flow.toNat),
  ("has_connected_before", .bool r.hasConnectedBefore), ("message", .optional .str r.message)]

def shape : Shape StatusRecord :=
  mk <$> Shape.required "server_id" Record.text <*> Shape.required "status" Status.decode
    <*> Shape.required "flow_id" Record.u64 <*> Shape.defaulted "has_connected_before" Record.bool false
    <*> Shape.optional "message" Record.text

def decode : Decoder StatusRecord := shape.decode "ServerStatusResponse"

end StatusRecord

end Switchboard
