import Switchboard.Catalog.Row

/-!
# The action of a row

Which control a row offers first. A disabled server offers to be enabled whatever else is known, one with a required
input missing offers to be configured, and otherwise the status decides; servers that do not use OAuth look after
their connection themselves.
-/

namespace Switchboard.Catalog

/-- The control that a row offers. -/
inductive Action where
  | enable
  | configure
  | connecting
  | authenticating
  | authRequired
  | running
  | error
  | connectedAuto
  deriving DecidableEq, Repr

namespace Action

/-- The name of an action. -/
def name : Action → String
  | .enable => "enable"
  | .configure => "configure"
  | .connecting => "connecting"
  | .authenticating => "authenticating"
  | .authRequired => "auth_required"
  | .running => "running"
  | .error => "error"
  | .connectedAuto => "connected_auto"

/-- The action of an enabled and configured server. -/
def ofStatus (oauth : Bool) : Status → Action
  | .connecting => .connecting
  | .authenticating => .authenticating
  | .oauthRequired => .authRequired
  | .error => .error
  | .connected | .refreshing => if oauth then .running else .connectedAuto
  | .disconnected => if oauth then .authRequired else .connectedAuto

/-- The action that flags, authentication and status call for. -/
def derive (enabled missing : Bool) (auth : Option Auth) (status : Status) : Action :=
  if !enabled then .enable
  else if missing then .configure
  else ofStatus (auth == some .oauth) status

end Action

/-- The action of a row; a reported status replaces the row's own. -/
def Row.action (r : Row) (reported : Option Status) : Action :=
  .derive r.enabled r.missingRequiredInputs r.definition.auth (reported.getD r.status)

/-- The label of the control that connects. -/
def connectLabel (hasConnectedBefore : Bool) : String := if hasConnectedBefore then "Reconnect" else "Connect"

/-- The text of the authentication countdown. -/
def countdown (seconds : UInt64) : String :=
  "Authenticating… (" ++ toString (seconds.toNat / 60) ++ "m " ++ toString (seconds.toNat % 60) ++ "s remaining)"

end Switchboard.Catalog
