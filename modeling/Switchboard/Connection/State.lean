import Switchboard.Event

/-!
# The state of connections

`Connection.State` is what is known of the servers of one space, the space it is bound to: the latest status record of
each, the time left to authenticate, the features found, and which requests are under way. It is fed by events and by
one snapshot.

A status event counts only if it is about the bound space and its flow is not older than the stored one. In the
snapshot an entry counts unless the stored record is of a newer flow. In either case a server that was connected once
stays so. While the snapshot is awaited the records are kept but not shown.
-/

namespace Switchboard.Connection

/-- What is known of the connections of one space. -/
structure State where
  /-- The bound space. -/
  space : Option Uuid := none
  /-- How many bindings there were; a snapshot counts for the binding that asked for it. They are assumed to be fewer
  than 2 ^ 64, so that a number of 64 bits would count them too. -/
  binding : Nat := 0
  records : KeyMap StatusRecord := .empty
  /-- Seconds left to authenticate. -/
  remaining : KeyMap UInt64 := .empty
  features : KeyMap Features := .empty
  /-- The servers whose features are unfolded. -/
  expanded : KeySet := .empty
  /-- The servers with a request under way. -/
  pending : KeySet := .empty
  /-- Whether the snapshot is awaited. -/
  loading : Bool := false
  error : Option String := none
  deriving DecidableEq

/-- A record that remembers an earlier connection. -/
def remember (connectedBefore : Bool) (r : StatusRecord) : StatusRecord :=
  { r with hasConnectedBefore := r.hasConnectedBefore || connectedBefore }

/-- Whether the server of an earlier record, if there is one, was connected before. -/
def wasConnected (earlier : Option StatusRecord) : Bool := earlier.any StatusRecord.hasConnectedBefore

namespace State

/-! ## Binding -/

/-- Bound to `space`, with nothing known yet. -/
def bound (space : Uuid) : State := { space := some space }

/-- A new binding to `space`, which awaits its snapshot. -/
def bind (s : State) (space : Uuid) : State := { bound space with binding := s.binding + 1, loading := true }

/-- No binding. -/
def unbind (s : State) : State := { binding := s.binding + 1 }

/-- Whether `space` is the bound one. -/
def isBoundTo (s : State) (space : Uuid) : Bool := s.space == some space

/-! ## Events -/

/-- Whether a status event counts. -/
def accepts (s : State) (e : StatusChanged) : Bool :=
  s.isBoundTo e.spaceId && (s.records.get? e.serverId).all fun r => r.flow ≤ e.flow

/-- Takes in a status event. -/
def acceptStatus (s : State) (e : StatusChanged) : State :=
  if s.accepts e then
    { s with
      records := s.records.insert e.serverId (remember (wasConnected (s.records.get? e.serverId)) e.record)
      remaining := if e.status = .authenticating then s.remaining else s.remaining.erase e.serverId }
  else s

/-- Takes in the time left to authenticate. -/
def acceptProgress (s : State) (e : AuthProgress) : State :=
  if s.isBoundTo e.spaceId then { s with remaining := s.remaining.insert e.serverId e.remaining } else s

/-- Takes in the features found, and unfolds them. -/
def acceptFeatures (s : State) (e : Features) : State :=
  if s.isBoundTo e.spaceId then
    { s with expanded := s.expanded.add e.serverId, features := s.features.insert e.serverId e }
  else s

/-! ## The snapshot -/

/-- The record of a server after the snapshot gave `found` for it. -/
def mergeRecord (stored : Option StatusRecord) (found : StatusRecord) : StatusRecord :=
  match stored with
  | some current => if found.flow < current.flow then remember found.hasConnectedBefore current
    else remember current.hasConnectedBefore found
  | none => found

/-- Takes in one entry of the snapshot. -/
def mergeEntry (records : KeyMap StatusRecord) (entry : String × StatusRecord) : KeyMap StatusRecord :=
  records.insert entry.1 (mergeRecord (records.get? entry.1) entry.2)

/-- Takes in the snapshot. -/
def applySnapshot (s : State) (snapshot : KeyMap StatusRecord) : State :=
  { s with records := snapshot.entries.foldl mergeEntry s.records }

/-! ## What is shown -/

/-- The records, unless the snapshot is awaited. -/
def visible? (s : State) : Option (KeyMap StatusRecord) := if s.loading then none else some s.records

/-- The records shown; none while the snapshot is awaited. -/
def snapshot (s : State) : KeyMap StatusRecord := s.visible?.getD .empty

/-- The record shown of a server. -/
def record? (s : State) (server : String) : Option StatusRecord := s.snapshot.get? server

/-- The status shown of a server. -/
def status? (s : State) (server : String) : Option Status := (s.record? server).map StatusRecord.status

/-- Whether a server is shown as connected before. -/
def hasConnectedBefore (s : State) (server : String) : Bool := wasConnected (s.record? server)

/-! ## The user's changes -/

/-- Folds the features of a server. -/
def collapse (s : State) (server : String) : State := { s with expanded := s.expanded.erase server }

def dismissError (s : State) : State := { s with error := none }

end State

end Switchboard.Connection
