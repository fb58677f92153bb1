import Switchboard.Settings.Access
import Switchboard.Turn

/-!
# Updates that are written through

An update changes the state at once and then stores the persisted part, key by key, if it changed. If an access fails
the change is taken back, unless the persisted part was changed again in the meantime.
-/

namespace Switchboard.Settings

/-- An update that is being stored. -/
structure Task where
  /-- The state before the update. -/
  previous : State
  /-- The persisted part after the update. -/
  after : Persisted
  /-- The access that is under way. -/
  access : Access
  /-- The accesses that are still to come. -/
  rest : List Access
  deriving DecidableEq, Repr

/-- A change that is not stored. -/
inductive Adjustment where
  | view (space : Option Uuid)
  | navigate (page : Page)
  deriving DecidableEq, Repr

/-- The state of the user interface with the updates in flight. -/
abbrev Store := Flight State Task

namespace State

/-- The first turn of an update. -/
def start (s : State) (change : Change) : Turn State Task :=
  let changed := s.apply change
  if changed.persisted = s.persisted then ⟨changed, .ends (.ok ()), []⟩
  else
    let (access, rest) := changed.persisted.accesses
    ⟨changed, .waits ⟨s, changed.persisted, access, rest⟩, []⟩

/-- Takes a change back, unless there was another. -/
def undo (s : State) (task : Task) : State := if s.persisted = task.after then s.rollBack task.previous else s

/-- The turn of an update when an access succeeded, or failed with a message. -/
def resume (s : State) (result : Except String Unit) (task : Task) : Turn State Task :=
  match result with
  | .error message => ⟨s.undo task, .ends (.error (.settings task.access.key message)), []⟩
  | .ok () =>
    match task.rest with
    | [] => ⟨s, .ends (.ok ()), []⟩
    | access :: rest => ⟨s, .waits { task with access := access, rest := rest }, []⟩

/-- Makes a change that is not stored. -/
def adjust (s : State) : Adjustment → State
  | .view space => s.view space
  | .navigate page => s.navigate page

end State

/-- How updates work. -/
def behaviour : Behaviour State Task Change (Except String Unit) Adjustment :=
  ⟨State.start, State.resume, State.adjust⟩

end Switchboard.Settings
