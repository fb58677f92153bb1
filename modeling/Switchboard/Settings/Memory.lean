import Switchboard.Settings.Access

/-!
# Settings in memory, by script

A `Memory` keeps settings for a rehearsal. It logs accesses to a key, and by script lets some of them fail or holds
them back. Whether an access fails is fixed when it arrives; an access that is held acts when it is released.
-/

namespace Switchboard.Settings

/-- An access that is held back: who made it, and the message if it will fail. -/
structure Held (Caller : Type) where
  caller : Caller
  access : Access
  failure : Option String

/-- Settings in memory, and the script. -/
structure Memory (Caller : Type) where
  data : KeyMap String
  /-- The accesses so far, in words. -/
  log : List String := []
  /-- The message with which an access fails, by the access in words. -/
  failures : KeyMap String := .empty
  /-- How many accesses are still to be held back, by the access in words. -/
  gates : KeyMap Nat := .empty
  /-- The accesses that are held back, the oldest first. -/
  held : List (Held Caller) := []

namespace Memory

variable {Caller : Type}

/-- An access acts, unless it fails. -/
def act (m : Memory Caller) (a : Access) (failure : Option String) : Memory Caller × Except String Response :=
  match failure with
  | some message => (m, .error message)
  | none => ({ m with data := a.update m.data }, .ok (a.response m.data))

/-- Whether an access is scripted and logged; listing is not. -/
def isLogged : Access → Bool
  | .list => false
  | _ => true

/-- An access arrives: it is held back, or it has a result. -/
def arrive (m : Memory Caller) (caller : Caller) (a : Access) : Memory Caller × Option (Except String Response) :=
  if isLogged a then
    let m := { m with log := m.log ++ [a.describe] }
    let failure := m.failures.get? a.describe
    match (m.gates.get? a.describe).getD 0 with
    | 0 =>
      let (m, result) := m.act a failure
      (m, some result)
    | n + 1 => ({ m with gates := m.gates.insert a.describe n, held := m.held ++ [⟨caller, a, failure⟩] }, none)
  else
    let (m, result) := m.act a none
    (m, some result)

/-- Holds one more access back. -/
def addGate (m : Memory Caller) (words : String) : Memory Caller :=
  { m with gates := m.gates.insert words ((m.gates.get? words).getD 0 + 1) }

/-- Lets the oldest access go that is held under these words. -/
def release (m : Memory Caller) (words : String) : Option (Memory Caller × Caller × Except String Response) :=
  match m.held.find? fun h => h.access.describe == words with
  | none => none
  | some h =>
    let (m, result) := { m with held := m.held.eraseP fun h => h.access.describe == words }.act h.access h.failure
    some (m, h.caller, result)

end Memory

end Switchboard.Settings
