import Switchboard.Settings.File
import Switchboard.Settings.Memory
import Switchboard.Settings.Store

/-!
# Rehearsing the settings

A rehearsal of the settings runs stores, command by command, over settings in memory, where accesses can be made to
fail or to wait, or in a file, where the file and its folder can be put in the way. The operations of a store that was
given up for another go on.
-/

namespace Switchboard.Settings

/-- What goes on when an access has a result. -/
inductive Job where
  /-- The result is all that was asked for. -/
  | access
  /-- A new store is being loaded. -/
  | restore (loading : Loading)
  /-- An operation of a store is being stored. -/
  | update (store operation : Nat)
  deriving DecidableEq, Repr

/-- Who made an access: the number of a command, and what it is for. -/
abbrev Caller := Nat × Job

/-- Where the settings are. -/
inductive Repository where
  | memory (memory : Memory Caller) (opened : Bool)
  | file (disk : Disk) (opened : Option (KeyMap String))

namespace Repository

/-- Whether the settings were opened. -/
def isOpen : Repository → Bool
  | memory _ opened => opened
  | file _ opened => opened.isSome

/-- An access arrives: it is held back, or it has a result. -/
def arrive (r : Repository) (caller : Caller) (a : Access) : Repository × Option (Except String Response) :=
  match r with
  | memory m opened =>
    let (m, result) := m.arrive caller a
    (.memory m opened, result)
  | file disk (some data) =>
    let (f, result) := SettingsFile.access ⟨data, disk⟩ disk.obstacles a
    (.file f.disk (some f.data), some result)
  | file disk none => (.file disk none, none)

/-- Lets the oldest access go that is held under these words. -/
def release (r : Repository) (words : String) : Option (Repository × Caller × Except String Response) :=
  match r with
  | memory m opened => (m.release words).map fun (m, rest) => (.memory m opened, rest)
  | file .. => none

/-- Changes settings in memory. -/
def changeMemory (r : Repository) (change : Memory Caller → Memory Caller) : Repository :=
  match r with
  | memory m opened => .memory (change m) opened
  | file disk opened => .file disk opened

/-- Changes the disk. -/
def changeDisk (r : Repository) (change : Disk → Disk) : Repository :=
  match r with
  | memory m opened => .memory m opened
  | file disk opened => .file (change disk) opened

end Repository

/-- A command. -/
inductive Command where
  | openRepository
  /-- Loads a new store. -/
  | restore
  | access (access : Access)
  /-- Lets the accesses of these words fail. -/
  | fail (words message : String)
  | unfail (words : String)
  | gate (words : String)
  | release (words : String)
  | writeFile (text : String)
  /-- Puts a file in the place of the folder. -/
  | block
  /-- Removes that file. -/
  | unblock
  /-- Puts a folder in the place of the file. -/
  | makeFolder
  | update (change : Change)
  /-- Makes a change that is not stored. -/
  | adjust (adjustment : Adjustment)

/-- How a command went. -/
inductive Answer where
  | nothing
  | flag (value : Bool)
  /-- The settings were opened, or not. -/
  | opened (fault : Option OpenFault)
  | response (response : Except String Response)
  | outcome (outcome : Except Failure Unit)
  /-- The operation is still in flight. -/
  | pending
  | noRepository
  | noStore

/-- A rehearsal of the settings. -/
structure Rehearsal where
  repository : Repository
  /-- The stores so far. -/
  stores : List Store := []
  /-- The store in use. -/
  current : Option Nat := none
  /-- How many commands there were. -/
  commands : Nat := 0
  /-- The operations that ended since the last report, by the number of the command. -/
  completed : List (Nat × Answer) := []

namespace Rehearsal

/-! ## Operations -/

/-- Ends the operation of a command. -/
def complete (r : Rehearsal) (command : Nat) (answer : Answer) : Rehearsal :=
  { r with completed := r.completed ++ [(command, answer)] }

/-- An operation of a store takes a turn: it is over, or there is an access to make. -/
def turn (r : Rehearsal) (command store operation : Nat) (flight : Store)
    (o : Occurrence Change (Except String Unit) Adjustment) : Rehearsal × Option (Job × Access) :=
  let (flight, turn) := flight.take behaviour o
  let r := { r with stores := r.stores.set store flight }
  match turn.map Turn.next with
  | none => (r, none)
  | some (.waits task) => (r, some (.update store operation, task.access))
  | some (.ends outcome) => (r.complete command (.outcome outcome), none)

/-- The result of an access without what it gives. -/
def bare (result : Except String Response) : Except String Unit := result.map fun _ => ()

/-- The text that an access gave, if it gave one. -/
def textOf : Except String Response → Option String
  | .ok (.value v) => v
  | _ => none

/-- Goes on with a job when its access has a result: it is over, or there is another access to make. -/
def proceed (r : Rehearsal) (command : Nat) (job : Job) (result : Except String Response) :
    Rehearsal × Option (Job × Access) :=
  match job with
  | .access => (r.complete command (.response result), none)
  | .restore loading =>
    match loading.next (textOf result) with
    | .inl loading => (r, some (.restore loading, loading.access))
    | .inr persisted =>
      let store : Store := { state := persisted.state }
      ({ r with stores := r.stores ++ [store], current := some r.stores.length }.complete command .nothing, none)
  | .update store operation =>
    match r.stores[store]? with
    | none => (r, none)
    | some flight => r.turn command store operation flight (.reply operation (bare result))

/-- Makes accesses for a command, at most `limit` of them, until one is held back or there are no more. -/
def submit : Nat → Rehearsal → Nat → Option (Job × Access) → Rehearsal
  | 0, r, _, _ => r
  | _, r, _, none => r
  | limit + 1, r, command, some (job, access) =>
    match r.repository.arrive (command, job) access with
    | (repository, none) => { r with repository := repository }
    | (repository, some result) =>
      let (r, next) := { r with repository := repository }.proceed command job result
      submit limit r command next

/-! ## Commands -/

/-- Opens the settings anew; when that fails, none are open. -/
def openRepository (r : Rehearsal) : Rehearsal × Answer :=
  let r := { r with current := none }
  match r.repository with
  | .memory m _ => ({ r with repository := .memory m true }, .nothing)
  | .file disk _ =>
    match disk.load with
    | .ok data => ({ r with repository := .file disk (some data) }, .opened none)
    | .error fault => ({ r with repository := .file disk none }, .opened (some fault))

/-- Starts an update of the store in use. -/
def update (limit : Nat) (r : Rehearsal) (store : Nat) (flight : Store) (change : Change) : Rehearsal :=
  let (r, next) := r.turn r.commands store flight.started flight (.start change)
  submit limit r r.commands next

/-- Carries out a command that is for the store in use. -/
def withStore (r : Rehearsal) (go : Nat → Store → Rehearsal × Answer) : Rehearsal × Answer :=
  if r.repository.isOpen then
    match r.current.bind fun i => r.stores[i]?.map fun s => (i, s) with
    | some (i, s) => go i s
    | none => (r, .noStore)
  else (r, .noRepository)

/-- Carries out a command; an operation goes on until an access is held back. -/
def carryOut (limit : Nat) (r : Rehearsal) : Command → Rehearsal × Answer
  | .openRepository => r.openRepository
  | .restore =>
    if r.repository.isOpen then
      (submit limit r r.commands (some (.restore .space, Loading.space.access)), .pending)
    else (r, .noRepository)
  | .access a =>
    if r.repository.isOpen then (submit limit r r.commands (some (.access, a)), .pending) else (r, .noRepository)
  | .fail words message =>
    let change (m : Memory Caller) := { m with failures := m.failures.insert words message }
    ({ r with repository := r.repository.changeMemory change }, .nothing)
  | .unfail words =>
    let known := match r.repository with
      | .memory m _ => m.failures.contains words
      | .file .. => false
    let change (m : Memory Caller) := { m with failures := m.failures.erase words }
    ({ r with repository := r.repository.changeMemory change }, .flag known)
  | .gate words => ({ r with repository := r.repository.changeMemory fun m => m.addGate words }, .nothing)
  | .release words =>
    match r.repository.release words with
    | none => (r, .flag false)
    | some (repository, (command, job), result) =>
      let (r, next) := { r with repository := repository }.proceed command job result
      (submit limit r command next, .flag true)
  | .writeFile text => ({ r with repository := r.repository.changeDisk fun _ => .put text }, .nothing)
  | .block => ({ r with repository := r.repository.changeDisk fun _ => .blocked }, .nothing)
  | .unblock => ({ r with repository := r.repository.changeDisk fun _ => .absent }, .nothing)
  | .makeFolder => ({ r with repository := r.repository.changeDisk fun _ => .folder .folder }, .nothing)
  | .update change => r.withStore fun i s => (update limit r i s change, .pending)
  | .adjust a => r.withStore fun i s => ({ r with stores := r.stores.set i (s.after behaviour (.adjust a)) }, .nothing)

/-- How a command went, and the commands before it that were completed. -/
structure Report where
  answer : Answer
  /-- The accesses since the report before, in words. -/
  log : List String
  completed : List (Nat × Answer)

/-- The accesses in the log. -/
def log : Repository → List String
  | .memory m _ => m.log
  | .file .. => []

/-- Runs a command. An operation makes at most `limit` accesses in one go. -/
def run (limit : Nat) (r : Rehearsal) (command : Command) : Rehearsal × Report :=
  let (r, answer) := r.carryOut limit command
  let own := r.completed.find? fun c => c.1 == r.commands
  let earlier := r.completed.filter fun c => c.1 != r.commands
  ({ r with
      commands := r.commands + 1
      completed := []
      repository := r.repository.changeMemory fun m => { m with log := [] } },
    ⟨(own.map Prod.snd).getD answer, log r.repository, earlier.mergeSort fun a b => a.1 ≤ b.1⟩)

/-- Passes over a command that makes no sense. -/
def skip (r : Rehearsal) : Rehearsal := { r with commands := r.commands + 1 }

/-- The state of the store in use. -/
def state? (r : Rehearsal) : Option State := (r.current.bind fun i => r.stores[i]?).map Flight.state

end Rehearsal

end Switchboard.Settings
