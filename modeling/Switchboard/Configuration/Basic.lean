import Switchboard.Configuration.EnvFile
import Switchboard.Configuration.LogFilter
import Switchboard.Failure

/-!
# Configuration

Where the client keeps its files, what it logs and how much room its bus has. Each can be set by a variable of the
environment; a value that is blank or makes no sense is passed over.
-/

namespace Switchboard

/-- The configuration of the client. -/
structure Configuration where
  dataFolder : String
  logsFolder : String
  settingsFile : String
  logFilter : String
  /-- How many events the bus has room for. -/
  eventCapacity : UInt64
  deriving DecidableEq, Repr

namespace Configuration

/-- The log filter if nothing else is set. -/
def defaultLogFilter : String := "info,mcpmux_client=debug,mcpmux_core=debug"

/-- The room of the bus if nothing else is set. -/
def defaultCapacity : UInt64 := 256

/-- The name of the client's folder in the folder for local data. -/
def folderName : String := "com.mcpmux.desktop"

/-- A path inside a folder. -/
def inside (folder name : String) : String :=
  if folder.isEmpty || folder.endsWith "/" then folder ++ name else folder ++ "/" ++ name

/-- The configuration with its files in a folder. -/
def ofFolder (folder : String) : Configuration where
  dataFolder := folder
  logsFolder := inside folder "logs"
  settingsFile := inside folder "client-settings.json"
  logFilter := defaultLogFilter
  eventCapacity := defaultCapacity

/-- The capacity that a text gives: a positive number of 64 bits. -/
def capacity? (text : String) : Option UInt64 :=
  match Text.natural? UInt64.size (Text.trim text) with
  | some 0 | none => none
  | some n => some (UInt64.ofNat n)

/-- The configuration of an environment; `localData` is the folder for local data. -/
def ofEnvironment (localData : String) (lookup : String → Option String) : Configuration :=
  let folder := ((lookup "MCPMUX_DATA_DIR").filter Text.hasInk).getD (inside localData folderName)
  { ofFolder folder with
    logFilter := ((lookup "MCPMUX_LOG").filter Text.hasInk).getD defaultLogFilter
    eventCapacity := ((lookup "MCPMUX_EVENT_CAPACITY").bind capacity?).getD defaultCapacity }

/-- The directives by which messages are logged. -/
def logDirectives (c : Configuration) (override : Option String) : List String :=
  LogFilter.inForce (LogFilter.choose override c.logFilter defaultLogFilter)

/-- Makes the folder for logs; `blocked` says whether the data folder is a file. -/
def makeLogsFolder (blocked : Bool) : Except Failure Unit :=
  if blocked then .error (.io FileMessage.notFolder) else .ok ()

end Configuration

end Switchboard
