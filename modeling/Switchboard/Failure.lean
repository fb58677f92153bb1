import Switchboard.Backend.Reply

/-!
# Failures

Why an operation of the client failed, and what the user is told of it.
-/

namespace Switchboard

/-- Why an operation failed. -/
inductive Failure where
  /-- No space was chosen yet. -/
  | notAttached
  /-- The backend rejected a command. -/
  | command (name message : String)
  /-- The payload of an event is not of its type. -/
  | payload (channel : String) (fault : Record.Fault)
  /-- A setting could not be read or written. -/
  | settings (key message : String)
  | io (message : String)
  | json (message : String)
  deriving DecidableEq, Repr

namespace Failure

/-- The failure of a rejected command. -/
def rejected (command : String) (r : Backend.Rejection) : Failure := .command command r.message

/-- What the user is told. -/
def message : Failure → String
  | notAttached => "store is not attached to a space"
  | command name message => name ++ " failed: " ++ message
  | payload channel fault => "invalid payload on " ++ channel ++ ": " ++ fault.message
  | settings key message => "settings error for " ++ key ++ ": " ++ message
  | io message => "I/O error: " ++ message
  | json message => "JSON error: " ++ message

end Failure

/-! ## Messages of the file system -/

namespace FileMessage

def taken : String := "File exists (os error 17)"

def notFolder : String := "Not a directory (os error 20)"

def isFolder : String := "Is a directory (os error 21)"

end FileMessage

/-! ## Notes -/

/-- An outcome that the user is told about. -/
inductive Note where
  | success (text : String)
  | error (text : String)
  deriving DecidableEq, Repr

end Switchboard
