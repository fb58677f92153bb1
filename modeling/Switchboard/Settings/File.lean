import Switchboard.Settings.Access
import Switchboard.Json.Text
import Switchboard.Failure

/-!
# Settings in a file

The settings are one JSON object in a file, in a folder that is made when it is needed. Every change writes the whole
object: the folder is made, a draft is written beside the file, and the draft takes the file's place. A step that
fails leaves the file as it was, and the change is not made.
-/

namespace Switchboard.Settings

/-- What is found at the path of the file. -/
inductive Entry where
  | absent
  | file (text : String)
  | folder
  deriving DecidableEq, Repr

/-- The folder of the file, as far as it matters. -/
inductive Disk where
  | absent
  /-- Another file stands where the folder should be. -/
  | blocked
  | folder (entry : Entry)
  deriving DecidableEq, Repr

/-- Why a step of writing the file fails, for the steps that do. -/
structure Obstacles where
  folder : Option String := none
  draft : Option String := none
  swap : Option String := none
  deriving DecidableEq, Repr

/-- Why the file could not be opened. -/
inductive OpenFault where
  | io (message : String)
  /-- The text is not an object of texts. -/
  | malformed
  deriving DecidableEq, Repr

namespace Disk

/-- What stands in the way of writing. -/
def obstacles : Disk → Obstacles
  | absent | folder .absent | folder (.file _) => {}
  | blocked => { folder := some FileMessage.taken }
  | folder .folder => { swap := some FileMessage.isFolder }

/-- The text of the file. -/
def text? : Disk → Option String
  | folder (.file text) => some text
  | _ => none

/-- With `text` in the file. -/
def put (text : String) : Disk := .folder (.file text)

/-- With the folder made. -/
def withFolder : Disk → Disk
  | absent => .folder .absent
  | d => d

/-- The settings of a text. -/
def parse (text : String) : Except OpenFault (KeyMap String) :=
  match Json.read? text with
  | none => .error .malformed
  | some v =>
    match Record.map Record.text v with
    | .ok data => .ok data
    | .error _ => .error .malformed

/-- The settings in the file; none if there is no file. -/
def load : Disk → Except OpenFault (KeyMap String)
  | absent | folder .absent => .ok .empty
  | blocked => .error (.io FileMessage.notFolder)
  | folder .folder => .error (.io FileMessage.isFolder)
  | folder (.file text) => parse text

/-- The text of the settings. -/
def render (data : KeyMap String) : String := (Json.ofTexts data).pretty

/-- Writes settings: the disk after that, and the message if a step failed. -/
def write (d : Disk) (obstacles : Obstacles) (data : KeyMap String) : Disk × Except String Unit :=
  match obstacles.folder with
  | some message => (d, .error message)
  | none =>
    match obstacles.draft, obstacles.swap with
    | some message, _ | none, some message => (d.withFolder, .error message)
    | none, none => (.put (render data), .ok ())

end Disk

/-- The settings of an opened file, and the disk that the file is on. -/
structure SettingsFile where
  data : KeyMap String
  disk : Disk
  deriving DecidableEq

namespace SettingsFile

/-- Writes changed settings; only if that succeeds they count. -/
def commit (f : SettingsFile) (obstacles : Obstacles) (data : KeyMap String) : SettingsFile × Except String Response :=
  match f.disk.write obstacles data with
  | (disk, .ok ()) => (⟨data, disk⟩, .ok .done)
  | (disk, .error message) => ({ f with disk := disk }, .error message)

/-- Carries out an access. Deleting a key that is absent writes nothing. -/
def access (f : SettingsFile) (obstacles : Obstacles) (a : Access) : SettingsFile × Except String Response :=
  match a with
  | .get _ | .list => (f, .ok (a.response f.data))
  | .set .. => f.commit obstacles (a.update f.data)
  | .delete key => if f.data.contains key then f.commit obstacles (a.update f.data) else (f, .ok .done)

end SettingsFile

end Switchboard.Settings
