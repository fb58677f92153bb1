import Switchboard.Settings.State
import Switchboard.Json.Tree

/-!
# Settings in storage

Settings are stored as texts under keys. A value whose JSON form is a string is stored as that string, any other as
its JSON text; both are read from either form. `Persisted.accesses` are the accesses that store a persisted state, one
after the other; `Loading` reads it back, key by key.
-/

namespace Switchboard.Settings

open Record (Decoder)

/-- An access to the storage of settings. -/
inductive Access where
  | get (key : String)
  | set (key value : String)
  | delete (key : String)
  /-- All settings, by key. -/
  | list
  deriving DecidableEq, Repr

/-- What a successful access gives. -/
inductive Response where
  | value (value : Option String)
  | done
  | entries (entries : List (String × String))
  deriving DecidableEq, Repr

namespace Access

/-- The key that is accessed. -/
def key : Access → String
  | get key | set key _ | delete key => key
  | list => ""

/-- An access in words. -/
def describe : Access → String
  | get key => "get " ++ key
  | set key _ => "set " ++ key
  | delete key => "delete " ++ key
  | list => "list"

/-- What a successful access gives. -/
def response (data : KeyMap String) : Access → Response
  | get key => .value (data.get? key)
  | set .. | delete _ => .done
  | list => .entries data.entries

/-- What is stored after a successful access. -/
def update (data : KeyMap String) : Access → KeyMap String
  | set key value => data.insert key value
  | delete key => data.erase key
  | get _ | list => data

end Access

/-! ## Keys and values -/

def activeSpaceKey : String := "ui.active_space_id"

def themeKey : String := "ui.theme"

def sidebarKey : String := "ui.sidebar_collapsed"

/-- The stored text of a value. -/
def store : Json → String
  | .str s => s
  | v => v.compact

/-- The value of a stored text. -/
def parse? {α : Type} (decode : Decoder α) (stored : String) : Option α :=
  match (Json.read? stored).bind fun v => (decode v).toOption with
  | some a => some a
  | none => (decode (.str stored)).toOption

/-! ## Storing -/

/-- Stores the active space, or that there is none. -/
def storeSpace : Option Uuid → Access
  | some space => .set activeSpaceKey (store (.str space.text))
  | none => .delete activeSpaceKey

/-- The accesses that store a state, in order: the first and those after it. -/
def Persisted.accesses (p : Persisted) : Access × List Access :=
  (storeSpace p.activeSpace, [.set themeKey (store p.theme.toJson), .set sidebarKey (store (.bool p.sidebarCollapsed))])

/-! ## Loading -/

/-- The state of these stored texts; what is absent or makes no sense has its default. -/
def Persisted.ofStored (space theme sidebar : Option String) : Persisted where
  activeSpace := space.bind (parse? Record.uuid)
  theme := (theme.bind (parse? Theme.decode)).getD .system
  sidebarCollapsed := (sidebar.bind (parse? Record.bool)).getD false

/-- The state that is stored. -/
def Persisted.load (data : KeyMap String) : Persisted :=
  .ofStored (data.get? activeSpaceKey) (data.get? themeKey) (data.get? sidebarKey)

/-- How far loading has come: the texts that were read. -/
inductive Loading where
  | space
  | theme (space : Option String)
  | sidebar (space theme : Option String)
  deriving DecidableEq, Repr

/-- The access that comes next. -/
def Loading.access : Loading → Access
  | .space => .get activeSpaceKey
  | .theme _ => .get themeKey
  | .sidebar .. => .get sidebarKey

/-- Takes in a text that was read: there is more to read, or this is the state. -/
def Loading.next (text : Option String) : Loading → Loading ⊕ Persisted
  | .space => .inl (.theme text)
  | .theme first => .inl (.sidebar first text)
  | .sidebar first second => .inr (.ofStored first second text)

end Switchboard.Settings
