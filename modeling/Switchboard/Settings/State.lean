import Switchboard.Record.Decoder

/-!
# The state of the user interface

`Settings.State` is what the user interface shows as a whole: spaces, theme, side bar and page. Part of it, the
`Persisted` state, outlives the program; the rest starts from defaults, with the active space in view.
-/

namespace Switchboard.Settings

open Record (Decoder)

/-- The theme of the user interface. -/
inductive Theme where
  | light
  | dark
  | system
  deriving DecidableEq, Repr

namespace Theme

def name : Theme → String
  | light => "light"
  | dark => "dark"
  | system => "system"

/-- Every theme, as declared. -/
def all : List Theme := [light, dark, system]

def toJson (t : Theme) : Json := .str t.name

def decode : Decoder Theme := Record.oneOf (all.map fun t => (t.name, t)) none

end Theme

/-- The page of the user interface. -/
inductive Page where
  | dashboard
  | registry
  | servers
  | spaces
  | featureSets
  | clients
  | settings
  deriving DecidableEq, Repr

namespace Page

def name : Page → String
  | dashboard => "dashboard"
  | registry => "registry"
  | servers => "servers"
  | spaces => "spaces"
  | featureSets => "feature_sets"
  | clients => "clients"
  | settings => "settings"

/-- Every page, as declared. -/
def all : List Page := [dashboard, registry, servers, spaces, featureSets, clients, settings]

def toJson (p : Page) : Json := .str p.name

def decode : Decoder Page := Record.oneOf (all.map fun p => (p.name, p)) none

end Page

/-- What outlives the program. -/
structure Persisted where
  activeSpace : Option Uuid := none
  theme : Theme := .system
  sidebarCollapsed : Bool := false
  deriving DecidableEq, Repr

/-- What the user interface shows. -/
structure State where
  /-- The space that is used. -/
  activeSpace : Option Uuid := none
  /-- The space that is looked at. -/
  viewSpace : Option Uuid := none
  theme : Theme := .system
  sidebarCollapsed : Bool := false
  page : Page := .dashboard
  deriving DecidableEq, Repr

/-- The state at the start of the program. -/
def Persisted.state (p : Persisted) : State :=
  { activeSpace := p.activeSpace, viewSpace := p.activeSpace, theme := p.theme, sidebarCollapsed := p.sidebarCollapsed }

/-- A change of what outlives the program. -/
inductive Change where
  /-- The view follows the active space. -/
  | activeSpace (space : Option Uuid)
  | theme (theme : Theme)
  | sidebar (collapsed : Bool)
  | toggleSidebar
  deriving DecidableEq, Repr

namespace State

/-- The part that outlives the program. -/
def persisted (s : State) : Persisted := ⟨s.activeSpace, s.theme, s.sidebarCollapsed⟩

/-- Makes a change. -/
def apply (s : State) : Change → State
  | .activeSpace space => { s with activeSpace := space, viewSpace := space }
  | .theme theme => { s with theme := theme }
  | .sidebar collapsed => { s with sidebarCollapsed := collapsed }
  | .toggleSidebar => { s with sidebarCollapsed := !s.sidebarCollapsed }

/-- Looks at another space. -/
def view (s : State) (space : Option Uuid) : State := { s with viewSpace := space }

/-- Goes to a page. -/
def navigate (s : State) (page : Page) : State := { s with page := page }

/-- Goes back to an earlier state, but for the page. -/
def rollBack (s previous : State) : State := { previous with page := s.page }

end State

end Switchboard.Settings
