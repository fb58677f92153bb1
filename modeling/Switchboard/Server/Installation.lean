import Switchboard.Server.Definition
import Switchboard.Json.Tree

/-!
# Installations

An `Installation` is the backend's record of a server installed in a space. It may carry the definition as it was at
the time of installation, as JSON text, to show the server while the catalog cannot be reached.
-/

namespace Switchboard

open Record (Decoder Shape Variant)

/-- How a server came to be installed. -/
inductive InstallationSource where
  | registry
  | userConfig (filePath : String)
  | manualEntry
  deriving DecidableEq, Repr

namespace InstallationSource

def toJson : InstallationSource → Json
  | .registry => .obj [("type", .str "registry")]
  | .userConfig filePath => .obj [("type", .str "user_config"), ("file_path", .str filePath)]
  | .manualEntry => .obj [("type", .str "manual_entry")]

/-- The variants by tag. -/
def variants : List (Variant InstallationSource) := [
  ⟨"registry", "", Shape.constant registry⟩,
  ⟨"user_config", "struct variant InstallationSource::UserConfig",
    userConfig <$> Shape.required "file_path" Record.path⟩,
  ⟨"manual_entry", "", Shape.constant manualEntry⟩]

def decode : Decoder InstallationSource := Record.tagged "InstallationSource" variants

end InstallationSource

/-- A server installed in a space. -/
structure Installation where
  id : Uuid
  spaceId : String
  serverId : String
  serverName : Option String := none
  /-- The definition at the time of installation, as JSON text. -/
  cachedDefinition : Option String := none
  /-- The values of the inputs, by input id. -/
  inputValues : KeyMap String := .empty
  enabled : Bool := false
  envOverrides : KeyMap String := .empty
  argsAppend : List String := []
  extraHeaders : KeyMap String := .empty
  oauthConnected : Bool := false
  source : InstallationSource := .registry
  createdAt : Instant
  updatedAt : Instant
  deriving DecidableEq

namespace Installation

/-! ## Making one -/

/-- A new installation: disabled and without inputs. -/
def create (id : Uuid) (now : Instant) (spaceId serverId : String) : Installation :=
  { id := id, spaceId := spaceId, serverId := serverId, createdAt := now, updatedAt := now }

/-- The same, with a definition's name and the definition itself as a snapshot. -/
def withDefinition (s : Installation) (d : Definition) : Installation :=
  { s with serverName := some d.name, cachedDefinition := some d.toJson.compact }

/-- The same, with one more input value. -/
def withInput (s : Installation) (key value : String) : Installation :=
  { s with inputValues := s.inputValues.insert key value }

/-! ## Properties -/

/-- The cached definition, if there is one: the definition, or none if its text is malformed. -/
def cached? (s : Installation) : Option (Option Definition) :=
  s.cachedDefinition.map fun t =>
    match Json.read? t with
    | some v => (Definition.decode v).toOption
    | none => none

/-- The cached definition, if it is there and well formed. -/
def definition? (s : Installation) : Option Definition := s.cached?.join

/-- The part of a text after its last slash. -/
def lastSegment (s : String) : String :=
  String.ofList (s.toList.reverse.takeWhile (· != '/')).reverse

/-- The name to show: the cached one, or else the last segment of the server's id. -/
def displayName (s : Installation) : String := s.serverName.getD (lastSegment s.serverId)

/-- Whether an input has a value that is not empty. -/
def hasInput (s : Installation) (inputId : String) : Bool :=
  match s.inputValues.get? inputId with
  | some v => !v.isEmpty
  | none => false

def isFromUserConfig (s : Installation) : Bool :=
  match s.source with
  | .userConfig _ => true
  | _ => false

/-! ## Wire form -/

def toJson (s : Installation) : Json := .obj [
  ("id", .str s.id.text), ("space_id", .str s.spaceId), ("server_id", .str s.serverId),
  ("server_name", .optional .str s.serverName), ("cached_definition", .optional .str s.cachedDefinition),
  ("input_values", .ofTexts s.inputValues), ("enabled", .bool s.enabled), ("env_overrides", .ofTexts s.envOverrides),
  ("args_append", .ofTextList s.argsAppend), ("extra_headers", .ofTexts s.extraHeaders),
  ("oauth_connected", .bool s.oauthConnected), ("source", s.source.toJson), ("created_at", .str s.createdAt.text),
  ("updated_at", .str s.updatedAt.text)]

def shape : Shape Installation :=
  mk <$> Shape.required "id" Record.uuid <*> Shape.required "space_id" Record.text
    <*> Shape.required "server_id" Record.text <*> Shape.optional "server_name" Record.text
    <*> Shape.optional "cached_definition" Record.text
    <*> Shape.defaulted "input_values" (Record.map Record.text) .empty
    <*> Shape.defaulted "enabled" Record.bool false
    <*> Shape.defaulted "env_overrides" (Record.map Record.text) .empty
    <*> Shape.defaulted "args_append" (Record.list Record.text) []
    <*> Shape.defaulted "extra_headers" (Record.map Record.text) .empty
    <*> Shape.defaulted "oauth_connected" Record.bool false
    <*> Shape.defaulted "source" InstallationSource.decode .registry
    <*> Shape.required "created_at" Record.instant <*> Shape.required "updated_at" Record.instant

def decode : Decoder Installation := shape.decode "InstalledServer"

end Installation

end Switchboard
