import Switchboard.Server.Auth
import Switchboard.Server.Transport

/-!
# Server definitions

A `Definition` is the catalog's description of a server that can be installed. Definitions come from outside as a
whole and are never changed here.
-/

namespace Switchboard

open Record (Decoder Shape Variant)

/-- Who publishes a server. -/
structure Publisher where
  name : String
  domain : Option String := none
  verified : Bool := false
  official : Bool := false
  deriving DecidableEq, Repr

namespace Publisher

def toJson (p : Publisher) : Json := .obj [
  ("name", .str p.name), ("domain", .optional .str p.domain), ("verified", .bool p.verified),
  ("official", .bool p.official)]

def shape : Shape Publisher :=
  mk <$> Shape.required "name" Record.text <*> Shape.optional "domain" Record.text
    <*> Shape.defaulted "verified" Record.bool false <*> Shape.defaulted "official" Record.bool false

def decode : Decoder Publisher := shape.decode "PublisherInfo"

end Publisher

/-- Where a definition comes from. -/
inductive Source where
  | userSpace (spaceId filePath : String)
  | bundled
  | registry (url name : String)
  deriving DecidableEq, Repr

namespace Source

def toJson : Source → Json
  | .userSpace spaceId filePath =>
    .obj [("type", .str "UserSpace"), ("space_id", .str spaceId), ("file_path", .str filePath)]
  | .bundled => .obj [("type", .str "Bundled")]
  | .registry url name => .obj [("type", .str "Registry"), ("url", .str url), ("name", .str name)]

/-- The variants by tag. -/
def variants : List (Variant Source) := [
  ⟨"UserSpace", "struct variant ServerSource::UserSpace",
    userSpace <$> Shape.required "space_id" Record.text <*> Shape.required "file_path" Record.path⟩,
  ⟨"Bundled", "", Shape.constant bundled⟩,
  ⟨"Registry", "struct variant ServerSource::Registry",
    registry <$> Shape.required "url" Record.text <*> Shape.required "name" Record.text⟩]

def decode : Decoder Source := Record.tagged "ServerSource" variants

end Source

/-- The catalog's description of a server. -/
structure Definition where
  id : String
  name : String
  description : Option String := none
  /-- A short name. -/
  shortName : Option String := none
  auth : Option Auth := none
  icon : Option String := none
  transport : Transport := .empty
  categories : List String := []
  publisher : Option Publisher := none
  source : Source := .bundled
  deriving DecidableEq

namespace Definition

/-! ## Properties -/

def requiresOauth (d : Definition) : Bool := d.auth == some .oauth

/-- The kind of authentication, `none` if the definition says nothing. -/
def authKind (d : Definition) : AuthKind :=
  match d.auth with
  | some a => a.kind
  | none => .none

/-- The inputs that the transport declares. -/
def inputs (d : Definition) : List Input := d.transport.metadata.inputs

/-- The inputs that must be filled in. -/
def requiredInputs (d : Definition) : List Input := d.inputs.filter Input.required

/-! ## Wire form -/

/-- The members of the wire form. -/
def members (d : Definition) : List (String × Json) := [
  ("id", .str d.id), ("name", .str d.name), ("description", .optional .str d.description),
  ("alias", .optional .str d.shortName), ("auth", .optional Auth.toJson d.auth), ("icon", .optional .str d.icon),
  ("transport", d.transport.toJson), ("categories", .ofTextList d.categories),
  ("publisher", .optional Publisher.toJson d.publisher), ("source", d.source.toJson)]

def toJson (d : Definition) : Json := .obj d.members

def shape : Shape Definition :=
  mk <$> Shape.required "id" Record.text <*> Shape.required "name" Record.text
    <*> Shape.optional "description" Record.text <*> Shape.optional "alias" Record.text
    <*> Shape.optional "auth" Auth.decode <*> Shape.optional "icon" Record.text
    <*> Shape.required "transport" Transport.decode
    <*> Shape.defaulted "categories" (Record.list Record.text) []
    <*> Shape.optional "publisher" Publisher.decode <*> Shape.defaulted "source" Source.decode .bundled

def decode : Decoder Definition := shape.decode "ServerDefinition"

end Definition

end Switchboard
