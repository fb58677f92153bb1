import Switchboard.Record.Shape

/-!
# Transports

A server is reached by running a command or over HTTP. Either way the transport declares the inputs that the user may
fill in, some of them required.
-/

namespace Switchboard

open Record (Decoder Shape Variant)

/-- A value the user is asked for. -/
structure Input where
  id : String
  label : String
  /-- The kind of field it is entered in. -/
  kind : String := "text"
  required : Bool := false
  secret : Bool := false
  description : Option String := none
  placeholder : Option String := none
  obtainUrl : Option String := none
  obtainInstructions : Option String := none
  deriving DecidableEq, Repr

namespace Input

/-- The same input, required. -/
def asRequired (i : Input) : Input := { i with required := true }

/-- The same input, secret; it is entered as a password. -/
def asSecret (i : Input) : Input := { i with secret := true, kind := "password" }

def toJson (i : Input) : Json := .obj [
  ("id", .str i.id), ("label", .str i.label), ("type", .str i.kind), ("required", .bool i.required),
  ("secret", .bool i.secret), ("description", .optional .str i.description),
  ("placeholder", .optional .str i.placeholder), ("obtain_url", .optional .str i.obtainUrl),
  ("obtain_instructions", .optional .str i.obtainInstructions)]

def shape : Shape Input :=
  Input.mk <$> Shape.required "id" Record.text <*> Shape.required "label" Record.text
    <*> Shape.defaulted "type" Record.text "text" <*> Shape.defaulted "required" Record.bool false
    <*> Shape.defaulted "secret" Record.bool false <*> Shape.optional "description" Record.text
    <*> Shape.optional "placeholder" Record.text <*> Shape.optional "obtain_url" Record.text
    <*> Shape.optional "obtain_instructions" Record.text

/-- What an input is called in faults. -/
def recordName : String := "InputDefinition"

def decode : Decoder Input := shape.decode recordName

/-- Reads an input inside a tagged record. -/
def decodeWithin : Decoder Input := shape.decodeWithin recordName

end Input

/-- What a transport declares about itself. -/
structure TransportMetadata where
  inputs : List Input := []
  deriving DecidableEq, Repr

namespace TransportMetadata

def toJson (m : TransportMetadata) : Json := .obj [("inputs", .arr (m.inputs.map Input.toJson))]

def shape (input : Decoder Input) : Shape TransportMetadata := mk <$> Shape.defaulted "inputs" (Record.list input) []

/-- What the declarations are called in faults. -/
def recordName : String := "TransportMetadata"

def decode : Decoder TransportMetadata := (shape Input.decode).decode recordName

/-- Reads declarations inside a tagged record. -/
def decodeWithin : Decoder TransportMetadata := (shape Input.decodeWithin).decodeWithin recordName

end TransportMetadata

/-- The kind of a transport. -/
inductive TransportKind where
  | stdio
  | http
  deriving DecidableEq, Repr

namespace TransportKind

/-- The name of a kind. -/
def name : TransportKind → String
  | .stdio => "stdio"
  | .http => "http"

def toJson (k : TransportKind) : Json := .str k.name

def decode : Decoder TransportKind := Record.oneOf [("stdio", .stdio), ("http", .http)] none

end TransportKind

/-- How a server is reached. -/
inductive Transport where
  | stdio (command : String) (args : List String) (env : KeyMap String) (metadata : TransportMetadata)
  | http (url : String) (headers : KeyMap String) (metadata : TransportMetadata)
  deriving DecidableEq

namespace Transport

/-- No command and no inputs. -/
def empty : Transport := .stdio "" [] .empty {}

def kind : Transport → TransportKind
  | .stdio .. => .stdio
  | .http .. => .http

def metadata : Transport → TransportMetadata
  | .stdio _ _ _ m | .http _ _ m => m

def toJson : Transport → Json
  | .stdio command args env metadata => .obj [
      ("type", .str "stdio"), ("command", .str command), ("args", .ofTextList args), ("env", .ofTexts env),
      ("metadata", metadata.toJson)]
  | .http url headers metadata => .obj [
      ("type", .str "http"), ("url", .str url), ("headers", .ofTexts headers), ("metadata", metadata.toJson)]

/-- The variants by tag. -/
def variants : List (Variant Transport) := [
  ⟨"stdio", "struct variant TransportConfig::Stdio",
    stdio <$> Shape.required "command" Record.text <*> Shape.defaulted "args" (Record.list Record.text) []
      <*> Shape.defaulted "env" (Record.map Record.text) .empty
      <*> Shape.defaulted "metadata" TransportMetadata.decodeWithin {}⟩,
  ⟨"http", "struct variant TransportConfig::Http",
    http <$> Shape.required "url" Record.text <*> Shape.defaulted "headers" (Record.map Record.text) .empty
      <*> Shape.defaulted "metadata" TransportMetadata.decodeWithin {}⟩]

def decode : Decoder Transport := Record.tagged "TransportConfig" variants

end Transport

end Switchboard
