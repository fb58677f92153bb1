import Switchboard.Record.Shape

/-!
# Authentication of a server

`Auth` says what a server needs before it can be reached; only the key variants carry instructions. `AuthKind` is the
variant without its payload, with `none` also for a server that says nothing.
-/

namespace Switchboard

open Record (Decoder Shape Variant)

/-- What a server needs from the user. -/
inductive Auth where
  | none
  | apiKey (instructions : Option String)
  | optionalApiKey (instructions : Option String)
  | oauth
  deriving DecidableEq, Repr

/-- The kind of authentication. -/
inductive AuthKind where
  | none
  | apiKey
  | optionalApiKey
  | oauth
  deriving DecidableEq, Repr

namespace AuthKind

/-- The name of a kind. -/
def name : AuthKind → String
  | .none => "none"
  | .apiKey => "api_key"
  | .optionalApiKey => "optional_api_key"
  | .oauth => "oauth"

/-- The kinds by name. -/
def known : List (String × AuthKind) :=
  [.none, .apiKey, .optionalApiKey, .oauth].map fun k : AuthKind => (k.name, k)

def toJson (k : AuthKind) : Json := .str k.name

def decode : Decoder AuthKind := Record.oneOf known Option.none

end AuthKind

namespace Auth

/-- The kind, without the payload. -/
def kind : Auth → AuthKind
  | .none => .none
  | .apiKey _ => .apiKey
  | .optionalApiKey _ => .optionalApiKey
  | .oauth => .oauth

/-- How to get a key, where one can be used. -/
def instructions : Auth → Option String
  | .apiKey i | .optionalApiKey i => i
  | .none | .oauth => Option.none

/-- Instructions are written only if there are any. -/
def toJson (a : Auth) : Json :=
  .obj (("type", .str a.kind.name) :: match a.instructions with
    | some i => [("instructions", .str i)]
    | Option.none => [])

/-- A variant with instructions. -/
def keyVariant (make : Option String → Auth) (tag label : String) : Variant Auth :=
  ⟨tag, "struct variant AuthConfig::" ++ label, make <$> Shape.optional "instructions" Record.text⟩

/-- The variants by tag. -/
def variants : List (Variant Auth) :=
  [⟨"none", "", Shape.constant .none⟩, keyVariant .apiKey "api_key" "ApiKey",
    keyVariant .optionalApiKey "optional_api_key" "OptionalApiKey", ⟨"oauth", "", Shape.constant .oauth⟩]

def decode : Decoder Auth := Record.tagged "AuthConfig" variants

end Auth

end Switchboard
