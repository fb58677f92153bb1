import Switchboard.Backend.Call
import Switchboard.Catalog.Config
import Switchboard.Server.Installation
import Switchboard.Server.Status

/-!
# Replies of the backend

A `Reply` is a JSON value or the error for which the call was rejected. Reading a reply gives a value of the type that
the command promises, or a `Rejection`: a chain of causes, the outermost first. Commands that only acknowledge do not
look at the value.
-/

namespace Switchboard.Backend

open Record (Decoder Fault)

/-- The answer to a call. -/
inductive Reply where
  | ok (body : Json)
  /-- Rejected, for a cause with its contexts, the innermost first. -/
  | rejected (cause : String) (contexts : List String)

/-- Why a call gave nothing: a chain of causes, the outermost first. -/
structure Rejection where
  outermost : String
  causes : List String
  deriving DecidableEq, Repr

/-- All causes, the outermost first. -/
def Rejection.chain (r : Rejection) : List String := r.outermost :: r.causes

/-- The causes on one line. -/
def Rejection.message (r : Rejection) : String := String.intercalate ": " r.chain

/-- The chain with one more cause around it. -/
def Rejection.within (r : Rejection) (context : String) : Rejection := ⟨context, r.chain⟩

/-- The chain of a cause and its contexts, the innermost first. -/
def Rejection.ofCauses (cause : String) (contexts : List String) : Rejection :=
  contexts.foldl Rejection.within ⟨cause, []⟩

namespace Reply

/-- The rejection of a call. -/
def refusal (command cause : String) (contexts : List String) : Rejection :=
  (Rejection.ofCauses cause contexts).within (command ++ " rejected")

/-- The rejection of a reply that does not fit. -/
def misfit (command : String) (fault : Fault) : Rejection :=
  ⟨command ++ " returned an unexpected response", [fault.message]⟩

/-- Reads the reply to a command. -/
def read {α : Type} (command : String) (decode : Decoder α) : Reply → Except Rejection α
  | .rejected cause contexts => .error (refusal command cause contexts)
  | .ok body =>
    match decode body with
    | .ok a => .ok a
    | .error fault => .error (misfit command fault)

/-- Reads the reply to a command that only acknowledges. -/
def acknowledge (command : String) : Reply → Except Rejection Unit
  | .rejected cause contexts => .error (refusal command cause contexts)
  | .ok _ => .ok ()

/-! ## By command -/

def catalogConfig : Reply → Except Rejection Catalog.Config :=
  read Call.catalogConfig.command Catalog.Config.decode

def home : Reply → Except Rejection (Option Catalog.Home) :=
  read Call.home.command (Record.nullable Catalog.Home.decode)

def catalog : Reply → Except Rejection (List Definition) :=
  read Call.catalog.command (Record.list Definition.decode)

def offline : Reply → Except Rejection Bool := read Call.offline.command Record.bool

def installed (space : Uuid) : Reply → Except Rejection (List Installation) :=
  read (Call.installed space).command (Record.list Installation.decode)

/-- The reply to a command that gives the installation it changed. -/
def installation (call : Call) : Reply → Except Rejection Installation :=
  read call.command Installation.decode

def statuses (space : Uuid) : Reply → Except Rejection (KeyMap StatusRecord) :=
  read (Call.statuses space).command (Record.map StatusRecord.decode)

end Reply

end Switchboard.Backend
