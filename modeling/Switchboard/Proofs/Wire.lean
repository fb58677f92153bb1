import Switchboard.Proofs.Catalog.Config
import Switchboard.Proofs.Event
import Switchboard.Proofs.Server.Definition
import Switchboard.Proofs.Server.Installation

/-!
# Wire forms are normal forms

In whatever form a record is read (an object or an array, fields absent or null, unknown names), it is the same after
it was written and read again, and the events of typed payloads carry payloads that are read as just these
(`wire_forms_settle`).
-/

namespace Switchboard

open Catalog (Config Home)
open Record (Settles settles_of_reads)

/-- Each kind of record settles, and so do the payloads of the events made of them. -/
theorem wire_forms_settle :
    (Settles Definition.decode Definition.toJson ∧ Settles Installation.decode Installation.toJson ∧
      Settles Config.decode Config.toJson ∧ Settles Home.decode Home.toJson ∧
      Settles StatusRecord.decode StatusRecord.toJson ∧ Settles StatusChanged.decode StatusChanged.toJson ∧
      Settles AuthProgress.decode AuthProgress.toJson ∧ Settles Features.decode Features.toJson ∧
      Settles ServerChanged.decode ServerChanged.toJson ∧ Settles Event.decode Event.toJson) ∧
    (∀ p : StatusChanged, StatusChanged.decode p.event.payload = .ok p ∧
      ∀ channel, StatusChanged.decode (p.eventOn channel).payload = .ok p) ∧
    ∀ p : AuthProgress, AuthProgress.decode p.event.payload = .ok p := by
  refine ⟨⟨?_, ?_, ?_, ?_, ?_, ?_, ?_, ?_, ?_, ?_⟩, fun p => ⟨p.decode_event, fun _ => p.decode_toJson⟩,
    fun p => p.decode_toJson⟩
  · exact settles_of_reads Definition.decode_toJson
  · exact Installation.yields_decode.settles fun _ => Installation.decode_toJson
  · exact Config.yields_decode.settles fun _ => Config.decode_toJson
  · exact settles_of_reads Home.decode_toJson
  · exact settles_of_reads StatusRecord.decode_toJson
  · exact settles_of_reads StatusChanged.decode_toJson
  · exact settles_of_reads AuthProgress.decode_toJson
  · exact settles_of_reads Features.decode_toJson
  · exact settles_of_reads ServerChanged.decode_toJson
  · exact Event.yields_decode.settles fun _ => Event.decode_toJson

/-- A configuration in array form: an operator and a direction nobody knows, and a value with a repeated key. -/
def foreignForm : Json := .arr [
  .arr [.arr [.str "kind", .str "Kind", .str "single", .arr [
    .obj [("match", .arr [.str "tags", .str "matches", .obj [("max", .int 1), ("max", .int 2)]]),
      ("id", .str "some"), ("label", .str "Some"), ("icon", .null)]]]],
  .arr [.obj [("rules", .arr [.arr [.str "name", .str "sideways"]]), ("id", .str "name"), ("label", .str "Name")]]]

/-- What it is read as. -/
def foreignConfig : Config where
  filters := [⟨"kind", "Kind", "single",
    [⟨"some", "Some", none, some ⟨"tags", .unknown "matches", .obj [("max", .int 2)]⟩⟩]⟩]
  sortOptions := [⟨"name", "Name", [⟨"name", .asc, none⟩]⟩]

theorem foreign_form_settles :
    Config.decode foreignForm = .ok foreignConfig ∧ Config.decode foreignConfig.toJson = .ok foreignConfig :=
  have read : Config.decode foreignForm = .ok foreignConfig := rfl
  ⟨read, wire_forms_settle.1.2.2.1 foreignForm foreignConfig read⟩

end Switchboard
