import Switchboard.Server.Definition
import Switchboard.Proofs.Json.Compact
import Switchboard.Proofs.Record.Reads

/-!
# Definitions read back

Everything that a definition is made of reads back from its wire form: each kind of record by its shape, each kind of
auth, transport and source by its tag (`Definition.decode_toJson`). None of it has numbers, and it is nested five deep
at most, so it also reads back from its compact text (`Definition.read?_compact`).
-/

namespace Switchboard

open Json (Plain)
open Record
open Record.Shape (Reads reads_absent reads_constant reads_defaulted reads_optional reads_optional_text reads_required)

/-! ## Inputs -/

theorem Input.plain_toJson (depth : Nat) (i : Input) : Plain (depth + 1) i.toJson := by
  refine .obj ?_
  simp only [List.forall_mem_cons]
  refine ⟨.str .., .str .., .str .., .bool .., .bool .., ?_, ?_, ?_, ?_, List.forall_mem_nil _⟩
  all_goals exact Plain.optional (Plain.str depth) _

theorem Input.decode_toJson (i : Input) : decode i.toJson = .ok i := by
  obtain ⟨id, label, kind, required, secret, description, placeholder, url, instructions⟩ := i
  apply Reads.decode_obj
  · refine .seq ?_ (reads_optional_text rfl)
    refine .seq ?_ (reads_optional_text rfl)
    refine .seq ?_ (reads_optional_text rfl)
    refine .seq ?_ (reads_optional_text rfl)
    refine .seq ?_ (reads_defaulted rfl rfl)
    refine .seq ?_ (reads_defaulted rfl rfl)
    refine .seq ?_ (reads_defaulted rfl rfl)
    refine .seq ?_ (reads_required rfl rfl)
    exact .map (reads_required rfl rfl)
  · exact (by decide : shape.names.Nodup)

/-! ## Transports -/

namespace TransportMetadata

theorem plain_toJson (depth : Nat) (m : TransportMetadata) : Plain (depth + 3) m.toJson := by
  refine .obj ?_
  simp only [List.forall_mem_singleton]
  exact Plain.list (Input.plain_toJson depth) m.inputs

/-- Declarations are read back the same way inside a tagged record. -/
theorem decodeWithin_toJson (m : TransportMetadata) : decodeWithin m.toJson = .ok m := by
  obtain ⟨inputs⟩ := m
  have inputs_read : list Input.decodeWithin (.arr (inputs.map Input.toJson)) = .ok inputs :=
    list_arr fun i _ => i.decode_toJson
  refine Reads.decode_obj ?_ ?_ recordName
  · exact .map (reads_defaulted rfl inputs_read)
  · exact (by decide : ["inputs"].Nodup)

end TransportMetadata

namespace Transport

theorem plain_toJson (depth : Nat) (t : Transport) : Plain (depth + 4) t.toJson := by
  cases t with
  | stdio command args env metadata =>
    refine .obj ?_
    simp only [List.forall_mem_cons]
    exact ⟨.str .., .str .., Plain.list (Plain.str _) args, Plain.ofTexts _ env, metadata.plain_toJson depth,
      List.forall_mem_nil _⟩
  | http url headers metadata =>
    refine .obj ?_
    simp only [List.forall_mem_cons]
    exact ⟨.str .., .str .., Plain.ofTexts _ headers, metadata.plain_toJson depth, List.forall_mem_nil _⟩

theorem decode_toJson (t : Transport) : decode t.toJson = .ok t := by
  have readable := (t.plain_toJson 0).readable
  cases t with
  | stdio command args env metadata =>
    refine tagged_obj rfl readable ?_ ?_
    · exact (by decide : ["type", "command", "args", "env", "metadata"].Nodup)
    · refine .seq ?_ (reads_defaulted rfl metadata.decodeWithin_toJson)
      refine .seq ?_ (reads_defaulted rfl (map_ofTexts env))
      refine .seq ?_ (reads_defaulted rfl (list_ofTextList args))
      exact .map (reads_required rfl rfl)
  | http url headers metadata =>
    refine tagged_obj rfl readable ?_ ?_
    · exact (by decide : ["type", "url", "headers", "metadata"].Nodup)
    · refine .seq ?_ (reads_defaulted rfl metadata.decodeWithin_toJson)
      refine .seq ?_ (reads_defaulted rfl (map_ofTexts headers))
      exact .map (reads_required rfl rfl)

end Transport

/-! ## Authentication, publishers and sources -/

namespace Auth

theorem plain_toJson (depth : Nat) (a : Auth) : Plain (depth + 1) a.toJson := by
  refine .obj ?_
  cases a with
  | none | oauth => exact List.forall_mem_singleton.mpr (.str ..)
  | apiKey i | optionalApiKey i =>
    cases i with
    | none => exact List.forall_mem_singleton.mpr (.str ..)
    | some i =>
      simp only [instructions, List.forall_mem_cons]
      exact ⟨.str .., .str .., List.forall_mem_nil _⟩

theorem decode_toJson (a : Auth) : decode a.toJson = .ok a := by
  have readable := (a.plain_toJson 0).readable
  cases a with
  | none | oauth => exact tagged_obj rfl readable (by decide) reads_constant
  | apiKey i | optionalApiKey i =>
    cases i with
    | none => exact tagged_obj rfl readable (by decide) (.map (reads_absent rfl))
    | some i =>
      refine tagged_obj rfl readable ?_ (.map (reads_defaulted rfl rfl))
      exact (by decide : ["type", "instructions"].Nodup)

end Auth

namespace Publisher

theorem plain_toJson (depth : Nat) (p : Publisher) : Plain (depth + 1) p.toJson := by
  refine .obj ?_
  simp only [List.forall_mem_cons]
  exact ⟨.str .., .optional (Plain.str depth) _, .bool .., .bool .., List.forall_mem_nil _⟩

theorem decode_toJson (p : Publisher) : decode p.toJson = .ok p := by
  obtain ⟨name, domain, verified, official⟩ := p
  apply Reads.decode_obj
  · refine .seq ?_ (reads_defaulted rfl rfl)
    refine .seq ?_ (reads_defaulted rfl rfl)
    refine .seq ?_ (reads_optional_text rfl)
    exact .map (reads_required rfl rfl)
  · exact (by decide : shape.names.Nodup)

end Publisher

namespace Source

theorem plain_toJson (depth : Nat) (s : Source) : Plain (depth + 1) s.toJson := by
  cases s with
  | bundled => exact .obj (List.forall_mem_singleton.mpr (.str ..))
  | userSpace _ _ | registry _ _ =>
    refine .obj ?_
    simp only [List.forall_mem_cons]
    exact ⟨.str .., .str .., .str .., List.forall_mem_nil _⟩

theorem decode_toJson (s : Source) : decode s.toJson = .ok s := by
  have readable := (s.plain_toJson 0).readable
  cases s with
  | bundled => exact tagged_obj rfl readable (by decide) reads_constant
  | userSpace spaceId filePath =>
    refine tagged_obj rfl readable ?_ (.seq (.map (reads_required rfl rfl)) (reads_required rfl rfl))
    exact (by decide : ["type", "space_id", "file_path"].Nodup)
  | registry url name =>
    refine tagged_obj rfl readable ?_ (.seq (.map (reads_required rfl rfl)) (reads_required rfl rfl))
    exact (by decide : ["type", "url", "name"].Nodup)

end Source

/-! ## Definitions -/

namespace Definition

theorem plain_toJson (d : Definition) : Plain 5 d.toJson := by
  refine .obj ?_
  simp only [members, List.forall_mem_cons]
  exact ⟨.str .., .str .., .optional (Plain.str _) _, .optional (Plain.str _) _, .optional (Auth.plain_toJson _) _,
    .optional (Plain.str _) _, d.transport.plain_toJson _, .list (Plain.str _) _,
    .optional (Publisher.plain_toJson _) _, d.source.plain_toJson _, List.forall_mem_nil _⟩

/-- A definition reads back from its wire form. -/
theorem decode_toJson (d : Definition) : decode d.toJson = .ok d := by
  obtain ⟨id, name, description, shortName, auth, icon, transport, categories, publisher, source⟩ := d
  apply Reads.decode_obj
  · refine .seq ?_ (reads_defaulted rfl source.decode_toJson)
    refine .seq ?_ (reads_optional rfl Publisher.decode_toJson nofun)
    refine .seq ?_ (reads_defaulted rfl (list_ofTextList categories))
    refine .seq ?_ (reads_required rfl transport.decode_toJson)
    refine .seq ?_ (reads_optional_text rfl)
    refine .seq ?_ (reads_optional rfl Auth.decode_toJson nofun)
    refine .seq ?_ (reads_optional_text rfl)
    refine .seq ?_ (reads_optional_text rfl)
    refine .seq ?_ (reads_required rfl rfl)
    exact .map (reads_required rfl rfl)
  · exact (by decide : shape.names.Nodup)

theorem read?_compact (d : Definition) : Json.read? d.toJson.compact = some d.toJson :=
  Json.read?_compact d.plain_toJson (by decide)

end Definition

end Switchboard
