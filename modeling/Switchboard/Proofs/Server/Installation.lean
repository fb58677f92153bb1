import Switchboard.Proofs.Record.Yields
import Switchboard.Server.Installation

/-!
# Installations read back

An installation reads back from its wire form if its two points in time are ones that there are
(`Installation.decode_toJson`), as those of every installation that was read (`Installation.yields_decode`).
-/

namespace Switchboard

open Record
open Record.Shape (Reads reads_constant reads_defaulted reads_optional_text reads_required yields_required)

theorem InstallationSource.decode_toJson (s : InstallationSource) : decode s.toJson = .ok s := by
  cases s with
  | registry | manualEntry => exact tagged_obj rfl rfl (by decide) reads_constant
  | userConfig filePath =>
    refine tagged_obj rfl rfl ?_ (.map (reads_required rfl rfl))
    exact (by decide : ["type", "file_path"].Nodup)

namespace Installation

/-- An installation that was made and changed at points in time that there are. -/
structure Normal (s : Installation) : Prop where
  createdAt : s.createdAt.Valid
  updatedAt : s.updatedAt.Valid

theorem yields_decode : Decoder.Yields decode Normal := by
  refine Shape.Yields.decoder ?_ _
  refine .seq ?_ (yields_required yields_instant)
  refine .seq ?_ (yields_required yields_instant)
  refine .seq_any (.seq_any (.seq_any (.seq_any (.seq_any (.seq_any ?_)))))
  refine .seq_any (.seq_any (.seq_any (.seq_any (.seq_any ?_))))
  exact .map_any fun _ _ _ _ _ _ _ _ _ _ _ _ _ created _ updated => ⟨created, updated⟩

theorem decode_toJson {s : Installation} (h : s.Normal) : decode s.toJson = .ok s := by
  obtain ⟨id, spaceId, serverId, serverName, cachedDefinition, inputValues, enabled, envOverrides, argsAppend,
    extraHeaders, oauthConnected, source, createdAt, updatedAt⟩ := s
  apply Reads.decode_obj
  · refine .seq ?_ (reads_required rfl (instant_text h.updatedAt))
    refine .seq ?_ (reads_required rfl (instant_text h.createdAt))
    refine .seq ?_ (reads_defaulted rfl source.decode_toJson)
    refine .seq ?_ (reads_defaulted rfl rfl)
    refine .seq ?_ (reads_defaulted rfl (map_ofTexts extraHeaders))
    refine .seq ?_ (reads_defaulted rfl (list_ofTextList argsAppend))
    refine .seq ?_ (reads_defaulted rfl (map_ofTexts envOverrides))
    refine .seq ?_ (reads_defaulted rfl rfl)
    refine .seq ?_ (reads_defaulted rfl (map_ofTexts inputValues))
    refine .seq ?_ (reads_optional_text rfl)
    refine .seq ?_ (reads_optional_text rfl)
    refine .seq ?_ (reads_required rfl rfl)
    refine .seq ?_ (reads_required rfl rfl)
    exact .map (reads_required rfl (uuid_text id))
  · exact (by decide : shape.names.Nodup)

end Installation

end Switchboard
