import Switchboard.Event
import Switchboard.Proofs.Record.Yields

/-!
# Status records and events read back

The backend's report on a server and the payloads of the four typed channels are read back from their wire forms, the
status change also from the form in which its message is always written (`StatusChanged.decode_event`). The payload of
an event is any value, which is in normal form once it was read (`Event.decode_toJson`).
-/

namespace Switchboard

open Record
open Record.Shape (Reads reads_absent reads_defaulted reads_optional_text reads_required yields_required)

/-! ## Status records -/

theorem Status.decode_toJson (s : Status) : decode s.toJson = .ok s := by cases s <;> rfl

theorem StatusRecord.decode_toJson (r : StatusRecord) : decode r.toJson = .ok r := by
  obtain ⟨serverId, status, flow, hasConnectedBefore, message⟩ := r
  apply Reads.decode_obj
  · refine .seq ?_ (reads_optional_text rfl)
    refine .seq ?_ (reads_defaulted rfl rfl)
    refine .seq ?_ (reads_required rfl (u64_int flow))
    refine .seq ?_ (reads_required rfl status.decode_toJson)
    exact .map (reads_required rfl rfl)
  · exact (by decide : shape.names.Nodup)

/-! ## Payloads -/

namespace StatusChanged

/-- However the message is written, the other members are read. -/
theorem decode_members {p : StatusChanged} {rest : List (String × Json)}
    (message : (Shape.optional "message" text).Reads (p.members ++ rest) p.message)
    (distinct : ((p.members ++ rest).map Prod.fst).Nodup) : decode (.obj (p.members ++ rest)) = .ok p := by
  obtain ⟨spaceId, serverId, status, flow, hasConnectedBefore, _⟩ := p
  refine Reads.decode_obj ?_ distinct _
  refine .seq ?_ message
  refine .seq ?_ (reads_defaulted rfl rfl)
  refine .seq ?_ (reads_required rfl (u64_int flow))
  refine .seq ?_ (reads_required rfl status.decode_toJson)
  refine .seq ?_ (reads_required rfl rfl)
  exact .map (reads_required rfl (uuid_text spaceId))

theorem decode_toJson (p : StatusChanged) : decode p.toJson = .ok p := by
  obtain ⟨spaceId, serverId, status, flow, hasConnectedBefore, message⟩ := p
  cases message with
  | none =>
    refine decode_members (reads_absent rfl) ?_
    exact (by decide : ["space_id", "server_id", "status", "flow_id", "has_connected_before"].Nodup)
  | some m =>
    refine decode_members (reads_defaulted rfl rfl) ?_
    exact (by decide : shape.names.Nodup)

theorem decode_event (p : StatusChanged) : decode p.event.payload = .ok p := by
  refine decode_members (reads_optional_text rfl) ?_
  exact (by decide : shape.names.Nodup)

end StatusChanged

theorem AuthProgress.decode_toJson (p : AuthProgress) : decode p.toJson = .ok p := by
  obtain ⟨spaceId, serverId, remaining, flow⟩ := p
  apply Reads.decode_obj
  · refine .seq ?_ (reads_required rfl (u64_int flow))
    refine .seq ?_ (reads_required rfl (u64_int remaining))
    refine .seq ?_ (reads_required rfl rfl)
    exact .map (reads_required rfl (uuid_text spaceId))
  · exact (by decide : shape.names.Nodup)

theorem Features.decode_toJson (p : Features) : decode p.toJson = .ok p := by
  obtain ⟨spaceId, serverId, tools, prompts, resources, added, removed⟩ := p
  apply Reads.decode_obj
  · refine .seq ?_ (reads_defaulted rfl (list_ofTextList removed))
    refine .seq ?_ (reads_defaulted rfl (list_ofTextList added))
    refine .seq ?_ (reads_defaulted rfl (list_ofTextList resources))
    refine .seq ?_ (reads_defaulted rfl (list_ofTextList prompts))
    refine .seq ?_ (reads_defaulted rfl (list_ofTextList tools))
    refine .seq ?_ (reads_required rfl rfl)
    exact .map (reads_required rfl (uuid_text spaceId))
  · exact (by decide : shape.names.Nodup)

theorem Change.decode_toJson (c : Change) : decode c.toJson = .ok c := by cases c <;> rfl

theorem ServerChanged.decode_toJson (p : ServerChanged) : decode p.toJson = .ok p := by
  obtain ⟨change, spaceId, serverId, serverName⟩ := p
  have others : ∀ members, (Shape.optional "server_name" text).Reads members serverName →
      KeyMap.find "action" members = some change.toJson → KeyMap.find "space_id" members = some (.str spaceId.text) →
      KeyMap.find "server_id" members = some (.str serverId) →
      shape.Reads members ⟨change, spaceId, serverId, serverName⟩ := by
    intro members name action space server
    refine .seq ?_ name
    refine .seq ?_ (reads_required server rfl)
    refine .seq ?_ (reads_required space (uuid_text spaceId))
    exact .map (reads_required action change.decode_toJson)
  cases serverName with
  | none =>
    refine Reads.decode_obj (others _ (reads_absent rfl) rfl rfl rfl) ?_ _
    exact (by decide : ["action", "space_id", "server_id"].Nodup)
  | some n =>
    refine Reads.decode_obj (others _ (reads_defaulted rfl rfl) rfl rfl rfl) ?_ _
    exact (by decide : shape.names.Nodup)

/-! ## Events -/

namespace Event

theorem yields_decode : Decoder.Yields decode fun e => e.payload.Normal := by
  refine Shape.Yields.decoder ?_ _
  exact .seq (.map_any fun _ _ h => h) (yields_required yields_anything)

/-- An event with a payload in normal form is read back. -/
theorem decode_toJson {e : Event} (h : e.payload.Normal) : decode e.toJson = .ok e := by
  obtain ⟨channel, payload⟩ := e
  apply Reads.decode_obj
  · exact .seq (.map (reads_required rfl rfl)) (reads_required rfl (anything_normal h))
  · exact (by decide : shape.names.Nodup)

end Event

end Switchboard
