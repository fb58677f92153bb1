import Switchboard.Connection.State
import Switchboard.Proofs.KeyMap

/-!
# The records of a binding

What reaches the state of a binding is a `Delivery`: an event, or the snapshot; `State.receiveAll` takes in any number
of them in any order.

* One delivery does to the record of a server what `get?_acceptStatus` and `get?_applySnapshot` say; the entries of a
  snapshot may be taken in in any order (`foldl_mergeEntry_perm`).
* No delivery loses a record, goes back to an older flow or forgets an earlier connection (`advances_receive`), so no
  run of deliveries does (`advances_receiveAll`).
* `records_only_advance` has these together, with what a stale event and a stale entry change.
-/

namespace Switchboard.Connection

open State (mergeEntry mergeRecord)

/-- What reaches the state of a binding. -/
inductive Delivery where
  | status (event : StatusChanged)
  | progress (event : AuthProgress)
  | features (event : Features)
  | snapshot (records : KeyMap StatusRecord)
  deriving DecidableEq

namespace State

/-- Takes in a delivery. -/
def receive (s : State) : Delivery → State
  | .status e => s.acceptStatus e
  | .progress e => s.acceptProgress e
  | .features e => s.acceptFeatures e
  | .snapshot records => s.applySnapshot records

/-- Takes in deliveries, one after the other. -/
def receiveAll (s : State) (deliveries : List Delivery) : State := deliveries.foldl receive s

end State

/-! ## The record of one server -/

theorem remember_false (r : StatusRecord) : remember false r = r := by
  simp [remember]

theorem get?_mergeEntry (records : KeyMap StatusRecord) (entry : String × StatusRecord) (server : String) :
    (mergeEntry records entry).get? server =
      if entry.1 = server then some (mergeRecord (records.get? server) entry.2) else records.get? server := by
  rw [mergeEntry, KeyMap.get?_insert]
  split
  · rename_i h
    rw [h]
  · rfl

/-- Each server's record is merged with the one entry about it, if there is one. -/
theorem get?_foldl_mergeEntry {entries : List (String × StatusRecord)} (distinct : (entries.map Prod.fst).Nodup)
    (records : KeyMap StatusRecord) (server : String) :
    (entries.foldl mergeEntry records).get? server =
      ((KeyMap.find server entries).map (mergeRecord (records.get? server))).or (records.get? server) := by
  induction entries generalizing records with
  | nil => rfl
  | cons entry rest ih =>
    obtain ⟨key, found⟩ := entry
    rw [List.map_cons, List.nodup_cons] at distinct
    rw [List.foldl_cons, ih distinct.2, get?_mergeEntry, KeyMap.find]
    by_cases h : key = server
    · -- no later entry is about the same server
      have absent : KeyMap.find server rest = none :=
        KeyMap.find_eq_none fun e he hk => distinct.1 (List.mem_map.mpr ⟨e, he, hk.trans h.symm⟩)
      rw [absent, if_pos h, if_pos h]
      rfl
    · rw [if_neg h, if_neg h]

/-- The order in which the entries of a snapshot are taken in does not matter. -/
theorem foldl_mergeEntry_perm {entries others : List (String × StatusRecord)} (perm : entries.Perm others)
    (distinct : (entries.map Prod.fst).Nodup) (records : KeyMap StatusRecord) :
    entries.foldl mergeEntry records = others.foldl mergeEntry records := by
  have distinct' : (others.map Prod.fst).Nodup := (perm.map Prod.fst).nodup_iff.mp distinct
  refine KeyMap.ext fun server => ?_
  rw [get?_foldl_mergeEntry distinct, get?_foldl_mergeEntry distinct', KeyMap.find_perm perm distinct]

namespace State

theorem get?_applySnapshot (s : State) (snapshot : KeyMap StatusRecord) (server : String) :
    (s.applySnapshot snapshot).records.get? server =
      ((snapshot.get? server).map (mergeRecord (s.records.get? server))).or (s.records.get? server) :=
  get?_foldl_mergeEntry snapshot.nodup_keys s.records server

theorem acceptStatus_of_not_accepts {s : State} {e : StatusChanged} (h : s.accepts e = false) :
    s.acceptStatus e = s := by
  simp [acceptStatus, h]

theorem get?_acceptStatus {s : State} {e : StatusChanged} (h : s.accepts e = true) (server : String) :
    (s.acceptStatus e).records.get? server =
      if e.serverId = server then some (remember (wasConnected (s.records.get? server)) e.record)
      else s.records.get? server := by
  rw [acceptStatus, if_pos h, KeyMap.get?_insert]
  split
  · rename_i hs
    rw [hs]
  · rfl

/-- An event counts iff it is about the bound space and the stored record is not of a newer flow. -/
theorem accepts_iff (s : State) (e : StatusChanged) :
    s.accepts e = true ↔ s.space = some e.spaceId ∧ ∀ r, s.records.get? e.serverId = some r → r.flow ≤ e.flow := by
  simp [accepts, isBoundTo, Option.all_eq_true]

/-- An event for another space, or of an older flow than the stored one, changes nothing. -/
theorem acceptStatus_of_stale {s : State} {e : StatusChanged}
    (h : s.space ≠ some e.spaceId ∨ ∃ r, s.records.get? e.serverId = some r ∧ e.flow < r.flow) :
    s.acceptStatus e = s := by
  refine acceptStatus_of_not_accepts (Bool.eq_false_iff.mpr fun accepted => ?_)
  obtain ⟨bound, newest⟩ := (s.accepts_iff e).mp accepted
  rcases h with h | ⟨r, hr, older⟩
  · exact h bound
  · exact UInt64.not_le.mpr older (newest r hr)

theorem records_acceptProgress (s : State) (e : AuthProgress) : (s.acceptProgress e).records = s.records := by
  unfold acceptProgress
  split <;> rfl

theorem records_acceptFeatures (s : State) (e : Features) : (s.acceptFeatures e).records = s.records := by
  unfold acceptFeatures
  split <;> rfl

theorem space_receive (s : State) (d : Delivery) : (s.receive d).space = s.space := by
  cases d with
  | status e =>
    simp only [receive, acceptStatus]
    split <;> rfl
  | progress e =>
    simp only [receive, acceptProgress]
    split <;> rfl
  | features e =>
    simp only [receive, acceptFeatures]
    split <;> rfl
  | snapshot records => rfl

end State

/-! ## No record goes back -/

/-- A later record of a server: not of an older flow, and not forgetful of an earlier connection. -/
structure Advances (earlier later : StatusRecord) : Prop where
  flow : earlier.flow ≤ later.flow
  memory : earlier.hasConnectedBefore = true → later.hasConnectedBefore = true

theorem Advances.refl (r : StatusRecord) : Advances r r := ⟨UInt64.le_refl _, id⟩

theorem Advances.trans {a b c : StatusRecord} (h : Advances a b) (h' : Advances b c) : Advances a c :=
  ⟨UInt64.le_trans h.flow h'.flow, h'.memory ∘ h.memory⟩

/-- A record that remembers more is no step back. -/
theorem advances_remember (r : StatusRecord) (connectedBefore : Bool) : Advances r (remember connectedBefore r) :=
  ⟨UInt64.le_refl _, fun h => by rw [remember, h, Bool.true_or]⟩

/-- A record of a flow as new, which remembers what the stored one does, is no step back. -/
theorem advances_remember_of_le {r found : StatusRecord} (h : r.flow ≤ found.flow) :
    Advances r (remember r.hasConnectedBefore found) :=
  ⟨h, fun hr => by rw [remember, hr, Bool.or_true]⟩

/-- An entry of an older flow than the stored record only adds to its memory. -/
theorem mergeRecord_of_lt {r found : StatusRecord} (h : found.flow < r.flow) :
    mergeRecord (some r) found = remember found.hasConnectedBefore r := by
  rw [mergeRecord, if_pos h]

/-- An entry of a flow as new as the stored record's takes its place, with its memory. -/
theorem mergeRecord_of_le {r found : StatusRecord} (h : r.flow ≤ found.flow) :
    mergeRecord (some r) found = remember r.hasConnectedBefore found := by
  rw [mergeRecord, if_neg (UInt64.not_lt.mpr h)]

/-- Merging a snapshot's entry is no step back. -/
theorem advances_mergeRecord (r found : StatusRecord) : Advances r (mergeRecord (some r) found) := by
  by_cases h : found.flow < r.flow
  · rw [mergeRecord_of_lt h]
    exact advances_remember r _
  · have newer := UInt64.not_lt.mp h
    rw [mergeRecord_of_le newer]
    exact advances_remember_of_le newer

namespace State

variable {s : State} {server : String} {r : StatusRecord}

theorem advances_acceptStatus (h : s.records.get? server = some r) (e : StatusChanged) :
    ∃ r', (s.acceptStatus e).records.get? server = some r' ∧ Advances r r' := by
  cases accepted : s.accepts e with
  | false => exact ⟨r, by rw [acceptStatus_of_not_accepts accepted, h], Advances.refl r⟩
  | true =>
    rw [get?_acceptStatus accepted]
    split
    · rename_i hs
      have newest := ((s.accepts_iff e).mp accepted).2 r (hs ▸ h)
      refine ⟨_, rfl, ?_⟩
      rw [h]
      exact advances_remember_of_le newest
    · exact ⟨r, h, Advances.refl r⟩

theorem advances_applySnapshot (h : s.records.get? server = some r) (snapshot : KeyMap StatusRecord) :
    ∃ r', (s.applySnapshot snapshot).records.get? server = some r' ∧ Advances r r' := by
  rw [get?_applySnapshot, h]
  cases snapshot.get? server with
  | none => exact ⟨r, rfl, Advances.refl r⟩
  | some found => exact ⟨_, rfl, advances_mergeRecord r found⟩

/-- A delivery keeps every record or replaces it by a later one. -/
theorem advances_receive (h : s.records.get? server = some r) (d : Delivery) :
    ∃ r', (s.receive d).records.get? server = some r' ∧ Advances r r' := by
  cases d with
  | status e => exact advances_acceptStatus h e
  | progress e => exact ⟨r, by rw [receive, records_acceptProgress, h], Advances.refl r⟩
  | features e => exact ⟨r, by rw [receive, records_acceptFeatures, h], Advances.refl r⟩
  | snapshot records => exact advances_applySnapshot h records

/-- So does any number of deliveries. -/
theorem advances_receiveAll (h : s.records.get? server = some r) (ds : List Delivery) :
    ∃ r', (s.receiveAll ds).records.get? server = some r' ∧ Advances r r' := by
  induction ds generalizing s r with
  | nil => exact ⟨r, h, Advances.refl r⟩
  | cons d ds ih =>
    obtain ⟨r₁, h₁, step⟩ := advances_receive h d
    obtain ⟨r₂, h₂, rest⟩ := ih h₁
    exact ⟨r₂, h₂, step.trans rest⟩

end State

/-- **Records only advance.** Whatever is delivered in whatever order, a stored record stays, its flow does not fall
and its memory of a connection lasts. An event for another space or of an older flow changes nothing at all, an entry
of an older flow at most adds to the memory of the stored record, and the order of a snapshot's entries is
immaterial. -/
theorem records_only_advance (s : State) (server : String) :
    (∀ (ds : List Delivery) (r : StatusRecord), s.records.get? server = some r →
      ∃ r', (s.receiveAll ds).records.get? server = some r' ∧ Advances r r') ∧
    (∀ e : StatusChanged, s.space ≠ some e.spaceId ∨ (∃ r, s.records.get? e.serverId = some r ∧ e.flow < r.flow) →
      s.acceptStatus e = s) ∧
    (∀ (snapshot : KeyMap StatusRecord) (r found : StatusRecord), s.records.get? server = some r →
      snapshot.get? server = some found → found.flow < r.flow →
      (s.applySnapshot snapshot).records.get? server =
        some { r with hasConnectedBefore := r.hasConnectedBefore || found.hasConnectedBefore }) ∧
    (∀ (snapshot : KeyMap StatusRecord) (entries : List (String × StatusRecord)), entries.Perm snapshot.entries →
      { s with records := entries.foldl mergeEntry s.records } = s.applySnapshot snapshot) := by
  refine ⟨fun ds r h => State.advances_receiveAll h ds, fun e => State.acceptStatus_of_stale, ?_, ?_⟩
  · intro snapshot r found h hfound older
    rw [State.get?_applySnapshot, h, hfound, Option.map_some, mergeRecord_of_lt older]
    rfl
  · intro snapshot entries perm
    rw [State.applySnapshot, foldl_mergeEntry_perm perm.symm snapshot.nodup_keys]

/-- A server that connected in flow 4, for the first time as far as is known. -/
def connectedGh : State :=
  { State.bound ⟨1⟩ with records := KeyMap.empty.insert "gh" ⟨"gh", .connected, 4, false, none⟩ }

/-- The server fails. -/
def errorEvent (space : Uuid) (flow : UInt64) : StatusChanged := ⟨space, "gh", .error, flow, false, none⟩

/-- A snapshot of flow 3, when the server had been connected before. -/
def lateSnapshot : KeyMap StatusRecord := KeyMap.empty.insert "gh" ⟨"gh", .disconnected, 3, true, none⟩

theorem connected_advances :
    connectedGh.records.get? "gh" = some ⟨"gh", .connected, 4, false, none⟩ ∧
    (connectedGh.applySnapshot lateSnapshot).records.get? "gh" = some ⟨"gh", .connected, 4, true, none⟩ ∧
    connectedGh.acceptStatus (errorEvent ⟨1⟩ 3) = connectedGh ∧
    connectedGh.acceptStatus (errorEvent ⟨2⟩ 5) = connectedGh ∧
    ∃ r, (connectedGh.receiveAll [.status (errorEvent ⟨1⟩ 5), .snapshot lateSnapshot]).records.get? "gh" = some r ∧
      4 ≤ r.flow := by
  obtain ⟨advances, stale, entry, -⟩ := records_only_advance connectedGh "gh"
  have stored : connectedGh.records.get? "gh" = some ⟨"gh", .connected, 4, false, none⟩ := by decide
  refine ⟨stored, ?_, ?_, ?_, ?_⟩
  · exact entry lateSnapshot _ ⟨"gh", .disconnected, 3, true, none⟩ stored (by decide) (by decide)
  · exact stale _ (Or.inr ⟨_, stored, by decide⟩)
  · exact stale _ (Or.inl (by decide))
  · obtain ⟨r, h, advanced⟩ := advances [.status (errorEvent ⟨1⟩ 5), .snapshot lateSnapshot] _ stored
    exact ⟨r, h, advanced.flow⟩

end Switchboard.Connection
