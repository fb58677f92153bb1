import Switchboard.Proofs.Connection.Records

/-!
# Convergence of the records

The status reports of a binding are the events of its space and the entries of its snapshot. They come in any order,
and events come any number of times. If the reports do not contradict each other (`Reports.Coherent`), the records at
the end do not depend on that (`records_converge`): of each server the newest report is stored.

A set of reports is a predicate here. `Represents A server stored` says that `stored` is the newest report of `A` about
the server; a delivery adds its reports to the set (`represents_receive`), so the deliveries of a run add all of theirs
(`represents_receiveAll`).
-/

namespace Switchboard.Connection

open State (mergeRecord)

/-! ## The newest report -/

/-- The newest report about a server among those of a set. -/
structure Newest (A : StatusRecord → Prop) (server : String) (r : StatusRecord) : Prop where
  reported : A r
  about : r.serverId = server
  newest : ∀ r', A r' → r'.serverId = server → r'.flow ≤ r.flow

/-- What is stored of a server is the newest report about it, and nothing if there is none. -/
def Represents (A : StatusRecord → Prop) (server : String) : Option StatusRecord → Prop
  | none => ∀ r, A r → r.serverId ≠ server
  | some r => Newest A server r

/-- Reports that do not contradict each other: two about the same flow of a server are the same, and what was connected
in an earlier flow counts as connected before in a later one. -/
structure Consistent (U : StatusRecord → Prop) : Prop where
  agree : ∀ r r', U r → U r' → r.serverId = r'.serverId → r.flow = r'.flow → r = r'
  lasting : ∀ r r', U r → U r' → r.serverId = r'.serverId → r.flow ≤ r'.flow →
    r.hasConnectedBefore = true → r'.hasConnectedBefore = true

section Sets

variable {U A B : StatusRecord → Prop} {server : String} {stored : Option StatusRecord} {r found : StatusRecord}

/-- Only the reports about the server matter. -/
theorem Represents.congr (h : ∀ r, r.serverId = server → (A r ↔ B r)) (hA : Represents A server stored) :
    Represents B server stored := by
  cases stored with
  | none => exact fun r hr about => hA r ((h r about).mpr hr) about
  | some r =>
    have hA : Newest A server r := hA
    exact ⟨(h r hA.about).mp hA.reported, hA.about, fun r' hr' about => hA.newest r' ((h r' about).mpr hr') about⟩

/-- A report as new as what is stored takes its place. -/
theorem Represents.replace (hA : Represents A server stored) (about : found.serverId = server)
    (newer : ∀ r, stored = some r → r.flow ≤ found.flow) :
    Represents (fun r => A r ∨ r = found) server (some found) := by
  refine ⟨Or.inr rfl, about, ?_⟩
  rintro r (hr | rfl) hs
  · cases stored with
    | none => exact absurd hs (hA r hr)
    | some r₀ => exact UInt64.le_trans (Newest.newest hA r hr hs) (newer r₀ rfl)
  · exact UInt64.le_refl _

/-- A report of an older flow leaves what is stored the newest. -/
theorem Represents.keep (hA : Represents A server (some r)) (older : found.flow < r.flow) :
    Represents (fun r => A r ∨ r = found) server (some r) := by
  have hA : Newest A server r := hA
  refine ⟨Or.inl hA.reported, hA.about, ?_⟩
  rintro r' (hr' | rfl) hs
  · exact hA.newest r' hr' hs
  · exact UInt64.le_of_lt older

/-- Consistent reports have one newest report about a server. -/
theorem Newest.unique (hU : Consistent U) {r' : StatusRecord} (h : Newest U server r) (h' : Newest U server r') :
    r = r' :=
  hU.agree r r' h.reported h'.reported (h.about.trans h'.about.symm)
    (UInt64.le_antisymm (h'.newest r h.reported h.about) (h.newest r' h'.reported h'.about))

theorem Represents.eq_some_iff (hU : Consistent U) (h : Represents U server stored) (r : StatusRecord) :
    stored = some r ↔ Newest U server r := by
  constructor
  · rintro rfl
    exact h
  · intro hr
    cases stored with
    | none => exact absurd hr.about (h r hr.reported)
    | some r' => rw [Newest.unique hU h hr]

/-- A consistent report remembers whatever an older one of its server tells. -/
theorem Consistent.remember_eq (hU : Consistent U) (hr : U r) (hfound : U found)
    (same : r.serverId = found.serverId) (older : r.flow ≤ found.flow) :
    remember r.hasConnectedBefore found = found := by
  have lasting := hU.lasting r found hr hfound same older
  cases found with
  | mk id status flow before message =>
    cases hb : r.hasConnectedBefore with
    | false => exact remember_false _
    | true =>
      have : before = true := lasting hb
      rw [this]
      rfl

/-- Merging an entry of the snapshot keeps the newest report. -/
theorem Represents.mergeRecord (hU : Consistent U) (sub : ∀ r, A r → U r) (hA : Represents A server stored)
    (hfound : U found) (about : found.serverId = server) :
    Represents (fun r => A r ∨ r = found) server (some (mergeRecord stored found)) := by
  cases stored with
  | none => exact hA.replace about fun r h => by cases h
  | some r =>
    have hr : Newest A server r := hA
    have same : r.serverId = found.serverId := hr.about.trans about.symm
    by_cases older : found.flow < r.flow
    · rw [mergeRecord_of_lt older, hU.remember_eq hfound (sub r hr.reported) same.symm (UInt64.le_of_lt older)]
      exact hA.keep older
    · have newer : r.flow ≤ found.flow := UInt64.not_lt.mp older
      rw [mergeRecord_of_le newer, hU.remember_eq (sub r hr.reported) hfound same newer]
      exact hA.replace about fun r' h => by cases h; exact newer

end Sets

/-! ## What deliveries report -/

/-- What a delivery reports about the servers of `space`. -/
def Delivery.Reports (space : Uuid) : Delivery → StatusRecord → Prop
  | .status e, r => e.spaceId = space ∧ e.record = r
  | .snapshot records, r => ∃ server, records.get? server = some r
  | .progress _, _ | .features _, _ => False

/-- The entries of a snapshot stand under the ids of their own servers. -/
def Keyed (records : KeyMap StatusRecord) : Prop := ∀ entry ∈ records.entries, entry.2.serverId = entry.1

instance (records : KeyMap StatusRecord) : Decidable (Keyed records) :=
  inferInstanceAs (Decidable (∀ entry ∈ records.entries, entry.2.serverId = entry.1))

theorem Keyed.serverId_eq {records : KeyMap StatusRecord} (h : Keyed records) {server : String} {r : StatusRecord}
    (hr : records.get? server = some r) : r.serverId = server :=
  h (server, r) ((records.get?_eq_some_iff server r).mp hr)

section Deliveries

variable {U A : StatusRecord → Prop} {space : Uuid} {s : State}

theorem represents_acceptStatus (hU : Consistent U) (sub : ∀ r, A r → U r) (bound : s.space = some space)
    {e : StatusChanged} (ours : e.spaceId = space) (he : U e.record) {server : String}
    (h : Represents A server (s.records.get? server)) :
    Represents (fun r => A r ∨ r = e.record) server ((s.acceptStatus e).records.get? server) := by
  by_cases hs : e.serverId = server
  · subst hs
    cases accepted : s.accepts e with
    | true =>
      have newest := ((s.accepts_iff e).mp accepted).2
      rw [State.get?_acceptStatus accepted, if_pos rfl]
      cases stored : s.records.get? e.serverId with
      | none =>
        rw [wasConnected, Option.any_none, remember_false]
        rw [stored] at h
        exact h.replace rfl fun r hr => by cases hr
      | some r =>
        rw [stored] at h
        have hr : Newest A e.serverId r := h
        have newer : r.flow ≤ e.record.flow := newest r stored
        rw [wasConnected, Option.any_some, hU.remember_eq (sub r hr.reported) he hr.about newer]
        exact h.replace rfl fun r' hr' => by cases hr'; exact newer
    | false =>
      -- for the bound space, only a newer flow can be what stood against the event
      obtain ⟨r, stored, older⟩ : ∃ r, s.records.get? e.serverId = some r ∧ e.flow < r.flow := by
        refine Classical.byContradiction fun none => Bool.eq_false_iff.mp accepted ((s.accepts_iff e).mpr ⟨?_, ?_⟩)
        · rw [bound, ours]
        · exact fun r hr => UInt64.not_lt.mp fun older => none ⟨r, hr, older⟩
      rw [State.acceptStatus_of_not_accepts accepted]
      rw [stored] at h ⊢
      exact h.keep older
  · have unchanged : (s.acceptStatus e).records.get? server = s.records.get? server := by
      cases accepted : s.accepts e with
      | true => rw [State.get?_acceptStatus accepted, if_neg hs]
      | false => rw [State.acceptStatus_of_not_accepts accepted]
    rw [unchanged]
    refine h.congr fun r about => (or_iff_left ?_).symm
    rintro rfl
    exact hs about

theorem represents_applySnapshot (hU : Consistent U) (sub : ∀ r, A r → U r) {records : KeyMap StatusRecord}
    (keyed : Keyed records) (hrecords : ∀ server r, records.get? server = some r → U r) {server : String}
    (h : Represents A server (s.records.get? server)) :
    Represents (fun r => A r ∨ ∃ server, records.get? server = some r) server
      ((s.applySnapshot records).records.get? server) := by
  rw [State.get?_applySnapshot]
  cases hfound : records.get? server with
  | none =>
    refine h.congr fun r about => (or_iff_left ?_).symm
    rintro ⟨key, hr⟩
    rw [← keyed.serverId_eq hr, about, hfound] at hr
    cases hr
  | some found =>
    have merged := h.mergeRecord hU sub (hrecords server found hfound) (keyed.serverId_eq hfound)
    refine merged.congr fun r about => or_congr_right ⟨fun e : r = found => ⟨server, e ▸ hfound⟩, ?_⟩
    rintro ⟨key, hr⟩
    rw [← keyed.serverId_eq hr, about, hfound] at hr
    exact (Option.some.inj hr).symm

/-- A delivery adds its reports to those that the records represent. -/
theorem represents_receive (hU : Consistent U) (sub : ∀ r, A r → U r) (bound : s.space = some space) {d : Delivery}
    (hd : ∀ r, d.Reports space r → U r) (keyed : ∀ records, d = .snapshot records → Keyed records)
    (h : ∀ server, Represents A server (s.records.get? server)) (server : String) :
    Represents (fun r => A r ∨ d.Reports space r) server ((s.receive d).records.get? server) := by
  cases d with
  | status e =>
    by_cases ours : e.spaceId = space
    · have added := represents_acceptStatus hU sub bound ours (hd e.record ⟨ours, rfl⟩) (h server)
      exact added.congr fun r _ => or_congr_right ⟨fun e' => ⟨ours, e'.symm⟩, fun e' => e'.2.symm⟩
    · have foreign : s.space ≠ some e.spaceId := fun e' => ours (Option.some.inj (e'.symm.trans bound))
      rw [State.receive, State.acceptStatus_of_stale (Or.inl foreign)]
      exact (h server).congr fun r _ => (or_iff_left fun e' => ours e'.1).symm
  | progress e =>
    rw [State.receive, State.records_acceptProgress]
    exact (h server).congr fun r _ => (or_iff_left id).symm
  | features e =>
    rw [State.receive, State.records_acceptFeatures]
    exact (h server).congr fun r _ => (or_iff_left id).symm
  | snapshot records =>
    exact represents_applySnapshot hU sub (keyed records rfl) (fun key r hr => hd r ⟨key, hr⟩) (h server)

/-- Deliveries add all their reports. -/
theorem represents_receiveAll (hU : Consistent U) {ds : List Delivery} (hds : ∀ d ∈ ds, ∀ r, d.Reports space r → U r)
    (keyed : ∀ records, .snapshot records ∈ ds → Keyed records) (sub : ∀ r, A r → U r) (bound : s.space = some space)
    (h : ∀ server, Represents A server (s.records.get? server)) (server : String) :
    Represents (fun r => A r ∨ ∃ d ∈ ds, d.Reports space r) server ((s.receiveAll ds).records.get? server) := by
  induction ds generalizing s A with
  | nil => exact (h server).congr fun r _ => (or_iff_left fun ⟨d, hd, _⟩ => List.not_mem_nil hd).symm
  | cons d ds ih =>
    have hd := hds d List.mem_cons_self
    have first := represents_receive hU sub bound hd (fun records e => keyed records (e ▸ List.mem_cons_self)) h
    have rest := ih (fun d' hd' => hds d' (List.mem_cons_of_mem _ hd'))
      (fun records hr => keyed records (List.mem_cons_of_mem _ hr))
      (fun r hr => hr.elim (sub r) (hd r)) ((s.space_receive d).trans bound) first
    refine rest.congr fun r _ => ?_
    simp only [List.mem_cons, exists_eq_or_imp, or_assoc]

end Deliveries

/-! ## Reports of one binding -/

/-- The status reports of one binding: the events of its space, and its snapshot. -/
structure Reports where
  events : List StatusChanged
  snapshot : KeyMap StatusRecord

namespace Reports

/-- The records that are reported. -/
def all (R : Reports) : List StatusRecord :=
  R.events.map StatusChanged.record ++ R.snapshot.entries.map Prod.snd

theorem mem_all {R : Reports} {r : StatusRecord} :
    r ∈ R.all ↔ (∃ e ∈ R.events, e.record = r) ∨ ∃ server, R.snapshot.get? server = some r := by
  rw [all, List.mem_append, List.mem_map, List.mem_map]
  refine or_congr_right ⟨?_, ?_⟩
  · rintro ⟨⟨server, _⟩, h, rfl⟩
    exact ⟨server, (R.snapshot.get?_eq_some_iff _ _).mpr h⟩
  · rintro ⟨server, h⟩
    exact ⟨(server, r), (R.snapshot.get?_eq_some_iff _ _).mp h, rfl⟩

/-- Reports about `space`, of which two about the same flow of a server say the same, and none takes back that a server
was connected before. -/
structure Coherent (R : Reports) (space : Uuid) : Prop where
  ours : ∀ e ∈ R.events, e.spaceId = space
  keyed : Keyed R.snapshot
  agree : ∀ r ∈ R.all, ∀ r' ∈ R.all, r.serverId = r'.serverId → r.flow = r'.flow →
    r.status = r'.status ∧ r.message = r'.message ∧ r.hasConnectedBefore = r'.hasConnectedBefore
  lasting : ∀ r ∈ R.all, ∀ r' ∈ R.all, r.serverId = r'.serverId → r.flow < r'.flow →
    r.hasConnectedBefore = true → r'.hasConnectedBefore = true

theorem Coherent.consistent {R : Reports} {space : Uuid} (h : R.Coherent space) : Consistent (· ∈ R.all) := by
  refine ⟨fun r r' hr hr' same flow => ?_, fun r r' hr hr' same older => ?_⟩
  · obtain ⟨status, message, before⟩ := h.agree r hr r' hr' same flow
    cases r
    cases r'
    simp_all
  · rcases UInt64.lt_or_eq_of_le older with lt | eq
    · exact h.lasting r hr r' hr' same lt
    · rw [(h.agree r hr r' hr' same eq).2.2]
      exact id

end Reports

/-- The snapshot that a delivery brings. -/
def Delivery.snapshot? : Delivery → Option (KeyMap StatusRecord)
  | .snapshot records => some records
  | _ => none

/-- Deliveries that bring every event of the reports at least once, no other status event of the space, and the snapshot
exactly once, all in any order; what they bring besides is open. -/
structure Reports.Delivered (R : Reports) (space : Uuid) (ds : List Delivery) : Prop where
  complete : ∀ e ∈ R.events, .status e ∈ ds
  only : ∀ e, .status e ∈ ds → e.spaceId = space → e ∈ R.events
  snapshot : ds.filterMap Delivery.snapshot? = [R.snapshot]

section Converge

variable {R : Reports} {space : Uuid} {ds : List Delivery}

theorem Reports.Delivered.snapshot_mem_iff (h : R.Delivered space ds) (records : KeyMap StatusRecord) :
    .snapshot records ∈ ds ↔ records = R.snapshot := by
  have brought : records ∈ ds.filterMap Delivery.snapshot? ↔ .snapshot records ∈ ds := by
    rw [List.mem_filterMap]
    constructor
    · rintro ⟨d, hd, h⟩
      cases d with
      | snapshot records' => cases h; exact hd
      | status e => cases h
      | progress e => cases h
      | features e => cases h
    · exact fun h => ⟨_, h, rfl⟩
  rw [← brought, h.snapshot, List.mem_singleton]

/-- The deliveries bring what is reported. -/
theorem Reports.Delivered.reports_iff (h : R.Delivered space ds) (coherent : R.Coherent space) (r : StatusRecord) :
    (∃ d ∈ ds, d.Reports space r) ↔ r ∈ R.all := by
  rw [Reports.mem_all]
  constructor
  · rintro ⟨d, hd, hr⟩
    cases d with
    | status e => exact Or.inl ⟨e, h.only e hd hr.1, hr.2⟩
    | snapshot records => exact Or.inr ((h.snapshot_mem_iff records).mp hd ▸ hr)
    | progress e => exact hr.elim
    | features e => exact hr.elim
  · rintro (⟨e, he, hr⟩ | hr)
    · exact ⟨.status e, h.complete e he, coherent.ours e he, hr⟩
    · exact ⟨.snapshot R.snapshot, (h.snapshot_mem_iff _).mpr rfl, hr⟩

/-- After all deliveries the records are the newest reports. -/
theorem newest_of_delivered (coherent : R.Coherent space) (s : State) (hd : R.Delivered space ds) (server : String)
    (r : StatusRecord) :
    ((s.bind space).receiveAll ds).records.get? server = some r ↔ Newest (· ∈ R.all) server r := by
  have hU := coherent.consistent
  have brought := hd.reports_iff coherent
  have all := represents_receiveAll (A := fun _ => False) (s := s.bind space) hU
    (fun d hd' r hr => (brought r).mp ⟨d, hd', hr⟩)
    (fun records hr => (hd.snapshot_mem_iff records).mp hr ▸ coherent.keyed)
    (fun _ h => h.elim) rfl (fun _ _ h => h.elim) server
  have newest := all.congr (B := (· ∈ R.all)) fun r _ => by rw [false_or, brought]
  exact newest.eq_some_iff hU r

/-- **Convergence.** Whatever the order and the number of deliveries, a binding ends with the same records once every
report has come: of each server the one of the largest flow. -/
theorem records_converge (coherent : R.Coherent space) (s : State) {es : List Delivery} (hd : R.Delivered space ds)
    (he : R.Delivered space es) :
    ((s.bind space).receiveAll ds).records = ((s.bind space).receiveAll es).records ∧
    ∀ server r, ((s.bind space).receiveAll ds).records.get? server = some r ↔ Newest (· ∈ R.all) server r := by
  refine ⟨KeyMap.ext fun server => ?_, newest_of_delivered coherent s hd⟩
  ext r
  rw [newest_of_delivered coherent s hd, newest_of_delivered coherent s he]

end Converge

/-! ## A server that connects while the snapshot is on its way -/

def connectingGh : StatusChanged := ⟨⟨1⟩, "gh", .connecting, 1, false, none⟩

def connectsGh : StatusChanged := ⟨⟨1⟩, "gh", .connected, 2, true, none⟩

def handshake : Reports where
  events := [connectingGh, connectsGh]
  snapshot := (KeyMap.empty.insert "gh" connectingGh.record).insert "fs" ⟨"fs", .disconnected, 0, true, none⟩

/-- The events in order, and the snapshot last. -/
def ordered : List Delivery := [.status connectingGh, .status connectsGh, .snapshot handshake.snapshot]

/-- The events in the wrong order and twice, with the snapshot and an event of another space among them. -/
def disordered : List Delivery :=
  [.status connectsGh, .status connectingGh, .progress ⟨⟨1⟩, "gh", 30, 1⟩, .snapshot handshake.snapshot,
    .status (errorEvent ⟨2⟩ 9), .status connectingGh, .status connectsGh]

theorem handshake_converges :
    handshake.Coherent ⟨1⟩ ∧ handshake.Delivered ⟨1⟩ ordered ∧ handshake.Delivered ⟨1⟩ disordered ∧
    ((State.bind {} ⟨1⟩).receiveAll ordered).records = ((State.bind {} ⟨1⟩).receiveAll disordered).records ∧
    Newest (· ∈ handshake.all) "gh" connectsGh.record := by
  have coherent : handshake.Coherent ⟨1⟩ := ⟨by decide, by decide, by decide, by decide⟩
  have hd : handshake.Delivered ⟨1⟩ ordered := ⟨by decide, by simp [ordered, handshake], rfl⟩
  have he : handshake.Delivered ⟨1⟩ disordered := by
    refine ⟨by decide, fun e he ours => ?_, rfl⟩
    have he : e = connectsGh ∨ e = connectingGh ∨ e = errorEvent ⟨2⟩ 9 ∨ e = connectingGh ∨ e = connectsGh := by
      simpa [disordered] using he
    rcases he with rfl | rfl | rfl | rfl | rfl
    · decide
    · decide
    · cases ours
    · decide
    · decide
  obtain ⟨same, newest⟩ := records_converge coherent {} hd he
  exact ⟨coherent, hd, he, same, (newest "gh" _).mp (by decide)⟩

end Switchboard.Connection
