import Switchboard.Catalog.Row

/-!
# One row an id

What the rows of a catalog and its installations are, said without the way they are made: which ids there are and in
which order, and what a row with an id shows (`Row.Joins`). Of definitions with one id the first counts
(`find?_of_mem_distinctBy`), of installations the last (`latest?_eq`). Main statement: `merge_complete`.
-/

namespace Switchboard.Catalog

/-! ## Elements with distinct keys -/

section

variable {α : Type} (key : α → String)

/-- The elements whose key is new have every key that is new, once and where it comes first. -/
theorem map_distinctBy (seen : List String) (l : List α) :
    (distinctBy key seen l).map key = ((l.map key).removeAll seen).eraseDups := by
  induction l generalizing seen with
  | nil => rfl
  | cons a rest ih =>
    by_cases known : key a ∈ seen
    · simp [distinctBy, known, ih, List.removeAll]
    · have later : ((rest.map key).removeAll seen).filter (fun k => !k == key a) =
          (rest.map key).removeAll (key a :: seen) := by
        simp only [List.removeAll, List.filter_filter]
        apply List.filter_congr
        intro k _
        by_cases same : k = key a <;> simp [same]
      simp [distinctBy, known, ih, List.removeAll, List.eraseDups_cons] at later ⊢
      rw [later]

variable {key} {seen : List String} {l : List α} {a : α}

/-- An element whose key is new is the first one with its key. -/
theorem find?_of_mem_distinctBy (h : a ∈ distinctBy key seen l) :
    key a ∉ seen ∧ l.find? (fun b => key b == key a) = some a := by
  induction l generalizing seen with
  | nil => cases h
  | cons b rest ih =>
    rw [distinctBy] at h
    split at h
    · rename_i known
      obtain ⟨new, first⟩ := ih h
      have other : key b ≠ key a := by
        intro same
        rw [same] at known
        exact new (List.contains_iff_mem.mp known)
      exact ⟨new, by simp [other, first]⟩
    · rename_i unknown
      rcases List.mem_cons.mp h with rfl | h
      · exact ⟨fun mem => unknown (List.contains_iff_mem.mpr mem), by simp⟩
      · obtain ⟨new, first⟩ := ih h
        rw [List.mem_cons, not_or] at new
        exact ⟨new.2, by simp [Ne.symm new.1, first]⟩

end

/-- The keys of elements whose keys are new are distinct. -/
theorem nodup_map_distinctBy {α : Type} (key : α → String) (seen : List String) (l : List α) :
    ((distinctBy key seen l).map key).Nodup := by
  induction l generalizing seen with
  | nil => exact List.nodup_nil
  | cons a rest ih =>
    rw [distinctBy]
    split
    · exact ih seen
    · rw [List.map_cons, List.nodup_cons]
      refine ⟨fun mem => ?_, ih _⟩
      obtain ⟨b, hb, same⟩ := List.mem_map.mp mem
      exact (find?_of_mem_distinctBy hb).1 (same ▸ List.mem_cons_self)

/-! ## Rows -/

/-- The last of the installations of a server. -/
def lastOf? (installed : List Installation) (id : String) : Option Installation :=
  (installed.filter fun s => s.serverId == id).getLast?

theorem latest?_eq (installed : List Installation) (id : String) : latest? installed id = lastOf? installed id :=
  List.getLast?_filter.symm

/-- What a row shows of an installation, or of none. -/
structure Row.Records (r : Row) (s : Option Installation) : Prop where
  isInstalled : r.isInstalled = s.isSome
  enabled : r.enabled = (s.map Installation.enabled).getD false
  oauthConnected : r.oauthConnected = (s.map Installation.oauthConnected).getD false
  inputValues : r.inputValues = (s.map Installation.inputValues).getD .empty
  envOverrides : r.envOverrides = (s.map Installation.envOverrides).getD .empty
  argsAppend : r.argsAppend = (s.map Installation.argsAppend).getD []
  extraHeaders : r.extraHeaders = (s.map Installation.extraHeaders).getD .empty
  installedAt : r.installedAt = s.map Installation.createdAt

/-- **What a row with its id shows**, given a catalog and the installations of a space. -/
structure Row.Joins (definitions : List Definition) (installed : List Installation) (r : Row) : Prop where
  /-- A server of the catalog is shown by its first definition there. -/
  listed : ∀ d, definitions.find? (fun d => d.id == r.id) = some d → r.definition = d ∧ r.offline = false
  /-- Any other server is shown by the snapshot of its last installation, or by a placeholder if none can be read. -/
  unlisted : r.id ∉ definitions.map Definition.id → ∃ s, lastOf? installed r.id = some s ∧ r.offline = true ∧
    r.definition = (s.definition?.map fun d => { d with id := r.id }).getD (placeholder s)
  installed_iff : r.isInstalled = true ↔ ∃ s ∈ installed, s.serverId = r.id
  records : r.Records (lastOf? installed r.id)
  status : r.status = if r.enabled then .connecting else .disconnected
  /-- A required input of the transport is missing unless the last installation has a value for it that is not empty. -/
  missing_iff : r.missingRequiredInputs = true ↔ ∃ i ∈ r.definition.transport.metadata.inputs, i.required = true ∧
    ∀ s v, lastOf? installed r.id = some s → s.inputValues.get? i.id = some v → v = ""

theorem isSome_lastOf?_iff {installed : List Installation} {id : String} :
    (lastOf? installed id).isSome = true ↔ ∃ s ∈ installed, s.serverId = id := by
  rw [lastOf?, List.getLast?_filter, List.find?_isSome]
  simp

theorem serverId_of_lastOf? {installed : List Installation} {id : String} {s : Installation}
    (h : lastOf? installed id = some s) : s.serverId = id := by
  have mem := List.mem_of_getLast? h
  simpa using (List.mem_filter.mp mem).2

theorem records_of (d : Definition) (s : Option Installation) (offline : Bool) : (Row.of d s offline).Records s := by
  cases s <;> exact ⟨rfl, rfl, rfl, rfl, rfl, rfl, rfl, rfl⟩

theorem hasInput_eq_false_iff (s : Installation) (id : String) :
    s.hasInput id = false ↔ ∀ v, s.inputValues.get? id = some v → v = "" := by
  unfold Installation.hasInput
  cases s.inputValues.get? id with
  | none => simp
  | some v => simp

theorem missing_of (d : Definition) (s : Option Installation) (offline : Bool) :
    (Row.of d s offline).missingRequiredInputs = true ↔ ∃ i ∈ d.transport.metadata.inputs, i.required = true ∧
      ∀ t v, s = some t → t.inputValues.get? i.id = some v → v = "" := by
  have absent : ∀ i : Input, (!s.any fun t => t.hasInput i.id) = true ↔
      ∀ t v, s = some t → t.inputValues.get? i.id = some v → v = "" := by
    intro i
    cases s with
    | none => simp
    | some t =>
      rw [Option.any_some, Bool.not_eq_true', hasInput_eq_false_iff]
      constructor
      · rintro empty _ v ⟨⟩
        exact empty v
      · exact fun empty v => empty t v rfl
  simp only [Row.of, Definition.requiredInputs, Definition.inputs, List.any_eq_true, List.mem_filter, absent]
  constructor
  · rintro ⟨i, ⟨hi, required⟩, empty⟩
    exact ⟨i, hi, required, empty⟩
  · rintro ⟨i, hi, required, empty⟩
    exact ⟨i, ⟨hi, required⟩, empty⟩

section

variable {definitions : List Definition} {installed : List Installation}

/-- The row of a definition out of the catalog. -/
theorem joins_definition {d : Definition} (first : definitions.find? (fun e => e.id == d.id) = some d) :
    (Row.of d (lastOf? installed d.id) false).Joins definitions installed where
  listed e he := ⟨Option.some.inj (first.symm.trans he), rfl⟩
  unlisted unknown := absurd (List.mem_map_of_mem (List.mem_of_find?_eq_some first)) unknown
  installed_iff := isSome_lastOf?_iff
  records := records_of ..
  status := by rw [(records_of d _ false).enabled]; cases lastOf? installed d.id <;> rfl
  missing_iff := missing_of ..

theorem id_offlineDefinition (s : Installation) : (offlineDefinition s).id = s.serverId := by
  unfold offlineDefinition
  split <;> rfl

theorem offlineDefinition_eq (s : Installation) : offlineDefinition s =
    (s.definition?.map fun d => { d with id := s.serverId }).getD (placeholder s) := by
  unfold offlineDefinition
  cases s.definition? <;> rfl

/-- The row of an installation that the catalog does not know. -/
theorem joins_offline {s : Installation} (unknown : s.serverId ∉ definitions.map Definition.id)
    (last : lastOf? installed s.serverId = some s) :
    (Row.of (offlineDefinition s) (some s) true).Joins definitions installed := by
  have id : (Row.of (offlineDefinition s) (some s) true).id = s.serverId := id_offlineDefinition s
  refine ⟨fun d hd => ?_, fun _ => ⟨s, ?_, rfl, ?_⟩, ?_, ?_, rfl, ?_⟩
  · have known := List.mem_map_of_mem (f := Definition.id) (List.mem_of_find?_eq_some hd)
    have same := List.find?_some hd
    rw [beq_iff_eq.mp same, id] at known
    exact absurd known unknown
  · rw [id, last]
  · rw [id]
    exact offlineDefinition_eq s
  · rw [id, ← isSome_lastOf?_iff, last]
    exact ⟨fun _ => rfl, fun _ => rfl⟩
  · rw [id, last]
    exact records_of ..
  · rw [id, last]
    exact missing_of ..

theorem joins_of_mem_merge {r : Row} (h : r ∈ merge definitions installed) : r.Joins definitions installed := by
  rcases List.mem_append.mp h with h | h
  · obtain ⟨d, hd, rfl⟩ := List.mem_map.mp h
    rw [latest?_eq]
    exact joins_definition (find?_of_mem_distinctBy hd).2
  · obtain ⟨s, hs, rfl⟩ := List.mem_map.mp h
    obtain ⟨unknown, first⟩ := find?_of_mem_distinctBy hs
    obtain ⟨t, last⟩ := Option.isSome_iff_exists.mp
      (isSome_lastOf?_iff.mpr ⟨s, List.mem_of_find?_eq_some first, rfl⟩)
    have same := serverId_of_lastOf? last
    rw [offlineRow, latest?_eq, last]
    rw [← same] at unknown last
    exact joins_offline unknown last

theorem map_id_merge (definitions : List Definition) (installed : List Installation) :
    (merge definitions installed).map Row.id = (distinctBy Definition.id [] definitions).map Definition.id
      ++ (distinctBy Installation.serverId (definitions.map Definition.id) installed).map Installation.serverId := by
  rw [merge, List.map_append, List.map_map, List.map_map]
  congr 1
  apply List.map_congr_left
  intro s hs
  obtain ⟨-, first⟩ := find?_of_mem_distinctBy hs
  obtain ⟨t, last⟩ := Option.isSome_iff_exists.mp
    (isSome_lastOf?_iff.mpr ⟨s, List.mem_of_find?_eq_some first, rfl⟩)
  show (offlineRow installed s).id = s.serverId
  rw [offlineRow, latest?_eq, last]
  exact (id_offlineDefinition t).trans (serverId_of_lastOf? last)

end

/-- **Joining is complete and gives one row an id.** The ids are those of the definitions, where they come first, and
then those of the installations that have no definition, where they come first; no id comes twice; and every row shows
what there is under its id. -/
theorem merge_complete (definitions : List Definition) (installed : List Installation) :
    (merge definitions installed).map Row.id = (definitions.map Definition.id).eraseDups
      ++ ((installed.map Installation.serverId).removeAll (definitions.map Definition.id)).eraseDups ∧
    ((merge definitions installed).map Row.id).Nodup ∧
    ∀ r ∈ merge definitions installed, r.Joins definitions installed := by
  refine ⟨?_, ?_, fun r hr => joins_of_mem_merge hr⟩
  · have all : (definitions.map Definition.id).removeAll [] = definitions.map Definition.id :=
      List.filter_eq_self.mpr fun _ _ => rfl
    rw [map_id_merge, map_distinctBy, map_distinctBy, all]
  · rw [map_id_merge, List.nodup_append]
    refine ⟨nodup_map_distinctBy .., nodup_map_distinctBy .., ?_⟩
    rintro id mem _ mem' rfl
    obtain ⟨d, hd, rfl⟩ := List.mem_map.mp mem
    obtain ⟨s, hs, same⟩ := List.mem_map.mp mem'
    have known := List.mem_of_find?_eq_some (find?_of_mem_distinctBy hd).2
    exact (find?_of_mem_distinctBy hs).1 (same ▸ List.mem_map_of_mem known)

/-- A catalog with two definitions of one id. -/
def twins : List Definition := [{ id := "gh", name := "GitHub" }, { id := "gh", name := "Twin" }]

/-- A snapshot with the id of another server. -/
def mislabelled : String :=
  "\x7b\"id\":\"gh\",\"name\":\"Slack\",\"transport\":\x7b\"type\":\"stdio\",\"command\":\"\"\x7d\x7d"

/-- A server that is installed twice, and one that is not in the catalog. -/
def crowded : List Installation := [
  .create .nil .epoch "home" "gh", { Installation.create .nil .epoch "home" "gh" with enabled := true },
  { Installation.create .nil .epoch "home" "slack" with cachedDefinition := some mislabelled }]

theorem crowded_merge_complete :
    ∃ r ∈ merge twins crowded, r.id = "slack" ∧ r.name = "Slack" ∧ r.Joins twins crowded := by
  have shown : ((merge twins crowded).find? fun r => r.id == "slack").map Row.name = some "Slack" := by
    decide +kernel
  obtain ⟨r, found, name⟩ := Option.map_eq_some_iff.mp shown
  have mem := List.mem_of_find?_eq_some found
  exact ⟨r, mem, by simpa using List.find?_some found, name, (merge_complete twins crowded).2.2 r mem⟩

end Switchboard.Catalog
