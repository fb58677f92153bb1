import Switchboard.Proofs.Catalog.Merge
import Switchboard.Registry.Store

/-!
# Names in notes

How a mutation went is told in one note, which names the server (`notes_finishMutation`). Notes and rows look a name up
on their own. Both take that of the first definition in the catalog. For a server that the catalog does not know, a note
takes the name of its first installation, and the row that of the snapshot of its last one, or else the name of that
installation. So they agree iff these two names are the same (`named_as_row_iff`); with two installations of one server
they need not be (`reinstalled_misnamed`).
-/

namespace Switchboard.Registry

open Backend (Rejection Reply)
open Catalog (Row lastOf?)

/-- What the user is told of a mutation, with the name of the server. -/
def Mutation.note (m : Mutation) (space : Uuid) (name : String) : Except Rejection Unit → Note
  | .ok () => .success (m.verb ++ " " ++ name)
  | .error r => .error ((m.call space).command ++ " failed for " ++ name ++ ": " ++ r.message)

namespace State

variable {s : State}

theorem notes_beginRefresh (s : State) (notes : List Note) : (s.beginRefresh notes).notes = notes := by
  unfold beginRefresh
  split <;> rfl

/-- The user is told once how a mutation went. -/
theorem notes_finishMutation (s : State) (m : Mutation) (space : Uuid) (reply : Reply) :
    (s.finishMutation m space reply).notes = [m.note space (s.serverName m.server) (m.read space reply)] := by
  unfold finishMutation
  cases m.read space reply with
  | ok => exact notes_beginRefresh _ _
  | error r => rfl

/-- The name of a server of the catalog is that of its first definition. -/
theorem serverName_of_listed {server : String} {d : Definition}
    (first : s.definitions.find? (fun d => d.id == server) = some d) : s.serverName server = d.name := by
  rw [serverName, first]

/-- The name of any other server is that of its first installation. -/
theorem serverName_of_unlisted {server : String} {i : Installation}
    (unlisted : server ∉ s.definitions.map Definition.id)
    (first : s.installed.find? (fun i => i.serverId == server) = some i) : s.serverName server = i.displayName := by
  have none : s.definitions.find? (fun d => d.id == server) = none := by
    rw [List.find?_eq_none]
    intro d hd own
    exact unlisted (beq_iff_eq.mp own ▸ List.mem_map_of_mem hd)
  rw [serverName, none, first]

end State

section

variable {definitions : List Definition} {installed : List Installation} {r : Row}

/-- A row of an installation has the name of its snapshot, or else its own. -/
theorem name_of_unlisted (shown : r.Joins definitions installed) (unlisted : r.id ∉ definitions.map Definition.id) :
    ∃ last, lastOf? installed r.id = some last ∧
      r.name = (last.definition?.map Definition.name).getD last.displayName := by
  obtain ⟨last, found, -, definition⟩ := shown.unlisted unlisted
  refine ⟨last, found, ?_⟩
  rw [Row.name, definition]
  cases last.definition? <;> rfl

/-- A server with a last installation has a first one. -/
theorem exists_first {server : String} {last : Installation} (found : lastOf? installed server = some last) :
    ∃ first, installed.find? (fun i => i.serverId == server) = some first := by
  obtain ⟨i, hi, own⟩ := Catalog.isSome_lastOf?_iff.mp (Option.isSome_iff_exists.mpr ⟨last, found⟩)
  exact Option.isSome_iff_exists.mp (List.find?_isSome.mpr ⟨i, hi, beq_iff_eq.mpr own⟩)

end

/-- **When notes name a server as its row does.** The one note of a mutation names the server by `serverName`. For a
server with a row this is the name of the row iff the catalog knows the server, or the name of its first installation is
that in the snapshot of its last one, which without a readable snapshot is the name of the last installation. -/
theorem named_as_row_iff {s : State} {r : Row} (shown : r ∈ s.rows) :
    (∀ (m : Mutation) (space : Uuid) (reply : Reply), m.server = r.id →
      (s.finishMutation m space reply).notes = [m.note space (s.serverName r.id) (m.read space reply)]) ∧
    (s.serverName r.id = r.name ↔ r.id ∈ s.definitions.map Definition.id ∨
      ∃ first last, s.installed.find? (fun i => i.serverId == r.id) = some first ∧
        lastOf? s.installed r.id = some last ∧
        first.displayName = (last.definition?.map Definition.name).getD last.displayName) := by
  refine ⟨fun m space reply own => own ▸ s.notes_finishMutation m space reply, ?_⟩
  have joins := Catalog.joins_of_mem_merge shown
  by_cases listed : r.id ∈ s.definitions.map Definition.id
  · refine iff_of_true ?_ (Or.inl listed)
    obtain ⟨d', hd', own⟩ := List.mem_map.mp listed
    obtain ⟨d, first⟩ := Option.isSome_iff_exists.mp
      (List.find?_isSome (p := fun d => d.id == r.id).mpr ⟨d', hd', beq_iff_eq.mpr own⟩)
    rw [State.serverName_of_listed first, Row.name, (joins.listed d first).1]
  · rw [or_iff_right listed]
    obtain ⟨last, found, name⟩ := name_of_unlisted joins listed
    obtain ⟨first, known⟩ := exists_first found
    rw [State.serverName_of_unlisted listed known, name]
    constructor
    · exact fun same => ⟨first, last, known, found, same⟩
    · rintro ⟨first', last', known', found', same⟩
      rw [known] at known'
      rw [found] at found'
      cases known'
      cases found'
      exact same

/-- A server of the catalog, which is installed twice. -/
def listedTwice : State := { definitions := Catalog.twins, installed := Catalog.crowded }

theorem listedTwice_named :
    ∃ r ∈ listedTwice.rows, r.id = "gh" ∧ r.name = "GitHub" ∧
      (listedTwice.finishMutation (.uninstall "gh") .nil (.ok .null)).notes = [.success "Uninstalled GitHub"] ∧
      listedTwice.serverName r.id = r.name := by
  have shown : (listedTwice.rows.find? fun r => r.id == "gh").map Row.name = some "GitHub" := by decide +kernel
  obtain ⟨r, found, name⟩ := Option.map_eq_some_iff.mp shown
  have mem := List.mem_of_find?_eq_some found
  have own : r.id = "gh" := by simpa using List.find?_some found
  obtain ⟨notes, named⟩ := named_as_row_iff mem
  have same := named.mpr (Or.inl (by rw [own]; decide))
  refine ⟨r, mem, own, name, ?_, same⟩
  rw [notes (.uninstall "gh") .nil (.ok .null) own.symm, same, name]
  rfl

/-- A server that is installed twice, under different names, and not in the catalog. -/
def reinstalled : State where
  installed := [
    { Installation.create .nil .epoch "home" "gh" with serverName := some "First" },
    { Installation.create .nil .epoch "home" "gh" with serverName := some "Second" }]

/-- A note need not name a server as its row does. -/
theorem reinstalled_misnamed : ¬ ∀ (s : State) (r : Row), r ∈ s.rows → s.serverName r.id = r.name := by
  intro same
  have shown : (reinstalled.rows.find? fun r => r.id == "gh").map Row.name = some "Second" := by decide
  obtain ⟨r, found, name⟩ := Option.map_eq_some_iff.mp shown
  have own : r.id = "gh" := by simpa using List.find?_some found
  have named : reinstalled.serverName "gh" = "Second" := by
    rw [← name, ← own]
    exact same reinstalled r (List.mem_of_find?_eq_some found)
  have first : reinstalled.serverName "gh" = "First" := by decide
  rw [first] at named
  exact absurd named (by decide)

end Switchboard.Registry
