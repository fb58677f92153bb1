import Switchboard.Catalog.Action
import Switchboard.Catalog.Display
import Switchboard.Proofs.Catalog.Order
import Switchboard.Proofs.Server.Definition

/-!
# Snapshots

An installation that carries the definition of its server as a snapshot is shown the same without the catalog
(`snapshot_lossless`): the definition is read back from the text, so both ways to join give the same row, but for the
mark that it is offline. Of a row's projection the mark is the part at the path `offline` and no other
(`resolve_offline`); whatever does not look there takes both rows alike (`alike_offline`).
-/

namespace Switchboard

/-! ## Paths of one segment -/

namespace Json

theorem segmentsOf_ne_nil (cs : List Char) : segmentsOf cs ≠ [] := by
  cases cs with
  | nil => nofun
  | cons c rest =>
    rw [segmentsOf]
    split
    · nofun
    · split <;> nofun

theorem eq_of_segmentsOf {cs s : List Char} (h : segmentsOf cs = [s]) : cs = s := by
  induction cs generalizing s with
  | nil =>
    cases h
    rfl
  | cons c rest ih =>
    rw [segmentsOf] at h
    split at h
    · rename_i none
      exact absurd none (segmentsOf_ne_nil rest)
    · rename_i first more whole
      split at h
      · cases h
      · cases h
        rw [ih whole]

/-- A path of one segment is its segment. -/
theorem eq_of_segments {path key : String} (h : segments path = [key]) : path = key := by
  rw [segments, List.map_eq_singleton_iff] at h
  obtain ⟨s, whole, rfl⟩ := h
  rw [← eq_of_segmentsOf whole, String.ofList_toList]

end Json

namespace Catalog

open Std

/-! ## The mark of a row -/

/-- The same row with another mark. -/
def Row.marked (r : Row) (b : Bool) : Row := { r with offline := b }

/-- The mark is the last member of the projection. -/
theorem exists_projection (r : Row) : ∃ members, KeyMap.find "offline" members = none ∧
    ∀ b, (r.marked b).projection = .obj (members ++ [("offline", .bool b)]) :=
  ⟨(r.projection.members?.getD []).dropLast, rfl, fun _ => rfl⟩

/-- The mark is at one path only. -/
theorem resolve_marked (r : Row) (b : Bool) {path : String} (other : path ≠ "offline") :
    (r.marked b).projection.resolve path = r.projection.resolve path := by
  obtain ⟨members, unmarked, projection⟩ := exists_projection r
  have same : (r.marked b).projection.walk (Json.segments path) =
      (r.marked r.offline).projection.walk (Json.segments path) := by
    rw [projection, projection]
    cases segments : Json.segments path with
    | nil => exact absurd (List.map_eq_nil_iff.mp segments) (Json.segmentsOf_ne_nil _)
    | cons key rest =>
      simp only [Json.walk, Json.field?, KeyMap.find_append]
      by_cases mark : key = "offline"
      · subst mark
        cases rest with
        | nil => exact absurd (Json.eq_of_segments segments) other
        | cons => simp only [unmarked, Option.none_or, KeyMap.find, if_true, Json.walk, Json.field?]
      · simp only [KeyMap.find, if_neg (Ne.symm mark)]
  rw [Json.resolve, same]
  rfl

/-- Rows that are found, filtered, ordered and acted upon alike, as far as nothing looks at the mark. -/
structure Row.Alike (r s : Row) : Prop where
  search : ∀ query, r.matchesQuery query = s.matchesQuery query
  filters : ∀ (config : Config) filterId optionId,
    (∀ m, config.rule? filterId optionId = some m → m.field ≠ "offline") →
    passes config r.projection filterId optionId = passes config s.projection filterId optionId
  orders : ∀ (rules : List Rule) other, (∀ rule ∈ rules, rule.field ≠ "offline") →
    compareRows rules r other = compareRows rules s other ∧ compareRows rules other r = compareRows rules other s
  action : ∀ reported, r.action reported = s.action reported

theorem compare_marked {rule : Rule} (blind : rule.field ≠ "offline") (r other : Row) (b : Bool) :
    rule.compareRows (r.marked b) other = rule.compareRows r other := by
  rw [Rule.compareRows, Rule.compareRows, Rule.compare, Rule.compare, resolve_marked r b blind]

theorem compareRows_marked {rules : List Rule} (blind : ∀ rule ∈ rules, rule.field ≠ "offline") (r other : Row)
    (b : Bool) : compareRows rules (r.marked b) other = compareRows rules r other := by
  induction rules with
  | nil => rfl
  | cons rule rest ih =>
    obtain ⟨first, others⟩ := List.forall_mem_cons.mp blind
    have by_first := compare_marked first r other b
    rw [Rule.compareRows, Rule.compareRows] at by_first
    rw [compareRows, compareRows, compareBy, compareBy, by_first]
    exact congrArg _ (ih others)

theorem alike_marked (r : Row) (b : Bool) : (r.marked b).Alike r := by
  constructor
  · exact fun _ => rfl
  · intro config filterId optionId blind
    unfold passes
    cases rule : config.rule? filterId optionId with
    | none => rfl
    | some m => simp only [Match.holds, resolve_marked r b (blind m rule)]
  · intro rules other blind
    have order := transCmp_compareRows rules
    have swap : ∀ s : Row, compareRows rules other s = (compareRows rules s other).swap := fun _ => OrientedCmp.eq_swap
    rw [swap, swap, compareRows_marked blind]
    exact ⟨rfl, rfl⟩
  · exact fun _ => rfl

/-! ## Joining with a snapshot -/

theorem cached?_withDefinition (s : Installation) (d : Definition) : (s.withDefinition d).cached? = some (some d) := by
  simp only [Installation.cached?, Installation.withDefinition, Option.map_some, d.read?_compact,
    Definition.decode_toJson]
  rfl

/-- **A snapshot loses nothing.** It is read back as the definition it was made of; and the row that it gives without
the catalog is the row that the definition gives, but for the mark, so both are taken alike by whatever does not look
at the mark. -/
theorem snapshot_lossless (d : Definition) (s : Installation) (own : s.serverId = d.id) :
    (s.withDefinition d).cached? = some (some d) ∧
    ∃ r, merge [d] [s.withDefinition d] = [r] ∧ r.offline = false ∧
      merge [] [s.withDefinition d] = [{ r with offline := true }] ∧ Row.Alike { r with offline := true } r := by
  have cached := cached?_withDefinition s d
  have id : (s.withDefinition d).serverId = d.id := own
  have last : latest? [s.withDefinition d] d.id = some (s.withDefinition d) := by simp [latest?, id]
  refine ⟨cached, Row.of d (some (s.withDefinition d)) false, ?_, rfl, ?_, alike_marked _ true⟩
  · simp [merge, distinctBy, id, last]
  · have shown : offlineDefinition (s.withDefinition d) = d := by
      rw [offlineDefinition, Installation.definition?, cached, id]
      rfl
    show [offlineRow [s.withDefinition d] (s.withDefinition d)] = _
    rw [offlineRow, id, last, Option.getD_some, shown]
    rfl

/-- A definition with characters that are escaped, and of a kind of transport, auth and source each. -/
def awkward : Definition where
  id := "awkward"
  name := "tab\t \"quote\" back\\slash \x01 ☃"
  auth := some (.apiKey (some "line\nbreak"))
  transport := .http "https://example.org" (.ofList [("k\x00", "v\x7f")]) ⟨[{ id := "key", label := "Key" }]⟩
  source := .userSpace "home" "/tmp/ü"

theorem awkward_snapshot_lossless :
    ((Installation.create .nil .epoch "home" "awkward").withDefinition awkward).cached? = some (some awkward) :=
  (snapshot_lossless awkward (.create .nil .epoch "home" "awkward") rfl).1

end Catalog

end Switchboard
