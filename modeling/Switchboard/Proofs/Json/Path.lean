import Switchboard.Json.Path
import Switchboard.Proofs.KeyMap

/-!
# Paths compose

A path spells one list of keys and no other (`spells_iff`), and a path with another one behind a dot spells the keys of
both (`segments_dot`). What keys lead to is said by `Leads`, one step into an object for each key; `walk` finds just
that (`walk_eq_some_iff`), and goes on from where it has come to (`walk_append`). So a part of a part is a part of the
whole, under the path that joins the two (`paths_compose`).
-/

namespace Switchboard.Json

/-! ## The keys of a path -/

/-- A path spells these keys: there is at least one, none has a dot in it, and dots join them to the path. -/
structure Spells (path : String) (keys : List String) : Prop where
  nonempty : keys ≠ []
  dotless : ∀ key ∈ keys, '.' ∉ key.toList
  joined : ".".intercalate keys = path

theorem segmentsOf_eq_splitOn (cs : List Char) : segmentsOf cs = cs.splitOn '.' := by
  induction cs with
  | nil => rfl
  | cons c rest ih =>
    rw [segmentsOf, ih, List.splitOn_cons_eq_if_modifyHead]
    cases split : rest.splitOn '.' with
    | nil => exact absurd split (List.splitOn_ne_nil _ _)
    | cons first more => simp only [beq_iff_eq, List.modifyHead_cons]

theorem dotless_splitOn {cs part : List Char} (mem : part ∈ cs.splitOn '.') : '.' ∉ part := by
  induction cs generalizing part with
  | nil =>
    cases List.mem_singleton.mp mem
    exact List.not_mem_nil
  | cons c rest ih =>
    rw [List.splitOn_cons_eq_if_modifyHead] at mem
    cases split : rest.splitOn '.' with
    | nil => exact absurd split (List.splitOn_ne_nil _ _)
    | cons first more =>
      rw [split] at mem ih
      split at mem
      · rcases List.mem_cons.mp mem with rfl | old
        · exact List.not_mem_nil
        · exact ih old
      · rename_i other
        rcases List.mem_cons.mp mem with rfl | old
        · rw [List.mem_cons, not_or]
          exact ⟨fun dot => other (beq_iff_eq.mpr dot.symm), ih List.mem_cons_self⟩
        · exact ih (List.mem_cons_of_mem _ old)

theorem map_toList_segments (path : String) : (segments path).map String.toList = path.toList.splitOn '.' := by
  rw [segments, segmentsOf_eq_splitOn, List.map_map]
  exact (List.map_congr_left fun _ _ => String.toList_ofList).trans (List.map_id _)

/-- A path spells its segments. -/
theorem spells_segments (path : String) : Spells path (segments path) where
  nonempty none := by
    have parts := map_toList_segments path
    rw [none] at parts
    exact List.splitOn_ne_nil _ _ parts.symm
  dotless key mem := by
    have part := List.mem_map_of_mem (f := String.toList) mem
    rw [map_toList_segments] at part
    exact dotless_splitOn part
  joined := by
    rw [← String.toList_inj, String.toList_intercalate, map_toList_segments]
    exact List.intercalate_splitOn '.'

/-- A path spells nothing but its segments. -/
theorem spells_iff {path : String} {keys : List String} : Spells path keys ↔ keys = segments path := by
  refine ⟨fun h => ?_, fun h => h ▸ spells_segments path⟩
  have parts : path.toList.splitOn '.' = keys.map String.toList := by
    rw [← h.joined, String.toList_intercalate]
    refine List.splitOn_intercalate '.' (fun part mem => ?_) fun none => h.nonempty (List.map_eq_nil_iff.mp none)
    obtain ⟨key, held, rfl⟩ := List.mem_map.mp mem
    exact h.dotless key held
  rw [← map_toList_segments] at parts
  exact ((List.map_inj_right fun _ _ => String.toList_injective).mp parts).symm

theorem Spells.append {p q : String} {keys more : List String} (hp : Spells p keys) (hq : Spells q more) :
    Spells (p ++ "." ++ q) (keys ++ more) where
  nonempty := List.append_ne_nil_of_left_ne_nil hp.nonempty _
  dotless key mem := (List.mem_append.mp mem).elim (hp.dotless key) (hq.dotless key)
  joined := by rw [String.intercalate_append_of_ne_nil hp.nonempty hq.nonempty, hp.joined, hq.joined]

/-- Two paths with a dot between them have the segments of both. -/
theorem segments_dot (p q : String) : segments (p ++ "." ++ q) = segments p ++ segments q :=
  (spells_iff.mp ((spells_segments p).append (spells_segments q))).symm

/-! ## Where keys lead -/

/-- What keys lead to, from a value: each key is held by an object, and the next step starts at what it holds. Where an
object repeats a key, its first member counts. -/
inductive Leads : Json → List String → Json → Prop
  | here (v : Json) : Leads v [] v
  | into {before after : List (String × Json)} {key : String} {u w : Json} {keys : List String}
      (first : ∀ m ∈ before, m.1 ≠ key) (on : Leads u keys w) :
      Leads (.obj (before ++ (key, u) :: after)) (key :: keys) w

theorem field?_eq_some_iff {key : String} {v u : Json} : v.field? key = some u ↔
    ∃ before after, v = .obj (before ++ (key, u) :: after) ∧ ∀ m ∈ before, m.1 ≠ key := by
  cases v with
  | obj members => simp only [field?, KeyMap.find_eq_some_iff_append, obj.injEq]
  | null | bool _ | num _ | str _ | arr _ | unreadable => simp [field?]

/-- A walk finds what the keys lead to. -/
theorem walk_eq_some_iff {keys : List String} {v w : Json} : v.walk keys = some w ↔ Leads v keys w := by
  induction keys generalizing v with
  | nil =>
    constructor
    · rintro ⟨⟩
      exact .here _
    · rintro ⟨⟩
      rfl
  | cons key rest ih =>
    rw [walk]
    constructor
    · intro found
      split at found
      · rename_i u held
        obtain ⟨before, after, rfl, first⟩ := field?_eq_some_iff.mp held
        exact .into first (ih.mp found)
      · cases found
    · rintro (_ | ⟨first, on⟩)
      rename_i before after u
      rw [field?_eq_some_iff.mpr ⟨before, after, rfl, first⟩]
      exact ih.mpr on

/-- A walk goes on from where it has come to. -/
theorem walk_append (v : Json) (keys more : List String) :
    v.walk (keys ++ more) = (v.walk keys).bind fun w => w.walk more := by
  induction keys generalizing v with
  | nil => rfl
  | cons key rest ih =>
    rw [List.cons_append, walk, walk]
    cases v.field? key with
    | some u => exact ih u
    | none => rfl

/-! ## Parts -/

theorem isNull_iff {v : Json} : v.isNull = true ↔ v = .null := by
  cases v <;> simp [isNull]

theorem resolve_eq_some_iff {v w : Json} {path : String} :
    v.resolve path = some w ↔ v.walk (segments path) = some w ∧ w ≠ .null := by
  rw [resolve]
  cases v.walk (segments path) with
  | none => exact ⟨nofun, fun found => found.1⟩
  | some u =>
    by_cases null : u = .null
    · subst null
      refine ⟨nofun, fun ⟨found, present⟩ => absurd ?_ present⟩
      exact (Option.some.inj found).symm
    · have present : u.isNull = false := Bool.eq_false_iff.mpr (mt isNull_iff.mp null)
      simp only [present, Bool.false_eq_true, if_false, Option.some.injEq]
      exact ⟨fun same => ⟨same, same ▸ null⟩, And.left⟩

/-- No path leads into null. -/
theorem resolve_null (path : String) : Json.null.resolve path = none := by
  rw [resolve]
  cases keys : segments path with
  | nil => exact absurd keys (spells_segments path).nonempty
  | cons key rest => rfl

/-- The part under two paths with a dot between them is the second one's part of the first one's part. -/
theorem resolve_dot (v : Json) (p q : String) :
    v.resolve (p ++ "." ++ q) = (v.resolve p).bind fun w => w.resolve q := by
  have whole : v.resolve (p ++ "." ++ q) = (v.walk (segments p)).bind fun w => w.resolve q := by
    rw [resolve, segments_dot, walk_append]
    cases v.walk (segments p) <;> rfl
  rw [whole]
  cases walked : v.walk (segments p) with
  | none => rw [resolve, walked]
  | some u =>
    -- a part that is null is as good as none: no path leads into it either
    by_cases null : u = .null
    · subst null
      rw [resolve, walked]
      exact resolve_null q
    · rw [resolve_eq_some_iff.mpr ⟨walked, null⟩]

/-- **Paths compose.** A path with another one behind a dot names, in the part that the first names, the part that the
second names, and nothing if the first names none. No path names null; a path names what its keys lead to, if that is
something else. -/
theorem paths_compose (v : Json) (p q : String) :
    v.resolve (p ++ "." ++ q) = (v.resolve p).bind (fun w => w.resolve q) ∧
    v.resolve p ≠ some .null ∧
    ∀ w, v.resolve p = some w ↔ ∃ keys, Spells p keys ∧ Leads v keys w ∧ w ≠ .null := by
  refine ⟨resolve_dot v p q, fun named => (resolve_eq_some_iff.mp named).2 rfl, fun w => ?_⟩
  rw [resolve_eq_some_iff, walk_eq_some_iff]
  constructor
  · exact fun ⟨leads, present⟩ => ⟨segments p, spells_segments p, leads, present⟩
  · rintro ⟨keys, spells, leads, present⟩
    exact ⟨spells_iff.mp spells ▸ leads, present⟩

end Switchboard.Json
