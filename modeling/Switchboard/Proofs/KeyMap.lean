import Switchboard.KeyMap

/-!
# Entries and look-ups

No key occurs twice among the entries of a `KeyMap` (`nodup_keys`), so a value is found under a key iff the pair is an
entry (`get?_eq_some_iff`). For a plain list of entries with distinct keys the same holds in any order of the entries
(`find_eq_some_iff`, `find_perm`); of entries under one key the first counts (`find_eq_some_iff_append`).
-/

namespace Switchboard.KeyMap

universe u

variable {α : Type u}

/-- The keys of a map are distinct. -/
theorem nodup_keys (m : KeyMap α) : (m.entries.map Prod.fst).Nodup := by
  rw [List.Nodup, List.pairwise_map]
  refine m.ascending.imp fun {a b} h e => ?_
  rw [e] at h
  exact String.lt_irrefl _ h

theorem mem_of_find {key : String} {entries : List (String × α)} {a : α}
    (h : find key entries = some a) : (key, a) ∈ entries := by
  induction entries with
  | nil => cases h
  | cons head rest ih =>
    obtain ⟨k, b⟩ := head
    rw [find] at h
    split at h
    · rename_i own
      cases h
      rw [own]
      exact List.mem_cons_self
    · exact List.mem_cons_of_mem _ (ih h)

/-- What is found is the first value under the key. -/
theorem find_eq_some_iff_append {key : String} {entries : List (String × α)} {a : α} : find key entries = some a ↔
    ∃ before after, entries = before ++ (key, a) :: after ∧ ∀ e ∈ before, e.1 ≠ key := by
  have is_find : find key entries = (entries.find? fun e => e.1 == key).map Prod.snd := by
    induction entries with
    | nil => rfl
    | cons e rest ih =>
      rw [find, ih]
      by_cases own : e.1 = key <;> simp [own]
  rw [is_find, Option.map_eq_some_iff]
  constructor
  · rintro ⟨⟨k, b⟩, found, rfl⟩
    obtain ⟨own, before, after, rfl, first⟩ := List.find?_eq_some_iff_append.mp found
    cases eq_of_beq own
    exact ⟨before, after, rfl, fun e he => by simpa using first e he⟩
  · rintro ⟨before, after, rfl, first⟩
    refine ⟨(key, a), List.find?_eq_some_iff_append.mpr ⟨beq_self_eq_true key, before, after, rfl, ?_⟩, rfl⟩
    exact fun e he => by simpa using first e he

theorem find_append (key : String) (entries others : List (String × α)) :
    find key (entries ++ others) = (find key entries).or (find key others) := by
  induction entries with
  | nil => rfl
  | cons e rest ih =>
    simp only [List.cons_append, find, ih]
    split <;> rfl

/-- Among entries with distinct keys, what is found is what is there. -/
theorem find_eq_some_iff {entries : List (String × α)} (distinct : (entries.map Prod.fst).Nodup) (key : String)
    (value : α) : find key entries = some value ↔ (key, value) ∈ entries := by
  induction entries with
  | nil => simp [find]
  | cons head rest ih =>
    obtain ⟨k, a⟩ := head
    rw [List.map_cons, List.nodup_cons] at distinct
    by_cases hk : k = key
    · subst hk
      have absent : (k, value) ∉ rest := fun h => distinct.1 (List.mem_map.mpr ⟨_, h, rfl⟩)
      simp [find, absent, eq_comm]
    · have hne : (key, value) ≠ (k, a) := fun e => hk (congrArg Prod.fst e).symm
      rw [find, if_neg hk, ih distinct.2, List.mem_cons, or_iff_right hne]

/-- The order of entries with distinct keys does not matter to look-ups. -/
theorem find_perm {entries others : List (String × α)} (perm : entries.Perm others)
    (distinct : (entries.map Prod.fst).Nodup) (key : String) : find key entries = find key others := by
  have distinct' : (others.map Prod.fst).Nodup := (perm.map Prod.fst).nodup_iff.mp distinct
  ext value
  rw [find_eq_some_iff distinct, find_eq_some_iff distinct', perm.mem_iff]

theorem get?_eq_some_iff (m : KeyMap α) (key : String) (value : α) :
    m.get? key = some value ↔ (key, value) ∈ m.entries := find_eq_some_iff m.nodup_keys key value

/-- Erasing a key that is absent changes nothing. -/
theorem erase_of_absent {m : KeyMap α} {key : String} (absent : m.contains key = false) : m.erase key = m := by
  refine ext fun other => ?_
  rw [get?_erase]
  split
  · rename_i own
    rw [← own]
    exact (Option.isNone_iff_eq_none.mp (Option.isSome_eq_false_iff.mp absent)).symm
  · rfl

end Switchboard.KeyMap
