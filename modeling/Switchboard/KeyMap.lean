/-!
# Finite maps with text keys

`KeyMap α` holds its entries in strictly ascending key order, so two maps are equal exactly when they hold the
same values under the same keys (`KeyMap.ext`). Order of insertion leaves no trace, and iteration is by key.

Main statements: `get?_insert` and `get?_erase` say what one write does to every look-up; `ext` turns equality of
look-ups into equality of maps.
-/

namespace Switchboard

universe u v

/-- Entries whose keys ascend strictly. -/
def Ascending {α : Type u} (entries : List (String × α)) : Prop :=
  entries.Pairwise fun a b => a.1 < b.1

/-- A finite map from text keys. -/
structure KeyMap (α : Type u) where
  /-- The entries, by ascending key. -/
  entries : List (String × α)
  /-- No key occurs twice. -/
  ascending : Ascending entries

namespace KeyMap

variable {α : Type u} {β : Type v}

/-! ## Entries -/

/-- The first value under `key`. -/
def find (key : String) : List (String × α) → Option α
  | [] => none
  | (k, a) :: rest => if k = key then some a else find key rest

/-- Writes `value` under `key`, at its place in the order. -/
def put (key : String) (value : α) : List (String × α) → List (String × α)
  | [] => [(key, value)]
  | (k, a) :: rest =>
    if key < k then (key, value) :: (k, a) :: rest
    else if key = k then (key, value) :: rest
    else (k, a) :: put key value rest

/-- Removes what is stored under `key`. -/
def drop (key : String) (entries : List (String × α)) : List (String × α) :=
  entries.filter fun e => e.1 != key

theorem mem_put {key : String} {value : α} {entries : List (String × α)} {e : String × α}
    (h : e ∈ put key value entries) : e = (key, value) ∨ e ∈ entries := by
  induction entries with
  | nil => simpa [put] using h
  | cons head rest ih =>
    obtain ⟨k, a⟩ := head
    simp only [put] at h
    split at h
    · simpa using h
    · split at h
      · rcases List.mem_cons.mp h with h | h
        · exact Or.inl h
        · exact Or.inr (List.mem_cons_of_mem _ h)
      · rcases List.mem_cons.mp h with h | h
        · exact Or.inr (h ▸ List.mem_cons_self)
        · exact (ih h).imp_right (List.mem_cons_of_mem _)

theorem ascending_put {key : String} {value : α} {entries : List (String × α)} (h : Ascending entries) :
    Ascending (put key value entries) := by
  induction entries with
  | nil => simp [put, Ascending]
  | cons head rest ih =>
    obtain ⟨k, a⟩ := head
    obtain ⟨hk, hr⟩ := List.pairwise_cons.mp h
    simp only [put]
    split
    · rename_i hlt
      refine List.pairwise_cons.mpr ⟨fun e he => ?_, h⟩
      rcases List.mem_cons.mp he with rfl | he
      · exact hlt
      · exact String.lt_trans hlt (hk e he)
    · split
      · rename_i heq
        exact List.pairwise_cons.mpr ⟨fun e he => heq ▸ hk e he, hr⟩
      · rename_i hlt hne
        refine List.pairwise_cons.mpr ⟨fun e he => ?_, ih hr⟩
        rcases mem_put he with rfl | he
        · rcases String.le_total k key with hle | hle
          · exact Classical.byContradiction fun hn => hne (String.le_antisymm (String.not_lt.mp hn) hle)
          · exact absurd (String.le_antisymm (String.not_lt.mp hlt) hle) (fun e => hne e.symm)
        · exact hk e he

theorem find_eq_none {key : String} {entries : List (String × α)} (h : ∀ e ∈ entries, e.1 ≠ key) :
    find key entries = none := by
  induction entries with
  | nil => rfl
  | cons head rest ih =>
    simp only [find, if_neg (h head List.mem_cons_self)]
    exact ih fun e he => h e (List.mem_cons_of_mem _ he)

theorem find_put (key other : String) (value : α) (entries : List (String × α)) :
    find other (put key value entries) = if key = other then some value else find other entries := by
  induction entries with
  | nil => simp [put, find]
  | cons head rest ih =>
    obtain ⟨k, a⟩ := head
    simp only [put]
    split
    · simp [find]
    · split
      · rename_i heq
        subst heq
        by_cases h : key = other <;> simp [find, h]
      · rename_i hne
        by_cases h : key = other
        · subst h
          simp [find, ih, Ne.symm hne]
        · simp [find, ih, h]

theorem find_drop (key other : String) (entries : List (String × α)) :
    find other (drop key entries) = if key = other then none else find other entries := by
  induction entries with
  | nil => simp [drop, find]
  | cons head rest ih =>
    obtain ⟨k, a⟩ := head
    unfold drop at ih ⊢
    by_cases hk : k = key
    · subst hk
      simp only [List.filter_cons, bne_self_eq_false, Bool.false_eq_true, ↓reduceIte, ih, find]
      split <;> rfl
    · by_cases ho : k = other
      · subst ho
        simp [hk, find, Ne.symm hk]
      · simp [hk, find, ho, ih]

/-- Ascending lists with the same look-ups are the same list. -/
theorem eq_of_find_eq {a b : List (String × α)} (ha : Ascending a) (hb : Ascending b)
    (h : ∀ key, find key a = find key b) : a = b := by
  induction a generalizing b with
  | nil =>
    cases b with
    | nil => rfl
    | cons e rest => have := h e.1; simp [find] at this
  | cons e rest ih =>
    cases b with
    | nil => have := h e.1; simp [find] at this
    | cons f tail =>
      obtain ⟨k, x⟩ := e
      obtain ⟨l, y⟩ := f
      obtain ⟨hk, hr⟩ := List.pairwise_cons.mp ha
      obtain ⟨hl, ht⟩ := List.pairwise_cons.mp hb
      have key_eq : k = l := by
        have hkl := h k
        have hlk := h l
        by_cases heq : k = l
        · exact heq
        · simp only [find, ↓reduceIte, if_neg heq, if_neg (Ne.symm heq)] at hkl hlk
          have h1 : l < k := Classical.byContradiction fun hn => by
            rw [find_eq_none] at hkl
            · cases hkl
            · exact fun e he hek => hn (hek ▸ hl e he)
          have h2 : k < l := Classical.byContradiction fun hn => by
            rw [find_eq_none] at hlk
            · cases hlk
            · exact fun e he hel => hn (hel ▸ hk e he)
          exact absurd h2 (String.lt_asymm h1)
      subst key_eq
      have value_eq : x = y := by simpa [find] using h k
      subst value_eq
      congr 1
      refine ih hr ht fun key => ?_
      by_cases hkey : k = key
      · subst hkey
        have absent {tail : List (String × α)} (above : ∀ e ∈ tail, k < e.1) : find k tail = none :=
          find_eq_none fun e he hn => String.lt_irrefl k (by simpa [hn] using above e he)
        rw [absent hk, absent hl]
      · simpa [find, hkey] using h key

/-! ## Maps -/

/-- The map without entries. -/
def empty : KeyMap α := ⟨[], List.Pairwise.nil⟩

instance : Inhabited (KeyMap α) := ⟨empty⟩
instance : EmptyCollection (KeyMap α) := ⟨empty⟩

/-- The value under `key`, if any. -/
def get? (m : KeyMap α) (key : String) : Option α := find key m.entries

/-- Writes `value` under `key`, replacing what was there. -/
def insert (m : KeyMap α) (key : String) (value : α) : KeyMap α :=
  ⟨put key value m.entries, ascending_put m.ascending⟩

/-- Removes `key`. -/
def erase (m : KeyMap α) (key : String) : KeyMap α :=
  ⟨drop key m.entries, List.Pairwise.filter _ m.ascending⟩

/-- Whether `key` is present. -/
def contains (m : KeyMap α) (key : String) : Bool := (m.get? key).isSome

/-- The keys, ascending. -/
def keys (m : KeyMap α) : List String := m.entries.map Prod.fst

/-- The map of these entries; of two under one key, the later one stays. -/
def ofList (entries : List (String × α)) : KeyMap α :=
  entries.foldl (fun m e => m.insert e.1 e.2) empty

/-- Applies `f` to every value. -/
def map (f : α → β) (m : KeyMap α) : KeyMap β :=
  ⟨m.entries.map fun e => (e.1, f e.2), by simpa [Ascending, List.pairwise_map] using m.ascending⟩

instance [DecidableEq α] : DecidableEq (KeyMap α) := fun a b =>
  match decEq a.entries b.entries with
  | isTrue h => isTrue (by cases a; cases b; cases h; rfl)
  | isFalse h => isFalse fun e => h (e ▸ rfl)

@[simp] theorem get?_empty (key : String) : (empty : KeyMap α).get? key = none := rfl

theorem get?_insert (m : KeyMap α) (key other : String) (value : α) :
    (m.insert key value).get? other = if key = other then some value else m.get? other :=
  find_put key other value m.entries

theorem get?_erase (m : KeyMap α) (key other : String) :
    (m.erase key).get? other = if key = other then none else m.get? other :=
  find_drop key other m.entries

/-- Maps with the same look-ups are equal. -/
theorem ext {m n : KeyMap α} (h : ∀ key, m.get? key = n.get? key) : m = n := by
  obtain ⟨a, ha⟩ := m
  obtain ⟨b, hb⟩ := n
  cases eq_of_find_eq ha hb h
  rfl

@[simp] theorem contains_insert (m : KeyMap α) (key other : String) (value : α) :
    (m.insert key value).contains other = (decide (key = other) || m.contains other) := by
  unfold contains
  rw [get?_insert]
  by_cases h : key = other <;> simp [h]

@[simp] theorem contains_erase (m : KeyMap α) (key other : String) :
    (m.erase key).contains other = (!decide (key = other) && m.contains other) := by
  unfold contains
  rw [get?_erase]
  by_cases h : key = other <;> simp [h]

end KeyMap

/-- A finite set of texts. -/
abbrev KeySet := KeyMap Unit

namespace KeySet

/-- Adds `key`. -/
def add (s : KeySet) (key : String) : KeySet := s.insert key ()

/-- The texts in the set, ascending. -/
def toList (s : KeySet) : List String := s.keys

end KeySet

end Switchboard
