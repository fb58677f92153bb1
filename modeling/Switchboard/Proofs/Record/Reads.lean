import Switchboard.Record.Shape
import Switchboard.Proofs.KeyMap

/-!
# Records read back

A shape reads a record from members if its fields fit and the record is built (`Shape.Reads`). Shapes are put together
out of fields, and so is what they read (`Shape.Reads.seq`, `Shape.Reads.map`); of members with distinct keys the
record is then read (`Shape.Reads.ofMembers`), and by its tag if it is one of several kinds (`tagged_obj`).
-/

namespace Switchboard.Record

variable {α β : Type}

/-! ## Lists and maps -/

theorem list_arr {decode : Decoder α} {write : α → Json} {l : List α} (each : ∀ a ∈ l, decode (write a) = .ok a) :
    list decode (.arr (l.map write)) = .ok l := by
  show decodeItems decode (l.map write) = .ok l
  induction l with
  | nil => rfl
  | cons a rest ih =>
    obtain ⟨first, others⟩ := List.forall_mem_cons.mp each
    simp [decodeItems, first, ih others, Except.map]

theorem list_ofTextList (l : List String) : list text (.ofTextList l) = .ok l := list_arr fun _ _ => rfl

/-- Entries with distinct keys are taken in as they are. -/
theorem decodeEntries_map {decode : Decoder α} {write : α → Json} {entries : List (String × α)}
    (each : ∀ e ∈ entries, decode (write e.2) = .ok e.2) (distinct : (entries.map Prod.fst).Nodup) (before : KeyMap α) :
    ∃ m, decodeEntries decode before (entries.map fun e => (e.1, write e.2)) = .ok m ∧
      ∀ key, m.get? key = (KeyMap.find key entries).or (before.get? key) := by
  induction entries generalizing before with
  | nil => exact ⟨before, rfl, fun key => rfl⟩
  | cons e rest ih =>
    obtain ⟨k, a⟩ := e
    obtain ⟨first, others⟩ := List.forall_mem_cons.mp each
    obtain ⟨new, distinct⟩ := List.nodup_cons.mp distinct
    obtain ⟨m, read, found⟩ := ih others distinct (before.insert k a)
    refine ⟨m, ?_, fun key => ?_⟩
    · simp only [List.map_cons, decodeEntries, first]
      exact read
    · rw [found, KeyMap.get?_insert, KeyMap.find]
      by_cases own : k = key
      · subst own
        have absent : KeyMap.find k rest = none :=
          KeyMap.find_eq_none fun e he same => new (List.mem_map.mpr ⟨e, he, same⟩)
        simp [absent]
      · simp [own]

theorem map_ofTexts (m : KeyMap String) : map text (.ofTexts m) = .ok m := by
  have each : ∀ e ∈ m.entries, text (.str e.2) = .ok e.2 := fun _ _ => rfl
  obtain ⟨n, read, found⟩ := decodeEntries_map each m.nodup_keys .empty
  have same : n = m := by
    apply KeyMap.ext
    intro key
    rw [found, KeyMap.get?_empty, Option.or_none]
    rfl
  show decodeEntries text .empty (m.entries.map fun e => (e.1, .str e.2)) = _
  rw [read, same]

/-! ## Shapes -/

namespace Shape

/-- A shape reads a record from members. -/
structure Reads (s : Shape α) (members : List (String × Json)) (a : α) : Prop where
  fits : ∀ f ∈ s.fields, ∀ v, KeyMap.find f.name members = some v → f.check v = .ok ()
  builds : ∀ absent, s.build (fun name => KeyMap.find name members) absent = .ok a

variable {members : List (String × Json)} {name : String} {decode : Decoder α} {a : α} {v : Json}

theorem reads_constant : (constant a).Reads members a := ⟨nofun, fun _ => rfl⟩

theorem Reads.seq {f : Shape (α → β)} {x : Shape α} {g : α → β} (hf : f.Reads members g) (hx : x.Reads members a) :
    (f <*> x).Reads members (g a) where
  fits field mem := by
    rcases List.mem_append.mp mem with mem | mem
    · exact hf.fits field mem
    · exact hx.fits field mem
  builds absent := by
    show (apply f x).build _ absent = _
    simp only [apply, hf.builds, hx.builds]

theorem Reads.map {x : Shape α} {g : α → β} (hx : x.Reads members a) : (g <$> x).Reads members (g a) :=
  reads_constant.seq hx

theorem fits_of_found (found : KeyMap.find name members = some v) (read : decode v = .ok a) :
    ∀ f ∈ [Field.mk name (checkOf decode)], ∀ w, KeyMap.find f.name members = some w → f.check w = .ok () := by
  intro f mem w hw
  cases List.mem_singleton.mp mem
  cases found.symm.trans hw
  show checkOf decode v = .ok ()
  rw [checkOf, read]

theorem reads_required (found : KeyMap.find name members = some v) (read : decode v = .ok a) :
    (required name decode).Reads members a where
  fits := fits_of_found found read
  builds absent := by
    simp only [required, found]
    exact read

theorem reads_defaulted {value : α} (found : KeyMap.find name members = some v) (read : decode v = .ok a) :
    (defaulted name decode value).Reads members a where
  fits := fits_of_found found read
  builds absent := by
    simp only [defaulted, found]
    exact read

/-- A field that is absent is read as its default. -/
theorem reads_absent (absent : KeyMap.find name members = none) : (defaulted name decode a).Reads members a where
  fits f mem w hw := by
    cases List.mem_singleton.mp mem
    cases absent.symm.trans hw
  builds _ := by simp only [defaulted, absent]

theorem nullable_optional {write : α → Json} {o : Option α} (read : ∀ a ∈ o, decode (write a) = .ok a)
    (present : ∀ a, write a ≠ .null) : nullable decode (.optional write o) = .ok o := by
  cases o with
  | none => rfl
  | some a =>
    have h : nullable decode (write a) = (decode (write a)).map some := by
      have hp := present a
      cases h : write a with
      | null => exact absurd h hp
      | bool | num | str | arr | obj | unreadable => rfl
    show nullable decode (write a) = _
    rw [h, read a rfl]
    rfl

theorem reads_optional_text {o : Option String} (found : KeyMap.find name members = some (.optional .str o)) :
    (optional name text).Reads members o :=
  reads_defaulted found (by cases o <;> rfl)

theorem reads_optional_some {write : α → Json} {o : Option α}
    (found : KeyMap.find name members = some (.optional write o)) (read : ∀ a ∈ o, decode (write a) = .ok a)
    (present : ∀ a, write a ≠ .null) : (optional name decode).Reads members o :=
  reads_defaulted found (nullable_optional read present)

theorem reads_optional {write : α → Json} {o : Option α} (found : KeyMap.find name members = some (.optional write o))
    (read : ∀ a, decode (write a) = .ok a) (present : ∀ a, write a ≠ .null) :
    (optional name decode).Reads members o := reads_optional_some found (fun a _ => read a) present

/-- Members with distinct keys are not found to be repeated. -/
theorem checkMembers_ok {fields : List Field} {rest : List (String × Json)} {seen : List String}
    (fits : ∀ m ∈ rest, ∀ f ∈ fields, f.name = m.1 → f.check m.2 = .ok ()) (distinct : (rest.map Prod.fst).Nodup)
    (new : ∀ m ∈ rest, m.1 ∉ seen) : checkMembers fields seen rest = .ok () := by
  induction rest generalizing seen with
  | nil => rfl
  | cons m rest ih =>
    obtain ⟨k, v⟩ := m
    obtain ⟨first, others⟩ := List.forall_mem_cons.mp fits
    obtain ⟨unseen, new⟩ := List.forall_mem_cons.mp new
    obtain ⟨single, distinct⟩ := List.nodup_cons.mp distinct
    rw [checkMembers]
    cases found : fields.find? fun f => f.name == k with
    | none => exact ih others distinct new
    | some f =>
      have name : f.name = k := by simpa using List.find?_some found
      have still_new : ∀ m ∈ rest, m.1 ∉ k :: seen := by
        intro m hm
        rw [List.mem_cons, not_or]
        exact ⟨fun same => single (List.mem_map.mpr ⟨m, hm, same⟩), new m hm⟩
      simp only [first f (List.mem_of_find?_eq_some found) name]
      rw [if_neg (by simpa using unseen)]
      exact ih others distinct still_new

/-- The record that a shape reads is read from members with distinct keys. -/
theorem Reads.ofMembers {s : Shape α} (h : s.Reads members a) (distinct : (members.map Prod.fst).Nodup)
    (absent : String → Fault) : s.ofMembers absent members = .ok a := by
  have checked : checkMembers s.fields [] members = .ok () := by
    refine checkMembers_ok (fun m hm f hf name => ?_) distinct (fun _ _ => List.not_mem_nil)
    apply h.fits f hf
    rw [name, KeyMap.find_eq_some_iff distinct]
    exact hm
  rw [Shape.ofMembers, checked]
  exact h.builds absent

theorem Reads.decode_obj {s : Shape α} (h : s.Reads members a) (distinct : (members.map Prod.fst).Nodup)
    (label : String) : s.decode label (.obj members) = .ok a := h.ofMembers distinct .missing

end Shape

/-! ## Alternatives -/

theorem splitTag_rest {variants : List (Variant α)} {found : Option (Variant α)} {members before : List (String × Json)}
    (others : ∀ m ∈ members, m.1 ≠ tagKey ∧ m.2.readable = true) :
    splitTag variants found before members = .ok (found, before.reverse ++ members) := by
  induction members generalizing before with
  | nil => simp [splitTag]
  | cons m rest ih =>
    obtain ⟨⟨other, readable⟩, others⟩ := List.forall_mem_cons.mp others
    rw [splitTag, if_neg other, if_pos readable, ih others]
    simp

theorem readable_of_mem {members : List (String × Json)} (h : Json.readableMembers members = true) :
    ∀ m ∈ members, m.2.readable = true := by
  induction members with
  | nil => exact List.forall_mem_nil _
  | cons m rest ih =>
    rw [Json.readableMembers, Bool.and_eq_true] at h
    exact List.forall_mem_cons.mpr ⟨h.1, ih h.2⟩

/-- A value with a tag is read by the shape that the tag names. -/
theorem tagged_obj {name tag : String} {variants : List (Variant α)} {variant : Variant α}
    {members : List (String × Json)} {a : α} (named : variants.find? (fun v => v.tag == tag) = some variant)
    (readable : (Json.obj ((tagKey, .str tag) :: members)).readable = true)
    (distinct : (tagKey :: members.map Prod.fst).Nodup) (reads : variant.shape.Reads members a) :
    tagged name variants (.obj ((tagKey, .str tag) :: members)) = .ok a := by
  obtain ⟨single, distinct⟩ := List.nodup_cons.mp distinct
  have others : ∀ m ∈ members, m.1 ≠ tagKey ∧ m.2.readable = true := by
    intro m hm
    refine ⟨fun same => single (List.mem_map.mpr ⟨m, hm, same⟩), ?_⟩
    exact readable_of_mem readable m (List.mem_cons_of_mem _ hm)
  have split : splitTag variants none [] ((tagKey, .str tag) :: members) = .ok (some variant, members) := by
    simp only [splitTag, if_true, variantOf, named]
    exact splitTag_rest others
  rw [tagged, split]
  exact reads.ofMembers distinct .missing

end Switchboard.Record
