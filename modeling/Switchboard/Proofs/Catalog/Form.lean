import Switchboard.Catalog.Row
import Switchboard.Json.Path
import Switchboard.Proofs.KeyMap

/-!
# The form of a projection

A `Form` says of which kind a value is and, of an object, of which forms its members are; null fits every form. All
projections of rows fit one form (`fits_projection`), although definitions, transports and sources come in variants:
the variants share the keys that they have in common. So a path names parts of one form in all rows
(`fits_of_resolve`).
-/

namespace Switchboard.Catalog

/-- The form of a value. -/
inductive Form where
  | truth
  | text
  | list
  /-- An object of texts, under any keys. -/
  | texts
  /-- An object of these members, as far as they are present. -/
  | record (fields : List (String × Form))

/-- Whether a value fits a form. -/
inductive Fits : Form → Json → Prop
  | null (f : Form) : Fits f .null
  | truth (b : Bool) : Fits .truth (.bool b)
  | text (s : String) : Fits .text (.str s)
  | list (items : List Json) : Fits .list (.arr items)
  | texts {members : List (String × Json)} (each : ∀ m ∈ members, Fits .text m.2) : Fits .texts (.obj members)
  | record {fields : List (String × Form)} {members : List (String × Json)}
      (known : ∀ m ∈ members, (KeyMap.find m.1 fields).isSome = true)
      (each : ∀ m ∈ members, ∀ f, KeyMap.find m.1 fields = some f → Fits f m.2) :
      Fits (.record fields) (.obj members)

/-! ## Parts -/

/-- The form of the part that keys lead to. -/
def Form.at? : Form → List String → Option Form
  | f, [] => some f
  | .texts, _ :: rest => Form.text.at? rest
  | .record fields, key :: rest => (KeyMap.find key fields).bind fun f => f.at? rest
  | _, _ :: _ => none

/-- A part of a value fits the form of the part. -/
theorem fits_of_walk {keys : List String} {f : Form} {v w : Json} (h : Fits f v) (part : v.walk keys = some w) :
    ∃ g, f.at? keys = some g ∧ Fits g w := by
  induction keys generalizing f v with
  | nil =>
    cases part
    exact ⟨f, by cases f <;> rfl, h⟩
  | cons key rest ih =>
    rw [Json.walk] at part
    split at part
    · rename_i u found
      cases h with
      | texts each =>
        obtain ⟨g, form, fits⟩ := ih (each _ (KeyMap.mem_of_find found)) part
        exact ⟨g, form, fits⟩
      | record known each =>
        have mem := KeyMap.mem_of_find found
        obtain ⟨field, hfield⟩ := Option.isSome_iff_exists.mp (known _ mem)
        obtain ⟨g, form, fits⟩ := ih (each _ mem field hfield) part
        refine ⟨g, ?_, fits⟩
        rw [Form.at?, hfield]
        exact form
      | null | truth | text | list => cases found
    · cases part

/-- What a path names fits the form of the path, and is not null. -/
theorem fits_of_resolve {f : Form} {v w : Json} {path : String} (h : Fits f v) (part : v.resolve path = some w) :
    (∃ g, f.at? (Json.segments path) = some g ∧ Fits g w) ∧ w ≠ .null := by
  unfold Json.resolve at part
  split at part
  · rename_i u walked
    split at part
    · cases part
    · rename_i present
      cases part
      refine ⟨fits_of_walk h walked, ?_⟩
      rintro rfl
      exact present rfl
  · cases part

/-! ## Rows -/

def authForm : Form := .record [("type", .text), ("instructions", .text)]

def transportForm : Form := .record [
  ("type", .text), ("command", .text), ("args", .list), ("env", .texts), ("url", .text), ("headers", .texts),
  ("metadata", .record [("inputs", .list)])]

def publisherForm : Form := .record [("name", .text), ("domain", .text), ("verified", .truth), ("official", .truth)]

def sourceForm : Form :=
  .record [("type", .text), ("space_id", .text), ("file_path", .text), ("url", .text), ("name", .text)]

/-- The form of all rows. -/
def rowForm : Form := .record [
  ("id", .text), ("name", .text), ("description", .text), ("alias", .text), ("auth", authForm), ("icon", .text),
  ("transport", transportForm), ("categories", .list), ("publisher", publisherForm), ("source", sourceForm),
  ("is_installed", .truth), ("enabled", .truth), ("oauth_connected", .truth), ("env_overrides", .texts),
  ("args_append", .list), ("extra_headers", .texts), ("missing_required_inputs", .truth), ("connection_status", .text),
  ("installed_at", .text), ("offline", .truth)]

theorem fits_optional {α : Type} {f : Form} {write : α → Json} (h : ∀ a, Fits f (write a)) (o : Option α) :
    Fits f (.optional write o) := by
  cases o with
  | none => exact .null f
  | some a => exact h a

theorem fits_ofTexts (m : KeyMap String) : Fits .texts (.ofTexts m) := by
  apply Fits.texts
  intro e he
  obtain ⟨e, -, rfl⟩ := List.mem_map.mp he
  exact .text e.2

/-- An object fits a record if each of its members has a field there, and fits it. -/
theorem fits_record {fields : List (String × Form)} {members : List (String × Json)}
    (each : ∀ m ∈ members, ∃ f, KeyMap.find m.1 fields = some f ∧ Fits f m.2) :
    Fits (.record fields) (.obj members) := by
  apply Fits.record
  · intro m hm
    obtain ⟨f, found, -⟩ := each m hm
    rw [found]
    rfl
  · intro m hm f found
    obtain ⟨g, found', fits⟩ := each m hm
    cases found.symm.trans found'
    exact fits

theorem fits_auth (a : Auth) : Fits authForm a.toJson := by
  cases a with
  | none | oauth =>
    apply fits_record
    exact List.forall_mem_singleton.mpr ⟨_, rfl, .text _⟩
  | apiKey i | optionalApiKey i =>
    apply fits_record
    rw [List.forall_mem_cons]
    refine ⟨⟨_, rfl, .text _⟩, ?_⟩
    cases i with
    | none => exact List.forall_mem_nil _
    | some i => exact List.forall_mem_singleton.mpr ⟨_, rfl, .text _⟩

theorem fits_metadata (m : TransportMetadata) : Fits (.record [("inputs", .list)]) m.toJson := by
  apply fits_record
  rw [List.forall_mem_singleton]
  exact ⟨_, rfl, .list _⟩

theorem fits_transport (t : Transport) : Fits transportForm t.toJson := by
  cases t with
  | stdio command args env metadata =>
    apply fits_record
    simp only [List.forall_mem_cons]
    exact ⟨⟨_, rfl, .text _⟩, ⟨_, rfl, .text _⟩, ⟨_, rfl, .list _⟩, ⟨_, rfl, fits_ofTexts _⟩,
      ⟨_, rfl, fits_metadata _⟩, List.forall_mem_nil _⟩
  | http url headers metadata =>
    apply fits_record
    simp only [List.forall_mem_cons]
    exact ⟨⟨_, rfl, .text _⟩, ⟨_, rfl, .text _⟩, ⟨_, rfl, fits_ofTexts _⟩, ⟨_, rfl, fits_metadata _⟩,
      List.forall_mem_nil _⟩

theorem fits_publisher (p : Publisher) : Fits publisherForm p.toJson := by
  apply fits_record
  simp only [List.forall_mem_cons]
  exact ⟨⟨_, rfl, .text _⟩, ⟨_, rfl, fits_optional .text _⟩, ⟨_, rfl, .truth _⟩, ⟨_, rfl, .truth _⟩,
    List.forall_mem_nil _⟩

theorem fits_source (s : Source) : Fits sourceForm s.toJson := by
  cases s with
  | bundled =>
    apply fits_record
    rw [List.forall_mem_singleton]
    exact ⟨_, rfl, .text _⟩
  | userSpace _ _ | registry _ _ =>
    apply fits_record
    simp only [List.forall_mem_cons]
    exact ⟨⟨_, rfl, .text _⟩, ⟨_, rfl, .text _⟩, ⟨_, rfl, .text _⟩, List.forall_mem_nil _⟩

/-- All rows have one form. -/
theorem fits_projection (r : Row) : Fits rowForm r.projection := by
  apply fits_record
  simp only [Definition.members, List.cons_append, List.nil_append, List.forall_mem_cons]
  refine ⟨⟨_, rfl, .text _⟩, ⟨_, rfl, .text _⟩, ⟨_, rfl, fits_optional .text _⟩, ⟨_, rfl, fits_optional .text _⟩,
    ⟨_, rfl, fits_optional fits_auth _⟩, ⟨_, rfl, fits_optional .text _⟩, ⟨_, rfl, fits_transport _⟩,
    ⟨_, rfl, .list _⟩, ⟨_, rfl, fits_optional fits_publisher _⟩, ⟨_, rfl, fits_source _⟩, ⟨_, rfl, .truth _⟩,
    ⟨_, rfl, .truth _⟩, ⟨_, rfl, .truth _⟩, ⟨_, rfl, fits_ofTexts _⟩, ⟨_, rfl, .list _⟩, ⟨_, rfl, fits_ofTexts _⟩,
    ⟨_, rfl, .truth _⟩, ⟨_, rfl, .text _⟩, ⟨_, rfl, ?_⟩, ⟨_, rfl, .truth _⟩, List.forall_mem_nil _⟩
  exact fits_optional (fun t : Instant => .text t.text) _

end Switchboard.Catalog
