import Switchboard.Settings.Access
import Switchboard.Proofs.Json
import Switchboard.Proofs.Uuid

/-!
# The fields of the persisted state

The persisted state has three fields, each stored under a key of its own. What is stored of a value is read back as
that value (`parse?_store_uuid`, `parse?_store_theme`, `parse?_store_bool`), so storing one field of a state changes
that field of the state that is loaded and no other (`load_update`).
-/

namespace Switchboard.Settings

/-! ## Values read back -/

theorem digitChar_ne_quote {d : Nat} (h : d < 16) : Nat.digitChar d ≠ '"' := by
  revert d
  decide

theorem ne_quote_of_mem_text {u : Uuid} {c : Char} (h : c ∈ u.text.toList) : c ≠ '"' := by
  rcases Uuid.mem_text h with rfl | ⟨d, small, rfl⟩
  · decide
  · exact digitChar_ne_quote small

/-- An identifier is stored as a text without a quotation mark, which is no JSON string, so it is read as it stands. -/
theorem parse?_store_uuid (u : Uuid) : parse? Record.uuid (store (.str u.text)) = some u := by
  have plain : Record.uuid (.str u.text) = .ok u := by simp only [Record.uuid, Uuid.parse_text]
  have no_string : (Json.read? u.text).bind (fun v => (Record.uuid v).toOption) = none := by
    refine Option.bind_eq_none_iff.mpr fun v read => ?_
    have other := Json.isString_of_read? (fun _ => ne_quote_of_mem_text) read
    cases v with
    | str s => cases other
    | null | bool b | num n | arr items | obj members | unreadable => rfl
  show parse? Record.uuid u.text = some u
  rw [parse?, no_string, plain]
  rfl

theorem parse?_store_theme (t : Theme) : parse? Theme.decode (store t.toJson) = some t := by
  cases t <;> rfl

theorem parse?_store_bool (b : Bool) : parse? Record.bool (store (.bool b)) = some b := by
  cases b <;> rfl

/-! ## Fields -/

/-- A field of the persisted state. -/
inductive Field where
  | space
  | theme
  | sidebar
  deriving DecidableEq, Repr

namespace Field

/-- All fields, in the order in which they are stored. -/
def all : List Field := [space, theme, sidebar]

/-- The key that a field is stored under. -/
def key : Field → String
  | space => activeSpaceKey
  | theme => themeKey
  | sidebar => sidebarKey

/-- The access that stores a field of a state. -/
def access (p : Persisted) : Field → Access
  | space => storeSpace p.activeSpace
  | theme => .set themeKey (store p.theme.toJson)
  | sidebar => .set sidebarKey (store (.bool p.sidebarCollapsed))

/-- The fields that are stored later. -/
def later : Field → List Field
  | space => [theme, sidebar]
  | theme => [sidebar]
  | sidebar => []

/-- Whether two states agree on a field. -/
def Agree (p q : Persisted) : Field → Prop
  | space => p.activeSpace = q.activeSpace
  | theme => p.theme = q.theme
  | sidebar => p.sidebarCollapsed = q.sidebarCollapsed

theorem key_inj {φ ψ : Field} (h : φ.key = ψ.key) : φ = ψ := by
  cases φ <;> cases ψ <;> first | rfl | exact absurd h (by decide)

theorem key_access (p : Persisted) (φ : Field) : (φ.access p).key = φ.key := by
  cases φ with
  | space => cases h : p.activeSpace <;> simp only [access, storeSpace, h] <;> rfl
  | theme | sidebar => rfl

theorem not_mem_later (φ : Field) : φ ∉ φ.later := by
  cases φ <;> decide

theorem Agree.refl (p : Persisted) (φ : Field) : Agree p p φ := by
  cases φ <;> rfl

theorem Agree.symm {p q : Persisted} {φ : Field} (h : Agree p q φ) : Agree q p φ := by
  cases φ <;> exact Eq.symm h

theorem Agree.trans {p q r : Persisted} {φ : Field} (h : Agree p q φ) (h' : Agree q r φ) : Agree p r φ := by
  cases φ <;> exact Eq.trans h h'

end Field

theorem Persisted.ext_fields {p q : Persisted} (h : ∀ φ, Field.Agree p q φ) : p = q := by
  cases p
  cases q
  cases h .space
  cases h .theme
  cases h .sidebar
  rfl

/-! ## Storing a field -/

/-- What is stored under a key after an access to another one. -/
theorem get?_update_of_ne (data : KeyMap String) {a : Access} {key : String} (h : a.key ≠ key) :
    (a.update data).get? key = data.get? key := by
  cases a with
  | get k | list => rfl
  | set k value => exact (KeyMap.get?_insert ..).trans (if_neg h)
  | delete k => exact (KeyMap.get?_erase ..).trans (if_neg h)

section

variable (p : Persisted) (data : KeyMap String)

/-- A stored field is loaded again. -/
theorem agree_load_update (φ : Field) : φ.Agree (Persisted.load ((φ.access p).update data)) p := by
  cases φ with
  | space =>
    show (((storeSpace p.activeSpace).update data).get? activeSpaceKey).bind (parse? Record.uuid) = p.activeSpace
    cases p.activeSpace with
    | none =>
      rw [storeSpace, Access.update, KeyMap.get?_erase, if_pos rfl]
      rfl
    | some u =>
      rw [storeSpace, Access.update, KeyMap.get?_insert, if_pos rfl, Option.bind_some, parse?_store_uuid]
  | theme =>
    show (((data.insert themeKey (store p.theme.toJson)).get? themeKey).bind (parse? Theme.decode)).getD .system = _
    rw [KeyMap.get?_insert, if_pos rfl, Option.bind_some, parse?_store_theme]
    rfl
  | sidebar =>
    show (((data.insert sidebarKey (store (.bool p.sidebarCollapsed))).get? sidebarKey).bind
      (parse? Record.bool)).getD false = _
    rw [KeyMap.get?_insert, if_pos rfl, Option.bind_some, parse?_store_bool]
    rfl

/-- The other fields are loaded as before. -/
theorem agree_load_update_of_ne {φ ψ : Field} (h : φ ≠ ψ) :
    ψ.Agree (Persisted.load ((φ.access p).update data)) (Persisted.load data) := by
  have same : ((φ.access p).update data).get? ψ.key = data.get? ψ.key :=
    get?_update_of_ne data fun e => h (Field.key_inj ((Field.key_access p φ).symm.trans e))
  cases ψ with
  | space => exact congrArg (·.bind (parse? Record.uuid)) same
  | theme => exact congrArg (fun text => (text.bind (parse? Theme.decode)).getD .system) same
  | sidebar => exact congrArg (fun text => (text.bind (parse? Record.bool)).getD false) same

end

end Switchboard.Settings
