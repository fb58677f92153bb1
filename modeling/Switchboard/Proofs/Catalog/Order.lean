import Switchboard.Catalog.Display
import Switchboard.Proofs.Catalog.Form

/-!
# Sort orders of rows

Values of different kinds compare equal, which is not transitive; but in values of one form a rule finds values of one
kind only (`found_of_fits`), and those it orders. So the order by rules is oriented (`compareBy_swap`) and, on values of
one form, transitive (`transCmp_compareBy`). All rows have one form: a sort by rules is a sort by a total preorder
(`rules_preorder`).
-/

namespace Switchboard

open Std

theorem Double.compare_swap (x y : Double) : x.compare y = (y.compare x).swap := by
  simp only [compare, Int.min_comm y.exponent]
  exact OrientedOrd.eq_swap

namespace Catalog

/-! ## Either way round -/

theorem compareTexts_swap (a b : String) : compareTexts a b = (compareTexts b a).swap := by
  have lower : Ord.compare (Text.lower a) (Text.lower b) = (Ord.compare (Text.lower b) (Text.lower a)).swap :=
    OrientedOrd.eq_swap
  have plain : Ord.compare a b = (Ord.compare b a).swap := OrientedOrd.eq_swap
  rw [compareTexts, compareTexts, Ordering.swap_then, ← lower, ← plain]

theorem compareFields_swap (a b : Json) : compareFields a b = (compareFields b a).swap := by
  cases a <;> cases b <;> try rfl
  case bool.bool a b => exact OrientedOrd.eq_swap
  case num.num a b => exact Double.compare_swap _ _
  case str.str a b => exact compareTexts_swap a b

theorem compareFound_swap (r : Rule) (a b : Option Json) : r.compareFound a b = (r.compareFound b a).swap := by
  cases a with
  | none =>
    cases b with
    | none => rfl
    | some b =>
      simp only [Rule.compareFound]
      split <;> rfl
  | some a =>
    cases b with
    | none =>
      simp only [Rule.compareFound]
      split <;> rfl
    | some b =>
      simp only [Rule.compareFound]
      cases r.direction with
      | asc => exact compareFields_swap a b
      | desc => exact congrArg Ordering.swap (compareFields_swap a b)

theorem compareBy_swap (rules : List Rule) (a b : Json) : compareBy rules a b = (compareBy rules b a).swap := by
  induction rules with
  | nil => rfl
  | cons r rest ih => rw [compareBy, compareBy, Ordering.swap_then, ← ih, Rule.compare, Rule.compare,
      ← compareFound_swap]

/-! ## One after the other -/

theorem compareTexts_trans {a b c : String} (hab : (compareTexts a b).isLE = true)
    (hbc : (compareTexts b c).isLE = true) : (compareTexts a c).isLE = true := by
  have order : TransCmp compareTexts :=
    inferInstanceAs (TransCmp (compareLex (compareOn Text.lower) (compare : String → String → Ordering)))
  exact TransCmp.isLE_trans hab hbc

/-- Values that fit one form and are present are ordered. -/
theorem compareFields_trans {f : Form} {x y z : Json} (hx : Fits f x ∧ x ≠ .null) (hy : Fits f y ∧ y ≠ .null)
    (hz : Fits f z ∧ z ≠ .null) (hxy : (compareFields x y).isLE = true) (hyz : (compareFields y z).isLE = true) :
    (compareFields x z).isLE = true := by
  obtain ⟨hx, x_present⟩ := hx
  obtain ⟨hy, y_present⟩ := hy
  obtain ⟨hz, z_present⟩ := hz
  cases hx with
  | null => exact absurd rfl x_present
  | truth a =>
    cases hy with
    | null => exact absurd rfl y_present
    | truth b =>
      cases hz with
      | null => exact absurd rfl z_present
      | truth c => exact TransOrd.isLE_trans (α := Bool) hyz hxy
  | text a =>
    cases hy with
    | null => exact absurd rfl y_present
    | text b =>
      cases hz with
      | null => exact absurd rfl z_present
      | text c => exact compareTexts_trans hxy hyz
  | list => cases z <;> rfl
  | texts => cases z <;> rfl
  | record => cases z <;> rfl

/-- What is found by a path: nothing, or a value that fits the form of the path and is present. -/
def Found (f : Option Form) (o : Option Json) : Prop :=
  ∀ v, o = some v → ∃ g, f = some g ∧ Fits g v ∧ v ≠ .null

theorem found_of_fits {f : Form} {v : Json} (h : Fits f v) (path : String) :
    Found (f.at? (Json.segments path)) (v.resolve path) := by
  intro w hw
  obtain ⟨⟨g, form, fits⟩, present⟩ := fits_of_resolve h hw
  exact ⟨g, form, fits, present⟩

theorem compareFound_trans (r : Rule) {f : Option Form} {x y z : Option Json} (hx : Found f x) (hy : Found f y)
    (hz : Found f z) (hxy : (r.compareFound x y).isLE = true) (hyz : (r.compareFound y z).isLE = true) :
    (r.compareFound x z).isLE = true := by
  cases x with
  | none =>
    cases z with
    | none => rfl
    | some z =>
      cases y with
      | none => exact hyz
      | some y => exact hxy
  | some x =>
    cases y with
    | none =>
      cases z with
      | none => exact hxy
      | some z =>
        -- what is absent cannot go both after what is present and before it
        simp only [Rule.compareFound] at hxy hyz
        split at hxy
        · cases hxy
        · rename_i last
          rw [if_neg last] at hyz
          cases hyz
    | some y =>
      cases z with
      | none => exact hyz
      | some z =>
        obtain ⟨g, form, fits_x⟩ := hx x rfl
        obtain ⟨_, form_y, fits_y⟩ := hy y rfl
        obtain ⟨_, form_z, fits_z⟩ := hz z rfl
        cases form.symm.trans form_y
        cases form.symm.trans form_z
        simp only [Rule.compareFound] at hxy hyz ⊢
        cases h : r.direction with
        | asc =>
          rw [h] at hxy hyz
          exact compareFields_trans fits_x fits_y fits_z hxy hyz
        | desc =>
          simp only [h, Direction.apply, ← compareFields_swap] at hxy hyz ⊢
          exact compareFields_trans fits_z fits_y fits_x hyz hxy

/-- Values of one form are ordered by rules: either way round, and one after the other. -/
theorem transCmp_compareBy {α : Type} {value : α → Json} {f : Form} (fits : ∀ a, Fits f (value a)) (rules : List Rule) :
    TransCmp fun a b => compareBy rules (value a) (value b) := by
  induction rules with
  | nil => exact { eq_swap := rfl, isLE_trans := fun _ _ => rfl }
  | cons r rest ih =>
    have first : TransCmp fun a b => r.compare (value a) (value b) :=
      { eq_swap := compareFound_swap r _ _
        isLE_trans := compareFound_trans r (found_of_fits (fits _) _) (found_of_fits (fits _) _)
          (found_of_fits (fits _) _) }
    exact inferInstanceAs (TransCmp (compareLex (fun a b => r.compare (value a) (value b))
      fun a b => compareBy rest (value a) (value b)))

/-! ## Rows -/

/-- Orders rows by one rule. -/
def Rule.compareRows (r : Rule) (a b : Row) : Ordering := r.compare a.projection b.projection

/-- Orders rows by several rules. -/
def compareRows (rules : List Rule) (a b : Row) : Ordering := compareBy rules a.projection b.projection

theorem transCmp_compareRows (rules : List Rule) : TransCmp (compareRows rules) :=
  transCmp_compareBy fits_projection rules

/-- What rules look at: the projection of a row, or null for what has none because it cannot be written. -/
def entity : Option Row → Json
  | some r => r.projection
  | none => .null

theorem fits_entity (r : Option Row) : Fits rowForm (entity r) := by
  cases r with
  | none => exact .null rowForm
  | some r => exact fits_projection r

/-- **Rules are a total preorder.** Whatever rows are compared by whatever rules, they compare the other way round as
the reverse, and if the first is not greater than the second and the second not greater than the third, then the first
is not greater than the third. -/
theorem rules_preorder (rules : List Rule) (a b c : Option Row) :
    compareBy rules (entity a) (entity b) = (compareBy rules (entity b) (entity a)).swap ∧
    (compareBy rules (entity a) (entity b) ≠ .gt → compareBy rules (entity b) (entity c) ≠ .gt →
      compareBy rules (entity a) (entity c) ≠ .gt) := by
  refine ⟨compareBy_swap _ _ _, fun hab hbc => ?_⟩
  have order := transCmp_compareBy fits_entity rules
  exact Ordering.isLE_iff_ne_gt.mp
    (order.isLE_trans (Ordering.isLE_iff_ne_gt.mpr hab) (Ordering.isLE_iff_ne_gt.mpr hbc))

/-- Official servers last, and those without a publisher first. -/
def officialLast : List Rule :=
  [{ field := "publisher.official", direction := .desc, nulls := some .first }, { field := "name" }]

def unpublished : Row := .of { id := "a", name := "amy" } none false

def official : Row := .of { id := "b", name := "Bob", publisher := some { name := "Bob", official := true } } none false

theorem unpublished_before_official :
    compareBy officialLast (entity (some unpublished)) (entity (some official)) ≠ .gt :=
  (rules_preorder officialLast (some unpublished) none (some official)).2 (by decide +kernel) (by decide +kernel)

end Catalog

end Switchboard
