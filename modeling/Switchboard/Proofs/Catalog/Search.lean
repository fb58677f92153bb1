import Switchboard.Catalog.Display
import Switchboard.Proofs.Text.Case

/-!
# What a search finds

Query and text are lower-cased each by itself. So a row is found by what stands literally in one of its texts, unless a
capital sigma of the query is lower-cased otherwise in the text (`literal_found`): the beginning of a word that is
typed up to a sigma is not found in the word (`typed_to_sigma_missed`).
-/

namespace Switchboard.Catalog

/-- A text that a row is searched by. -/
inductive Row.Has (r : Row) : String → Prop
  | name : r.Has r.definition.name
  | description {t : String} (h : r.definition.description = some t) : r.Has t
  | id : r.Has r.definition.id
  | shortName {t : String} (h : r.definition.shortName = some t) : r.Has t
  | category {t : String} (h : t ∈ r.definition.categories) : r.Has t

theorem Row.Has.mem_searchTexts {r : Row} {t : String} (h : r.Has t) : t ∈ r.searchTexts := by
  simp only [Row.searchTexts, List.mem_append, List.mem_singleton, Option.mem_toList]
  cases h with
  | name => exact Or.inl (Or.inl (Or.inl (Or.inl rfl)))
  | description h => exact Or.inl (Or.inl (Or.inl (Or.inr h)))
  | id => exact Or.inl (Or.inl (Or.inr rfl))
  | shortName h => exact Or.inl (Or.inr h)
  | category h => exact Or.inr h

/-- A row matches if the lower-case form of the query stands in that of a text. -/
theorem matchesQuery_of_infix {r : Row} {query t : String} (has : r.Has t)
    (h : (Text.lower query).toList <:+: (Text.lower t).toList) : r.matchesQuery query = true := by
  rw [Row.matchesQuery, Bool.or_eq_true, List.any_eq_true]
  exact Or.inr ⟨t, has.mem_searchTexts, Text.contains_iff.mpr h⟩

/-- **What stands in a row is found.** Where the query stands literally in a text of a row, the row matches if the query
keeps its sigmas there. If it does not, there is a capital sigma next to an end of the query, and the text goes on with
the word beyond that end. -/
theorem literal_found {r : Row} {query t : String} (has : r.Has t) {x y : List Char}
    (occurs : t.toList = x ++ query.toList ++ y) :
    (Text.KeepsSigmas x.reverse query.toList y → r.matchesQuery query = true) ∧
    (¬ Text.KeepsSigmas x.reverse query.toList y → ∃ u w, query.toList = u ++ 'Σ' :: w ∧
      ((∀ c ∈ w, Text.isCaseIgnorable c = true) ∧ Text.startsCased y = true ∨
        (∀ c ∈ u, Text.isCaseIgnorable c = true) ∧ Text.startsCased x.reverse = true)) :=
  ⟨fun keeps => matchesQuery_of_infix has (Text.lower_infix occurs keeps), Text.sigma_at_end⟩

def street : Row := .of { id := "road", name := "ΟΔΟΣ 5" } none false

/-- The sigma ends the word in the query and in the name. -/
theorem street_found : street.matchesQuery "ΟΔΟΣ" = true := by
  have keeps : Text.KeepsSigmas [] "ΟΔΟΣ".toList [' ', '5'] := by
    intro u w e
    have letters : ['Ο', 'Δ', 'Ο', 'Σ'] = u ++ 'Σ' :: w := e
    obtain ⟨_, rfl, _, rfl, _, rfl, rfl, rfl⟩ :
        ∃ a, u = 'Ο' :: a ∧ ∃ b, a = 'Δ' :: b ∧ ∃ c, b = 'Ο' :: c ∧ c = [] ∧ w = [] := by
      simpa [List.cons_eq_append_iff] using letters
    decide +kernel
  exact (literal_found (r := street) .name (x := []) rfl).1 keeps

def middle : Row := .of { id := "middle", name := "ΜΕΣΑ" } none false

/-- What stands literally in the name of a row is not found. -/
theorem typed_to_sigma_missed : ¬ ∀ (r : Row) (query t : String), r.Has t → query.toList <:+: t.toList →
    r.matchesQuery query = true := by
  intro claim
  have missed : middle.matchesQuery "ΜΕΣ" = false := by decide +kernel
  have found := claim middle "ΜΕΣ" "ΜΕΣΑ" .name ⟨[], ['Α'], rfl⟩
  rw [missed] at found
  cases found

end Switchboard.Catalog
