import Switchboard.Catalog.Display

/-!
# The pages of a list

There is always a page (`one_le_pageCount`), and a page up to the last one of a list that is not empty has something on
it (`paginate_ne_nil`). The pages in a row are the list (`pages_tile`), unless there are more of them than a page number
can count.
-/

namespace Switchboard.Catalog

theorem toNat_pageCount (total : Nat) (perPage : UInt32) :
    (pageCount total perPage).toNat =
      if perPage = 0 ∨ total = 0 then 1
      else min ((total + perPage.toNat - 1) / perPage.toNat) (UInt32.size - 1) := by
  unfold pageCount
  split
  · rfl
  · rw [UInt32.toNat_ofNat_of_lt']
    exact Nat.lt_of_le_of_lt (Nat.min_le_right _ _) (by decide)

theorem toNat_pos {perPage : UInt32} (h : perPage ≠ 0) : 0 < perPage.toNat :=
  Nat.pos_of_ne_zero fun zero => h (UInt32.toNat_inj.mp zero)

theorem one_le_pageCount (total : Nat) (perPage : UInt32) : 1 ≤ pageCount total perPage := by
  rw [UInt32.le_iff_toNat_le, toNat_pageCount]
  split
  · exact Nat.le_refl 1
  · rename_i h
    obtain ⟨paged, filled⟩ := not_or.mp h
    have positive := toNat_pos paged
    refine Nat.le_min.mpr ⟨?_, by decide⟩
    rw [UInt32.toNat_one, Nat.le_div_iff_mul_le positive]
    omega

/-- A page up to the last one begins before the end of the list. -/
theorem start_lt_of_le_pageCount {total : Nat} {page perPage : UInt32} (paged : perPage ≠ 0) (filled : total ≠ 0)
    (h : page ≤ pageCount total perPage) : (max page.toNat 1 - 1) * perPage.toNat < total := by
  have positive := toNat_pos paged
  rw [UInt32.le_iff_toNat_le, toNat_pageCount, if_neg (not_or.mpr ⟨paged, filled⟩)] at h
  have within : page.toNat * perPage.toNat ≤ total + perPage.toNat - 1 :=
    (Nat.le_div_iff_mul_le positive).mp (Nat.le_trans h (Nat.min_le_left _ _))
  rcases Nat.eq_zero_or_pos page.toNat with zero | first
  · rw [zero, Nat.max_eq_right (Nat.zero_le 1), Nat.sub_self, Nat.zero_mul]
    exact Nat.pos_of_ne_zero filled
  · rw [Nat.max_eq_left first, Nat.sub_mul]
    omega

theorem paginate_ne_nil {α : Type} {items : List α} {page perPage : UInt32} (filled : items ≠ [])
    (h : page ≤ pageCount items.length perPage) : paginate items page perPage ≠ [] := by
  unfold paginate
  split
  · exact filled
  · rename_i paged
    have start := start_lt_of_le_pageCount paged (fun e => filled (List.length_eq_zero_iff.mp e)) h
    have positive := toNat_pos paged
    rw [ne_eq, List.take_eq_nil_iff, List.drop_eq_nil_iff, not_or]
    omega

/-! ## Tiling -/

/-- The pages of a list, from the first to the last. -/
def pages {α : Type} (items : List α) (perPage : UInt32) : List (List α) :=
  (List.range (pageCount items.length perPage).toNat).map fun i => paginate items (UInt32.ofNat (i + 1)) perPage

/-- The number of pages is not cut off if it fits a page number. -/
theorem toNat_pageCount_of_fits {total : Nat} {perPage : UInt32} (paged : perPage ≠ 0) (filled : total ≠ 0)
    (fits : (total + perPage.toNat - 1) / perPage.toNat ≤ UInt32.size - 1) :
    (pageCount total perPage).toNat = (total + perPage.toNat - 1) / perPage.toNat := by
  rw [toNat_pageCount, if_neg (not_or.mpr ⟨paged, filled⟩), Nat.min_eq_left fits]

/-- The pages that there are have room for the list, and without the last one they have not. -/
theorem length_le_of_fits {total : Nat} {perPage : UInt32} (paged : perPage ≠ 0)
    (fits : (total + perPage.toNat - 1) / perPage.toNat ≤ UInt32.size - 1) :
    total ≤ (pageCount total perPage).toNat * perPage.toNat ∧
    (total ≠ 0 → ((pageCount total perPage).toNat - 1) * perPage.toNat < total) := by
  have positive := toNat_pos paged
  by_cases filled : total = 0
  · exact ⟨filled ▸ Nat.zero_le _, fun h => absurd filled h⟩
  · rw [toNat_pageCount_of_fits paged filled fits]
    have within := Nat.div_mul_le_self (total + perPage.toNat - 1) perPage.toNat
    have beyond := Nat.lt_div_mul_add (a := total + perPage.toNat - 1) positive
    rw [Nat.sub_mul]
    omega

section

variable {α : Type} (items : List α) {perPage : UInt32}

theorem paginate_eq (paged : perPage ≠ 0) (page : UInt32) :
    paginate items page perPage = (items.drop ((max page.toNat 1 - 1) * perPage.toNat)).take perPage.toNat :=
  if_neg paged

/-- A page holds what is left of the list where it begins, up to its length. -/
theorem length_paginate (paged : perPage ≠ 0) (page : UInt32) : (paginate items page perPage).length =
    min perPage.toNat (items.length - (max page.toNat 1 - 1) * perPage.toNat) := by
  rw [paginate_eq items paged, List.length_take, List.length_drop]

/-- Pieces of one length, one after the other, are a first part of the list. -/
theorem flatten_pieces (length count : Nat) :
    ((List.range count).map fun i => (items.drop (i * length)).take length).flatten = items.take (count * length) := by
  induction count with
  | zero => rw [Nat.zero_mul, List.take_zero, List.range_zero, List.map_nil, List.flatten_nil]
  | succ count ih =>
    rw [List.range_succ, List.map_append, List.flatten_append, ih, Nat.succ_mul, List.take_add, List.map_singleton,
      List.flatten_singleton]

/-- The pages in a row are as much of the list as they have room for. -/
theorem flatten_pages (paged : perPage ≠ 0) :
    (pages items perPage).flatten = items.take ((pageCount items.length perPage).toNat * perPage.toNat) := by
  have numbered : pages items perPage = (List.range (pageCount items.length perPage).toNat).map fun i =>
      (items.drop (i * perPage.toNat)).take perPage.toNat := by
    refine List.map_congr_left fun i hi => ?_
    have small : i + 1 < UInt32.size :=
      Nat.lt_of_le_of_lt (List.mem_range.mp hi) (pageCount items.length perPage).toNat_lt
    rw [paginate_eq items paged, UInt32.toNat_ofNat_of_lt' small, Nat.max_eq_left (Nat.le_add_left 1 i),
      Nat.add_sub_cancel]
  rw [numbered, flatten_pieces]

theorem paginate_zero (perPage : UInt32) : paginate items 0 perPage = paginate items 1 perPage := rfl

variable {items}

section

variable (paged : perPage ≠ 0) (fits : (items.length + perPage.toNat - 1) / perPage.toNat ≤ UInt32.size - 1)
include paged fits

/-- A page before the last one is full. -/
theorem length_paginate_of_lt {page : UInt32} (first : 1 ≤ page) (before : page < pageCount items.length perPage) :
    (paginate items page perPage).length = perPage.toNat := by
  rw [UInt32.le_iff_toNat_le, UInt32.toNat_one] at first
  rw [UInt32.lt_iff_toNat_lt] at before
  have filled : items.length ≠ 0 := by
    intro empty
    rw [toNat_pageCount, if_pos (Or.inr empty)] at before
    omega
  -- the page ends before the last one begins
  have ends : (page.toNat - 1) * perPage.toNat + perPage.toNat < items.length := by
    calc (page.toNat - 1) * perPage.toNat + perPage.toNat
      _ = page.toNat * perPage.toNat := by rw [← Nat.succ_mul, Nat.succ_eq_add_one, Nat.sub_add_cancel first]
      _ ≤ ((pageCount items.length perPage).toNat - 1) * perPage.toNat :=
        Nat.mul_le_mul_right _ (Nat.le_sub_one_of_lt before)
      _ < items.length := (length_le_of_fits paged fits).2 filled
  rw [length_paginate items paged, Nat.max_eq_left first]
  omega

/-- A page past the last one is empty. -/
theorem paginate_eq_nil {page : UInt32} (beyond : pageCount items.length perPage < page) :
    paginate items page perPage = [] := by
  rw [UInt32.lt_iff_toNat_lt] at beyond
  -- the page begins where the last one ends, or later
  have begins : items.length ≤ (page.toNat - 1) * perPage.toNat :=
    Nat.le_trans (length_le_of_fits paged fits).1 (Nat.mul_le_mul_right _ (Nat.le_sub_one_of_lt beyond))
  rw [paginate_eq items paged, Nat.max_eq_left (Nat.one_le_of_lt beyond), List.drop_eq_nil_of_le begins, List.take_nil]

end

end

/-- **Pages tile the list.** With a page length of zero there is one page, and every page is the whole list. With any
other, if the pages can be counted: the pages in a row are the list; all but the last are full, and the last one has
something on it unless the list is empty; pages beyond are empty, and page zero is the first page. -/
theorem pages_tile {α : Type} (items : List α) (perPage : UInt32) :
    (perPage = 0 → pageCount items.length perPage = 1 ∧ ∀ page, paginate items page perPage = items) ∧
    (perPage ≠ 0 → (items.length + perPage.toNat - 1) / perPage.toNat ≤ UInt32.size - 1 →
      (pages items perPage).flatten = items ∧
      (∀ page, 1 ≤ page → page < pageCount items.length perPage →
        (paginate items page perPage).length = perPage.toNat) ∧
      (items ≠ [] → 1 ≤ (paginate items (pageCount items.length perPage) perPage).length ∧
        (paginate items (pageCount items.length perPage) perPage).length ≤ perPage.toNat) ∧
      (∀ page, pageCount items.length perPage < page → paginate items page perPage = []) ∧
      paginate items 0 perPage = paginate items 1 perPage) := by
  constructor
  · rintro rfl
    exact ⟨if_pos (Or.inl rfl), fun page => if_pos rfl⟩
  · intro paged fits
    refine ⟨?_, fun page => length_paginate_of_lt paged fits, fun filled => ⟨?_, ?_⟩,
      fun page => paginate_eq_nil paged fits, paginate_zero items perPage⟩
    · rw [flatten_pages items paged, List.take_of_length_le (length_le_of_fits paged fits).1]
    · exact List.length_pos_iff.mpr (paginate_ne_nil filled (UInt32.le_refl _))
    · rw [paginate_eq items paged]
      exact List.length_take_le _ _

/-- Five servers, two on a page. -/
theorem two_on_a_page_tile :
    let servers := ["files", "mail", "maps", "notes", "search"]
    (pages servers 2).flatten = servers ∧ pageCount servers.length 2 = 3 ∧ paginate servers 3 2 = ["search"] ∧
      paginate servers 4 2 = [] := by
  obtain ⟨tiled, -, -, beyond, -⟩ :=
    (pages_tile ["files", "mail", "maps", "notes", "search"] 2).2 (by decide) (by decide)
  exact ⟨tiled, by decide, by decide, beyond 4 (by decide)⟩

end Switchboard.Catalog
