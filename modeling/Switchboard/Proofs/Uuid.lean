import Switchboard.Uuid

/-!
# Identifiers read back

Every identifier is read from the text that it is written as (`parse_text`). The text is plain: digits and hyphens, 36
bytes (`mem_text`, `utf8ByteSize_text`). So it is read as groups, and without the hyphens the groups are the 32 digits
(`ofGroups?_grouped`), whose number is that of the identifier (`ofDigits?_hexText`).
-/

namespace Switchboard.Uuid

open Text (hexValue?)

/-! ## Digits -/

theorem length_hexText (count n : Nat) : (hexText count n).length = count := by
  induction count generalizing n with
  | zero => rfl
  | succ count ih => rw [hexText, List.length_append, ih, List.length_singleton]

theorem mem_hexText {count n : Nat} {c : Char} (h : c ∈ hexText count n) : ∃ d, d < 16 ∧ c = Nat.digitChar d := by
  induction count generalizing n with
  | zero => cases h
  | succ count ih =>
    rcases List.mem_append.mp h with h | h
    · exact ih h
    · exact ⟨n % 16, Nat.mod_lt n (by decide), List.mem_singleton.mp h⟩

theorem digitChar_ne_hyphen {d : Nat} (h : d < 16) : Nat.digitChar d ≠ '-' := by
  revert d
  decide

theorem utf8Size_digitChar {d : Nat} (h : d < 16) : (Nat.digitChar d).utf8Size = 1 := by
  revert d
  decide

/-- Reading digits appends them to the number read so far. -/
theorem foldl_hexText (count n before : Nat) :
    (hexText count n).foldl (fun (n : Option Nat) c => do return 16 * (← n) + (← hexValue? c)) (some before) =
      some (Nat.pow 16 count * before + n % Nat.pow 16 count) := by
  induction count generalizing n with
  | zero => simp [hexText, Nat.mod_one]
  | succ count ih =>
    have power : Nat.pow 16 (count + 1) = 16 * Nat.pow 16 count := Nat.pow_succ'
    rw [hexText, List.foldl_append, ih]
    have digit : hexValue? (Nat.digitChar (n % 16)) = some (n % 16) :=
      Text.hexValue?_digitChar (Nat.mod_lt n (by decide))
    have split : n % (16 * Nat.pow 16 count) = n % 16 + 16 * (n / 16 % Nat.pow 16 count) := Nat.mod_mul
    simp only [List.foldl_cons, List.foldl_nil, digit, bind, pure, Option.bind]
    rw [power, split, Nat.mul_assoc]
    congr 1
    omega

theorem ofDigits?_hexText (u : Uuid) : ofDigits? (hexText 32 u.bits.toNat) = some u := by
  have small : u.bits.toNat % Nat.pow 16 32 = u.bits.toNat := Nat.mod_eq_of_lt u.bits.isLt
  rw [ofDigits?, if_pos (length_hexText 32 _), foldl_hexText, Nat.mul_zero, Nat.zero_add, small]
  simp

/-! ## Groups -/

/-- Digits in groups, with hyphens between them. -/
def grouped (digits : List Char) : List Char :=
  digits.take 8 ++ '-' :: ((digits.drop 8).take 4 ++ '-' :: ((digits.drop 12).take 4
    ++ '-' :: ((digits.drop 16).take 4 ++ '-' :: digits.drop 20)))

theorem toList_text (u : Uuid) : u.text.toList = grouped (hexText 32 u.bits.toNat) := String.toList_ofList

section Grouped

variable {digits : List Char}

theorem mem_grouped {c : Char} (h : c ∈ grouped digits) : c = '-' ∨ c ∈ digits := by
  simp only [grouped, List.mem_append, List.mem_cons] at h
  rcases h with h | h | h | h | h | h | h | h | h
  · exact Or.inr (List.mem_of_mem_take h)
  · exact Or.inl h
  · exact Or.inr (List.mem_of_mem_drop (List.mem_of_mem_take h))
  · exact Or.inl h
  · exact Or.inr (List.mem_of_mem_drop (List.mem_of_mem_take h))
  · exact Or.inl h
  · exact Or.inr (List.mem_of_mem_drop (List.mem_of_mem_take h))
  · exact Or.inl h
  · exact Or.inr (List.mem_of_mem_drop h)

/-- Without the hyphens the digits are left. -/
theorem filter_grouped (plain : ∀ c ∈ digits, c ≠ '-') : (grouped digits).filter (fun c => c != '-') = digits := by
  have keep : ∀ part : List Char, (∀ c ∈ part, c ∈ digits) → part.filter (fun c => c != '-') = part := fun part sub =>
    List.filter_eq_self.mpr fun c hc => bne_iff_ne.mpr (plain c (sub c hc))
  have hyphen : ∀ rest : List Char, ('-' :: rest).filter (fun c => c != '-') = rest.filter (fun c => c != '-') :=
    fun _ => rfl
  rw [grouped, List.filter_append, hyphen, List.filter_append, hyphen, List.filter_append, hyphen, List.filter_append,
    hyphen, keep _ fun _ => List.mem_of_mem_take,
    keep _ fun _ h => List.mem_of_mem_drop (List.mem_of_mem_take h),
    keep _ fun _ h => List.mem_of_mem_drop (List.mem_of_mem_take h),
    keep _ fun _ h => List.mem_of_mem_drop (List.mem_of_mem_take h), keep _ fun _ => List.mem_of_mem_drop]
  have join : ∀ i n, (digits.drop i).take n ++ digits.drop (i + n) = digits.drop i := fun i n => by
    rw [← List.drop_drop, List.take_append_drop]
  rw [join 16 4, join 12 4, join 8 4, List.take_append_drop]

theorem ofGroups?_grouped (size : digits.length = 32) (plain : ∀ c ∈ digits, c ≠ '-') :
    ofGroups? (grouped digits) = ofDigits? digits := by
  have form : (grouped digits).length = 36 ∧ [8, 13, 18, 23].all fun i => (grouped digits)[i]? == some '-' := by
    simp [grouped, List.getElem?_append, List.getElem?_cons, size]
  rw [ofGroups?, if_pos form, filter_grouped plain]

end Grouped

/-! ## Texts -/

theorem mem_text {u : Uuid} {c : Char} (h : c ∈ u.text.toList) : c = '-' ∨ ∃ d, d < 16 ∧ c = Nat.digitChar d := by
  rw [toList_text] at h
  exact (mem_grouped h).imp_right mem_hexText

/-- A text takes as many bytes as it has characters if each of them takes one. -/
theorem utf8ByteSize_ofList {cs : List Char} (h : ∀ c ∈ cs, c.utf8Size = 1) :
    (String.ofList cs).utf8ByteSize = cs.length := by
  induction cs with
  | nil => rfl
  | cons c cs ih =>
    rw [String.ofList_cons, String.utf8ByteSize_append, String.utf8ByteSize_singleton, h c List.mem_cons_self,
      ih fun c' hc' => h c' (List.mem_cons_of_mem _ hc'), List.length_cons, Nat.add_comm]

theorem utf8ByteSize_text (u : Uuid) : u.text.utf8ByteSize = groupsSize := by
  have single : ∀ c ∈ grouped (hexText 32 u.bits.toNat), c.utf8Size = 1 := by
    intro c hc
    rw [← toList_text] at hc
    rcases mem_text hc with rfl | ⟨d, small, rfl⟩
    · decide
    · exact utf8Size_digitChar small
  refine (utf8ByteSize_ofList single).trans ?_
  simp [grouped, length_hexText, groupsSize]

theorem parse_text (u : Uuid) : parse u.text = .ok u := by
  have form : ofForm? u.text.utf8ByteSize u.text.toList = some u := by
    rw [utf8ByteSize_text, toList_text, ofForm?, if_neg (by decide), if_pos rfl,
      ofGroups?_grouped (length_hexText 32 _), ofDigits?_hexText]
    intro c hc
    obtain ⟨d, small, rfl⟩ := mem_hexText hc
    exact digitChar_ne_hyphen small
  rw [parse, form]

end Switchboard.Uuid
