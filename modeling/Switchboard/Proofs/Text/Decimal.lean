import Switchboard.Text.Literal

/-!
# Texts that denote a number

A numeral is a run of digits, perhaps after a plus sign; a text denotes its number if there are only blanks around it
(`Denotes`). Just these texts, trimmed, are read as numbers (`natural?_trim_eq_some_iff`): trimming takes off blanks and
nothing else (`exists_blanks`), and all the blanks around what has none at its ends (`trim_of_blanks`).
-/

namespace Switchboard.Text

/-- A numeral of `n`: digits, at least one, perhaps after a plus sign. -/
def Numeral (n : Nat) (cs : List Char) : Prop :=
  ∃ digits, (cs = digits ∨ cs = '+' :: digits) ∧ digits ≠ [] ∧ (∀ c ∈ digits, c.isDigit = true) ∧
    Nat.ofDigitChars 10 digits 0 = n

/-- A text denotes `n`: it is a numeral of `n`, perhaps with blanks around. -/
def Denotes (text : String) (n : Nat) : Prop :=
  ∃ before numeral after, text.toList = before ++ numeral ++ after ∧ Numeral n numeral ∧
    (∀ c ∈ before, isBlank c = true) ∧ ∀ c ∈ after, isBlank c = true

/-! ## Numerals -/

theorem digits?_eq_some_iff {cs : List Char} {n : Nat} : digits? cs = some n ↔
    cs ≠ [] ∧ (∀ c ∈ cs, c.isDigit = true) ∧ Nat.ofDigitChars 10 cs 0 = n := by
  have value : digitsValue cs = Nat.ofDigitChars 10 cs 0 := rfl
  unfold digits?
  split
  · rename_i no_digits
    simp only [Bool.or_eq_true, List.isEmpty_iff, Bool.not_eq_true', List.all_eq_false] at no_digits
    refine ⟨nofun, fun ⟨some_digit, digits, _⟩ => ?_⟩
    rcases no_digits with none | ⟨c, mem, other⟩
    · exact absurd none some_digit
    · exact absurd (digits c mem) other
  · rename_i all_digits
    simp only [Bool.or_eq_true, List.isEmpty_iff, Bool.not_eq_true', not_or, Bool.not_eq_false,
      List.all_eq_true] at all_digits
    rw [value, Option.some.injEq]
    exact ⟨fun same => ⟨all_digits.1, all_digits.2, same⟩, fun ⟨_, _, same⟩ => same⟩

theorem digits?_withoutPlus_eq_some_iff {cs : List Char} {n : Nat} :
    digits? (withoutPlus cs) = some n ↔ Numeral n cs := by
  rw [digits?_eq_some_iff]
  unfold withoutPlus
  split
  · rename_i rest
    constructor
    · exact fun numeral => ⟨rest, .inr rfl, numeral⟩
    · rintro ⟨digits, rfl | same, some_digit, all_digits, value⟩
      · exact absurd (all_digits '+' List.mem_cons_self) (by decide)
      · cases same
        exact ⟨some_digit, all_digits, value⟩
  · rename_i unsigned
    constructor
    · exact fun numeral => ⟨cs, .inl rfl, numeral⟩
    · rintro ⟨digits, rfl | signed, some_digit, all_digits, value⟩
      · exact ⟨some_digit, all_digits, value⟩
      · exact absurd signed (unsigned digits)

theorem natural?_eq_some_iff {bound n : Nat} {s : String} :
    natural? bound s = some n ↔ Numeral n s.toList ∧ n < bound := by
  rw [natural?, Option.filter_eq_some_iff, digits?_withoutPlus_eq_some_iff, decide_eq_true_eq]

/-! ## Blanks -/

theorem isBlank_of_isDigit {c : Char} (digit : c.isDigit = true) : isBlank c = false := by
  have range := Char.isDigit_iff_toNat.mp digit
  have nine : '9'.toNat = 57 := rfl
  have zero : '0'.toNat = 48 := rfl
  simp only [isBlank, Bool.or_eq_false_iff, Bool.and_eq_false_iff, decide_eq_false_iff_not, beq_eq_false_iff_ne]
  omega

/-- There are no blanks in a numeral. -/
theorem Numeral.inked {n : Nat} {cs : List Char} (h : Numeral n cs) : cs ≠ [] ∧ ∀ c ∈ cs, isBlank c = false := by
  obtain ⟨digits, rfl | rfl, some_digit, all_digits, -⟩ := h
  · exact ⟨some_digit, fun c mem => isBlank_of_isDigit (all_digits c mem)⟩
  · exact ⟨nofun, List.forall_mem_cons.mpr ⟨rfl, fun c mem => isBlank_of_isDigit (all_digits c mem)⟩⟩

theorem dropWhile_blanks {before ink rest : List Char} (blanks : ∀ c ∈ before, isBlank c = true) (some_ink : ink ≠ [])
    (inked : ∀ c ∈ ink, isBlank c = false) : (before ++ (ink ++ rest)).dropWhile isBlank = ink ++ rest := by
  obtain ⟨c, ink, rfl⟩ := List.exists_cons_of_ne_nil some_ink
  rw [List.dropWhile_append_of_pos blanks]
  exact List.dropWhile_cons_of_neg (Bool.eq_false_iff.mp (inked c List.mem_cons_self))

/-- Of a text with blanks around something that has none, that is left. -/
theorem trim_of_blanks {text : String} {before ink after : List Char} (parts : text.toList = before ++ ink ++ after)
    (some_ink : ink ≠ []) (inked : ∀ c ∈ ink, isBlank c = false) (first : ∀ c ∈ before, isBlank c = true)
    (last : ∀ c ∈ after, isBlank c = true) : (trim text).toList = ink := by
  have started : trimStart text.toList = ink ++ after := by
    rw [parts, List.append_assoc]
    exact dropWhile_blanks first some_ink inked
  have ended : (ink ++ after).reverse.dropWhile isBlank = ink.reverse := by
    rw [List.reverse_append, ← List.append_nil ink.reverse]
    exact dropWhile_blanks (fun c mem => last c (List.mem_reverse.mp mem)) (mt List.reverse_eq_nil_iff.mp some_ink)
      fun c mem => inked c (List.mem_reverse.mp mem)
  rw [trim, String.toList_ofList, started, trimEnd, ended, List.reverse_reverse]

/-- Only blanks are trimmed off. -/
theorem exists_blanks (text : String) : ∃ before after, text.toList = before ++ (trim text).toList ++ after ∧
    (∀ c ∈ before, isBlank c = true) ∧ ∀ c ∈ after, isBlank c = true := by
  have blanks : ∀ cs : List Char, ∀ c ∈ cs.takeWhile isBlank, isBlank c = true := fun _ =>
    List.all_eq_true.mp List.all_takeWhile
  have start : text.toList.takeWhile isBlank ++ trimStart text.toList = text.toList :=
    List.takeWhile_append_dropWhile
  have finish : (trim text).toList ++ ((trimStart text.toList).reverse.takeWhile isBlank).reverse =
      trimStart text.toList := by
    rw [trim, String.toList_ofList, trimEnd, ← List.reverse_append, List.takeWhile_append_dropWhile,
      List.reverse_reverse]
  refine ⟨_, _, ?_, blanks text.toList,
    fun c mem => blanks (trimStart text.toList).reverse c (List.mem_reverse.mp mem)⟩
  rw [List.append_assoc, finish, start]

/-! ## What is read -/

/-- A text is read as a number, but for blanks around it, iff it denotes the number. -/
theorem natural?_trim_eq_some_iff {bound n : Nat} {text : String} :
    natural? bound (trim text) = some n ↔ Denotes text n ∧ n < bound := by
  rw [natural?_eq_some_iff]
  refine and_congr_left' ⟨fun numeral => ?_, ?_⟩
  · obtain ⟨before, after, parts, first, last⟩ := exists_blanks text
    exact ⟨before, (trim text).toList, after, parts, numeral, first, last⟩
  · rintro ⟨before, ink, after, parts, numeral, first, last⟩
    obtain ⟨some_ink, inked⟩ := numeral.inked
    rw [trim_of_blanks parts some_ink inked first last]
    exact numeral

end Switchboard.Text
