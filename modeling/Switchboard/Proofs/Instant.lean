import Mathlib.Algebra.Group.Nat.Defs
import Mathlib.Data.List.Induction
import Switchboard.Instant
import Switchboard.Proofs.Text.Decimal

/-!
# Points in time read back

What is read is a point in time that there is: its date is in the calendar and its time on the clock
(`valid_of_parse`), also after it was moved to universal time (`Valid.minus`). And such a point in time is read from
the text that it is written as (`parse_text`), so reading what was read and written again gives the same.
-/

namespace Switchboard.Instant

open Text (digitsValue isBlank isBlank_of_isDigit trimStart)

/-! ## Readers in sequence -/

/-- What two steps give is what the second gives for a value of the first. -/
theorem bind_eq_ok {ε α β : Type} {x : Except ε α} {f : α → Except ε β} {b : β} :
    x >>= f = .ok b ↔ ∃ a, x = .ok a ∧ f a = .ok b := by
  cases x with
  | error e => exact ⟨nofun, nofun⟩
  | ok a => exact ⟨fun h => ⟨a, rfl, h⟩, fun ⟨_, ha, h⟩ => Except.ok.inj ha ▸ h⟩

/-! ## Digits -/

/-- Only digits. -/
def AllDigits (cs : List Char) : Prop := ∀ c ∈ cs, c.isDigit = true

theorem isDigit_digitChar_mod (n : Nat) : (Nat.digitChar (n % 10)).isDigit = true := by
  rw [Nat.isDigit_digitChar, decide_eq_true_eq]
  exact Nat.mod_lt n (by decide)

theorem length_padded (count n : Nat) : (padded count n).length = count := by
  induction count generalizing n with
  | zero => rfl
  | succ count ih => rw [padded, List.length_append, ih, List.length_singleton]

theorem allDigits_padded (count n : Nat) : AllDigits (padded count n) := by
  induction count generalizing n with
  | zero => exact List.forall_mem_nil _
  | succ count ih =>
    intro c hc
    rcases List.mem_append.mp hc with hc | hc
    · exact ih _ c hc
    · rw [List.mem_singleton.mp hc]
      exact isDigit_digitChar_mod n

theorem digitsValue_padded (count n : Nat) : digitsValue (padded count n) = n % 10 ^ count := by
  show Nat.ofDigitChars 10 (padded count n) 0 = _
  induction count generalizing n with
  | zero => simp [padded, Nat.mod_one]
  | succ count ih =>
    have small : n % 10 < 10 := Nat.mod_lt n (by decide)
    rw [padded, Nat.ofDigitChars_append, ih, Nat.ofDigitChars_cons_digitChar_of_lt_ten small, Nat.ofDigitChars_nil,
      Nat.pow_succ', Nat.mod_mul]
    omega

theorem digitsValue_lt {cs : List Char} (h : AllDigits cs) : digitsValue cs < 10 ^ cs.length := by
  show Nat.ofDigitChars 10 cs 0 < _
  induction cs using List.reverseRecOn with
  | nil => simp
  | append_singleton cs c ih =>
    have digit := Char.isDigit_iff_toNat.mp (h c (by simp))
    have before := ih fun d hd => h d (List.mem_append_left _ hd)
    rw [Nat.ofDigitChars_append, Nat.ofDigitChars_cons, Nat.ofDigitChars_nil, List.length_append,
      List.length_singleton, Nat.pow_succ]
    have nine : '9'.toNat = '0'.toNat + 9 := rfl
    omega

/-- Digits are read up to the first other character, or as many as may be read. -/
theorem number_append {cs rest : List Char} {most : Nat} (digits : AllDigits cs) (some_digit : cs ≠ [])
    (fits : cs.length ≤ most) (ends : cs.length = most ∨ rest.head?.all fun c => !c.isDigit)
    (small : digitsValue cs < Nat.pow 2 63) : number most (cs ++ rest) = .ok (digitsValue cs, rest) := by
  obtain ⟨c, cs, rfl⟩ := List.exists_cons_of_ne_nil some_digit
  have taken : ((c :: cs ++ rest).take most).takeWhile Char.isDigit = c :: cs := by
    rw [List.take_append, List.take_of_length_le fits, List.takeWhile_append_of_pos digits]
    rcases ends with full | stops
    · rw [full, Nat.sub_self, List.take_zero, List.takeWhile_nil, List.append_nil]
    · cases rest with
      | nil => simp
      | cons d rest =>
        have other : d.isDigit = false := by simpa using stops
        cases most - (c :: cs).length <;> simp [other]
  have first : (!c.isDigit) = false := by rw [digits c List.mem_cons_self]; rfl
  simp only [number, List.cons_append] at taken ⊢
  rw [first, taken]
  simp only [Bool.false_eq_true, if_false, if_pos small]
  rw [← List.cons_append, List.drop_left]

/-! ## Parts of a text -/

theorem trimStart_cons {c : Char} (ink : isBlank c = false) (rest : List Char) : trimStart (c :: rest) = c :: rest :=
  List.dropWhile_cons_of_neg (by rw [ink]; decide)

/-- Nothing is blank before digits. -/
theorem trimStart_digits {cs : List Char} (digits : AllDigits cs) (some_digit : cs ≠ []) (rest : List Char) :
    trimStart (cs ++ rest) = cs ++ rest := by
  obtain ⟨c, cs, rfl⟩ := List.exists_cons_of_ne_nil some_digit
  exact trimStart_cons (isBlank_of_isDigit (digits c List.mem_cons_self)) _

/-- As many digits as may be read are read, whatever follows. -/
theorem number_padded {count n : Nat} (positive : count ≠ 0) (few : count ≤ 18) (rest : List Char) :
    number count (padded count n ++ rest) = .ok (n % 10 ^ count, rest) := by
  have length := length_padded count n
  have bound : n % 10 ^ count < Nat.pow 2 63 :=
    calc n % 10 ^ count < 10 ^ count := Nat.mod_lt n (Nat.pow_pos (Nat.succ_pos 9))
      _ ≤ 10 ^ 18 := Nat.pow_le_pow_right (Nat.succ_pos 9) few
      _ < Nat.pow 2 63 := by decide
  rw [number_append (allDigits_padded count n) (fun none => positive (by rw [← length, none]; rfl))
    (Nat.le_of_eq length) (.inl length) (by rw [digitsValue_padded]; exact bound), digitsValue_padded]

theorem bounded_padded {low high n : Nat} (least : low ≤ n) (most : n ≤ high) (small : n < 100) (rest : List Char) :
    bounded low high (padded 2 n ++ rest) = .ok (n, rest) := by
  have some_digit : padded 2 n ≠ [] := fun none => absurd (length_padded 2 n) (by rw [none]; decide)
  rw [bounded, trimStart_digits (allDigits_padded 2 n) some_digit, number_padded (by decide) (by decide),
    Nat.mod_eq_of_lt (show n < 10 ^ 2 from small)]
  exact if_pos ⟨least, most⟩

theorem separator_cons {c : Char} (ink : isBlank c = false) (rest : List Char) :
    separator c (c :: rest) = .ok ((), rest) := by
  rw [separator, trimStart_cons ink, literal, if_pos rfl]

/-- The digits of a year that needs a sign. -/
def signedDigits (n : Nat) : List Char := List.replicate (4 - (Nat.toDigits 10 n).length) '0' ++ Nat.toDigits 10 n

theorem allDigits_signedDigits (n : Nat) : AllDigits (signedDigits n) := by
  intro c hc
  rcases List.mem_append.mp hc with hc | hc
  · rw [List.eq_of_mem_replicate hc]
    decide
  · exact Nat.isDigit_of_mem_toDigits (Nat.succ_pos 9) (Nat.le_refl 10) hc

theorem digitsValue_signedDigits (n : Nat) : digitsValue (signedDigits n) = n := by
  show Nat.ofDigitChars 10 (signedDigits n) 0 = n
  rw [signedDigits, Nat.ofDigitChars_append, Nat.ofDigitChars_replicate_zero, Nat.mul_zero,
    Nat.ofDigitChars_ten_toDigits]

theorem number_signedDigits {n : Nat} (small : n < Nat.pow 2 63) (rest : List Char) :
    number (signedDigits n ++ '-' :: rest).length (signedDigits n ++ '-' :: rest) = .ok (n, '-' :: rest) := by
  have some_digit : signedDigits n ≠ [] := fun none =>
    absurd (List.append_eq_nil_iff.mp none).2 (List.ne_nil_of_length_pos Nat.length_toDigits_pos)
  rw [number_append (allDigits_signedDigits n) some_digit (by simp) (.inr rfl)
    (by rw [digitsValue_signedDigits]; exact small), digitsValue_signedDigits]

theorem yearInRange_iff {year : Int} : yearInRange year = true ↔ -262143 ≤ year ∧ year ≤ 262142 := by
  rw [yearInRange, Bool.and_eq_true, decide_eq_true_eq, decide_eq_true_eq]

/-- The year up to the hyphen after it. -/
theorem calendarYear_yearText {year : Int} (inRange : yearInRange year = true) (rest : List Char) :
    calendarYear (yearText year ++ '-' :: rest) = .ok (year, '-' :: rest) := by
  obtain ⟨least, most⟩ := yearInRange_iff.mp inRange
  have wide : -2147483648 ≤ year ∧ year ≤ 2147483647 := by omega
  by_cases four : 0 ≤ year ∧ year ≤ 9999
  · -- Four digits, so neither sign stands in front.
    have some_digit : padded 4 year.toNat ≠ [] := fun none =>
      absurd (length_padded 4 year.toNat) (by rw [none]; decide)
    have value : ((year.toNat % 10 ^ 4 : Nat) : Int) = year := by omega
    have read := number_padded (n := year.toNat) (show 4 ≠ 0 by decide) (by decide) ('-' :: rest)
    rw [calendarYear, yearText, if_pos four, trimStart_digits (allDigits_padded 4 _) some_digit]
    have plain := allDigits_padded 4 year.toNat
    obtain ⟨c, cs, form⟩ := List.exists_cons_of_ne_nil some_digit
    rw [form] at read plain ⊢
    have digit := plain c List.mem_cons_self
    split
    next h => exact absurd digit (by rw [(List.cons.inj h).1]; decide)
    next h => exact absurd digit (by rw [(List.cons.inj h).1]; decide)
    next =>
      rw [read]
      simp only [bind, Except.bind, pure, Except.pure, value]
      exact if_pos wide
  · have small : year.natAbs < Nat.pow 2 63 := Nat.lt_trans (show year.natAbs < 262144 by omega) (by decide)
    have read := number_signedDigits small rest
    rw [calendarYear, yearText, if_neg four]
    by_cases negative : year < 0
    · have value : -((year.natAbs : Nat) : Int) = year := by omega
      simp only [if_pos negative, List.cons_append]
      rw [trimStart_cons (by decide)]
      simp only [signedDigits] at read
      simp only [read, bind, Except.bind, pure, Except.pure, value]
      exact if_pos wide
    · have value : ((year.natAbs : Nat) : Int) = year := by omega
      simp only [if_neg negative, List.cons_append]
      rw [trimStart_cons (by decide)]
      simp only [signedDigits] at read
      simp only [read, bind, Except.bind, pure, Except.pure, value]
      exact if_pos wide

/-- Digits before the mark at the end are a fraction. -/
theorem fraction_padded {count n : Nat} (positive : count ≠ 0) (few : count ≤ 9) (small : n < 10 ^ count) :
    fraction ('.' :: padded count n ++ ['Z']) = .ok (n * 10 ^ (9 - count), ['Z']) := by
  have length := length_padded count n
  have some_digit : padded count n ≠ [] := fun none => positive (by rw [← length, none]; rfl)
  have value : digitsValue (padded count n) = n := (digitsValue_padded count n).trans (Nat.mod_eq_of_lt small)
  have bound : n < Nat.pow 2 63 :=
    calc n < 10 ^ count := small
      _ ≤ 10 ^ 9 := Nat.pow_le_pow_right (by decide) few
      _ < Nat.pow 2 63 := by decide
  rw [List.cons_append, fraction, number_append (allDigits_padded count n) some_digit (by omega) (.inr rfl)
    (by rw [value]; exact bound), value]
  have digits : (padded count n ++ ['Z']).length - ['Z'].length = count := by
    rw [List.length_append, Nat.add_sub_cancel, length]
  simp only [bind, Except.bind, digits]
  rfl

theorem fraction_fractionText {nano : Nat} (small : nano < 10 ^ 9) :
    fraction (fractionText nano ++ ['Z']) = .ok (nano, ['Z']) := by
  by_cases whole : nano = 0
  · rw [fractionText, if_pos whole, whole]
    rfl
  rw [fractionText, if_neg whole]
  by_cases milli : nano % 1000000 = 0
  · rw [if_pos milli, fraction_padded (by decide) (by decide) (by omega)]
    have value : nano / 1000000 * 10 ^ (9 - 3) = nano := by omega
    rw [value]
  rw [if_neg milli]
  by_cases micro : nano % 1000 = 0
  · rw [if_pos micro, fraction_padded (by decide) (by decide) (by omega)]
    have value : nano / 1000 * 10 ^ (9 - 6) = nano := by omega
    rw [value]
  · rw [if_neg micro, fraction_padded (by decide) (by decide) small, Nat.sub_self, Nat.pow_zero, Nat.mul_one]

/-! ## Points in time that there are -/

/-- A date of the calendar and a time of the clock. -/
structure Valid (t : Instant) : Prop where
  year : yearInRange t.year = true
  month : 1 ≤ t.month ∧ t.month ≤ 12
  day : 1 ≤ t.day ∧ t.day ≤ daysIn t.year t.month
  hour : t.hour ≤ 23
  minute : t.minute ≤ 59
  second : t.second ≤ 60
  nano : t.nano < 10 ^ 9

theorem daysIn_pos (year : Int) (month : Nat) : 1 ≤ daysIn year month := by
  unfold daysIn
  repeat' split
  all_goals decide

theorem daysIn_le (year : Int) (month : Nat) : daysIn year month ≤ 31 := by
  unfold daysIn
  repeat' split
  all_goals decide

/-- A date of the calendar but for its year, whose range is checked apart. -/
def DateFits (t : Instant) : Prop := (1 ≤ t.month ∧ t.month ≤ 12) ∧ 1 ≤ t.day ∧ t.day ≤ daysIn t.year t.month

theorem dateFits_nextDay {t : Instant} (h : t.DateFits) : t.nextDay.DateFits := by
  obtain ⟨⟨_, _⟩, _, _⟩ := h
  unfold nextDay
  split
  · exact ⟨⟨‹_›, ‹_›⟩, Nat.le_add_left 1 _, by assumption⟩
  · split
    · exact ⟨⟨Nat.le_add_left 1 _, by assumption⟩, Nat.le_refl 1, daysIn_pos _ _⟩
    · exact ⟨⟨Nat.le_refl 1, Nat.le_add_left 1 11⟩, Nat.le_refl 1, daysIn_pos _ _⟩

theorem dateFits_previousDay {t : Instant} (h : t.DateFits) : t.previousDay.DateFits := by
  obtain ⟨⟨_, _⟩, _, _⟩ := h
  unfold previousDay
  split
  · refine ⟨⟨‹_›, ‹_›⟩, ?_, ?_⟩ <;> dsimp only <;> omega
  · split
    · refine ⟨⟨?_, ?_⟩, daysIn_pos _ _, Nat.le_refl _⟩ <;> dsimp only <;> omega
    · exact ⟨⟨Nat.le_add_left 1 11, Nat.le_refl 12⟩, Nat.le_add_left 1 30, Nat.le_refl 31⟩

/-- The day before or after has the same time. -/
theorem clock_nextDay (t : Instant) : t.nextDay.second = t.second ∧ t.nextDay.nano = t.nano := by
  unfold nextDay
  repeat' split
  all_goals exact ⟨rfl, rfl⟩

theorem clock_previousDay (t : Instant) : t.previousDay.second = t.second ∧ t.previousDay.nano = t.nano := by
  unfold previousDay
  repeat' split
  all_goals exact ⟨rfl, rfl⟩

/-- A time moved by less than a day is a time of the clock again, on a date of the calendar. -/
theorem valid_minus {t : Instant} {minutes : Int} (h : t.Valid) (few : minutes.natAbs < 1440)
    (inRange : yearInRange (t.minus minutes).year = true) : (t.minus minutes).Valid := by
  have fits : t.DateFits := ⟨h.month, h.day⟩
  obtain ⟨hour, minute⟩ := And.intro h.hour h.minute
  have moved : ∀ u : Instant, u.DateFits → u.second = t.second ∧ u.nano = t.nano → ∀ total : Int, 0 ≤ total →
      total < 1440 → yearInRange u.year = true →
      ({ u with hour := (total / 60).toNat, minute := (total % 60).toNat } : Instant).Valid :=
    fun u date clock total least most year =>
      ⟨year, date.1, date.2, by dsimp only; omega, by dsimp only; omega, clock.1 ▸ h.second, clock.2 ▸ h.nano⟩
  unfold minus at inRange ⊢
  dsimp only at inRange ⊢
  split at inRange
  next early =>
    rw [if_pos early]
    exact moved _ (dateFits_previousDay fits) (clock_previousDay t) _ (by omega) (by omega) inRange
  next notEarly =>
    rw [if_neg notEarly]
    split at inRange
    next late =>
      rw [if_pos late]
      exact moved _ (dateFits_nextDay fits) (clock_nextDay t) _ (by omega) (by omega) inRange
    next notLate =>
      rw [if_neg notLate]
      exact moved _ fits ⟨rfl, rfl⟩ _ (by omega) (by omega) inRange

/-- Nothing is moved by no minutes. -/
theorem minus_zero {t : Instant} (h : t.Valid) : t.minus 0 = t := by
  have hour := h.hour
  have minute := h.minute
  unfold minus
  dsimp only
  rw [if_neg (by omega), if_neg (by omega)]
  have whole : (((t.hour * 60 + t.minute : Nat) - 0 : Int) / 60).toNat = t.hour := by omega
  have rest : (((t.hour * 60 + t.minute : Nat) - 0 : Int) % 60).toNat = t.minute := by omega
  rw [whole, rest]

/-! ## Reading -/

/-- A number read has at most the digits that may be read. -/
theorem number_ok {most n : Nat} {cs rest : List Char} (h : number most cs = .ok (n, rest)) :
    n < 10 ^ (cs.length - rest.length) ∧ cs.length - rest.length ≤ most := by
  cases cs with
  | nil => cases h
  | cons c cs =>
    simp only [number] at h
    split at h
    · cases h
    split at h
    · obtain ⟨rfl, rfl⟩ := Prod.mk.inj (Except.ok.inj h)
      have prefix_length : (((c :: cs).take most).takeWhile Char.isDigit).length ≤ min most (c :: cs).length :=
        Nat.le_trans (List.takeWhile_sublist _).length_le (Nat.le_of_eq List.length_take)
      rw [List.length_drop, Nat.sub_sub_self (Nat.le_trans prefix_length (Nat.min_le_right _ _))]
      exact ⟨digitsValue_lt fun d hd => List.all_eq_true.mp List.all_takeWhile d hd,
        Nat.le_trans prefix_length (Nat.min_le_left _ _)⟩
    · cases h

theorem bounded_ok {low high n : Nat} {cs rest : List Char} (h : bounded low high cs = .ok (n, rest)) :
    low ≤ n ∧ n ≤ high := by
  unfold bounded at h
  obtain ⟨⟨m, after⟩, _, h⟩ := bind_eq_ok.mp h
  dsimp only at h
  split at h
  next within =>
    obtain ⟨rfl, rfl⟩ := Prod.mk.inj (Except.ok.inj h)
    exact within
  next => cases h

theorem fraction_ok {n : Nat} {cs rest : List Char} (h : fraction cs = .ok (n, rest)) : n < 10 ^ 9 := by
  unfold fraction at h
  split at h
  next tail =>
    obtain ⟨⟨m, after⟩, read, h⟩ := bind_eq_ok.mp h
    obtain ⟨small, few⟩ := number_ok read
    obtain ⟨rfl, rfl⟩ := Prod.mk.inj (Except.ok.inj h)
    calc m * 10 ^ (9 - (tail.length - after.length))
        < 10 ^ (tail.length - after.length) * 10 ^ (9 - (tail.length - after.length)) :=
          Nat.mul_lt_mul_of_pos_right small (Nat.pow_pos (Nat.succ_pos 9))
      _ = 10 ^ 9 := by rw [← Nat.pow_add, Nat.add_sub_cancel' few]
  next =>
    obtain ⟨rfl, rfl⟩ := Prod.mk.inj (Except.ok.inj h)
    decide

/-- What is read is in the calendar and on the clock. -/
theorem valid_of_parse {s : String} {t : Instant} (h : parse s = .ok t) : t.Valid := by
  unfold parse at h
  obtain ⟨⟨y, _⟩, _, h⟩ := bind_eq_ok.mp h
  obtain ⟨_, _, h⟩ := bind_eq_ok.mp h
  obtain ⟨⟨mo, _⟩, month, h⟩ := bind_eq_ok.mp h
  obtain ⟨_, _, h⟩ := bind_eq_ok.mp h
  obtain ⟨⟨d, _⟩, day, h⟩ := bind_eq_ok.mp h
  obtain ⟨_, _, h⟩ := bind_eq_ok.mp h
  obtain ⟨⟨hh, _⟩, hour, h⟩ := bind_eq_ok.mp h
  obtain ⟨_, _, h⟩ := bind_eq_ok.mp h
  obtain ⟨⟨mi, _⟩, minute, h⟩ := bind_eq_ok.mp h
  obtain ⟨_, _, h⟩ := bind_eq_ok.mp h
  obtain ⟨⟨sec, _⟩, second, h⟩ := bind_eq_ok.mp h
  obtain ⟨⟨n, _⟩, nano, h⟩ := bind_eq_ok.mp h
  obtain ⟨⟨off, _⟩, _, h⟩ := bind_eq_ok.mp h
  dsimp only at h
  split at h
  · cases h
  split at h
  · cases h
  next fits =>
    simp only [Bool.or_eq_true, Bool.not_eq_true', decide_eq_true_eq, not_or, Bool.not_eq_false, Nat.not_lt,
      Nat.not_le] at fits
    obtain ⟨⟨year, date⟩, few⟩ := fits
    have valid : Valid ⟨y, mo, d, hh, mi, sec, n⟩ :=
      ⟨year, bounded_ok month, ⟨(bounded_ok day).1, date⟩, (bounded_ok hour).2, (bounded_ok minute).2,
        (bounded_ok second).2, fraction_ok nano⟩
    split at h
    next inRange =>
      cases h
      exact valid_minus valid few inRange
    next => cases h

/-! ## Texts -/

theorem parse_text {t : Instant} (h : t.Valid) : parse t.text = .ok t := by
  have chars : t.text.toList = yearText t.year ++ '-' :: (padded 2 t.month ++ '-' :: (padded 2 t.day ++ 'T' ::
      (padded 2 t.hour ++ ':' :: (padded 2 t.minute ++ ':' ::
        (padded 2 t.second ++ (fractionText t.nano ++ ['Z'])))))) := String.toList_ofList
  have ok_bind : ∀ {α β : Type} (a : α) (f : α → Except Malformed β), (Except.ok a >>= f) = f a := fun _ _ => rfl
  have mark : ∀ rest, timeMark ('T' :: rest) = .ok ((), rest) := fun _ => rfl
  have month : t.month < 100 := Nat.lt_of_le_of_lt h.month.2 (by decide)
  have dayMost : t.day ≤ 31 := Nat.le_trans h.day.2 (daysIn_le _ _)
  have hour := h.hour
  have minute := h.minute
  have second := h.second
  have universal : offset (trimStart ['Z']) = .ok (0, []) := rfl
  have fits : (!yearInRange t.year || decide (daysIn t.year t.month < t.day) ||
      decide (1440 ≤ Int.natAbs 0)) = false := by
    rw [h.year, decide_eq_false (Nat.not_lt.mpr h.day.2)]
    rfl
  rw [parse, chars]
  simp only [calendarYear_yearText h.year, ok_bind, separator_cons (show isBlank '-' = false by decide),
    separator_cons (show isBlank ':' = false by decide), bounded_padded h.month.1 h.month.2 month,
    bounded_padded h.day.1 dayMost (by omega), mark, bounded_padded (Nat.zero_le _) hour (by omega),
    bounded_padded (Nat.zero_le _) minute (by omega), bounded_padded (Nat.zero_le _) second (by omega),
    fraction_fractionText h.nano, universal, fits]
  simp only [minus_zero h, h.year, if_true]
  rfl

end Switchboard.Instant
