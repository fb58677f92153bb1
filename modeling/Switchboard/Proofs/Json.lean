import Switchboard.Json.Tree

/-!
# Texts without a quotation mark

Where there is no quotation mark a text holds no string: no string is ever open while it is cut into tokens
(`stringless_of_scan`), and of tokens without strings no string is built (`Stage.stringless_run`). So it reads as a
value of another kind if at all (`isString_of_read?`).
-/

namespace Switchboard.Json

/-- Whether a value is a string. -/
def isString : Json → Bool
  | str _ => true
  | _ => false

/-! ## Tokens -/

namespace Token

/-- Whether a token is neither a string nor the value of one. -/
def stringless : Token → Bool
  | text _ => false
  | scalar v => !v.isString
  | _ => true

/-- Whether no string is open. -/
def Open.outside : Open → Bool
  | nothing | word _ | number _ => true
  | string .. | escape .. | code .. => false

theorem isString_decimal (negative : Bool) (whole fraction : List Char) (exponent : Int) :
    (decimal negative whole fraction exponent).isString = false := by
  simp only [decimal]
  split <;> rfl

theorem isString_integer (negative : Bool) (whole : List Char) : (integer negative whole).isString = false := by
  simp only [integer]
  split
  · split
    · rfl
    · exact isString_decimal ..
  · split
    · rfl
    · exact isString_decimal ..

theorem isString_number? {cs : List Char} {v : Json} (h : number? cs = some v) : v.isString = false := by
  simp only [number?] at h
  repeat' split at h
  -- no number, an integer, a decimal, or a decimal if its exponent is one
  all_goals first
    | (cases h; done)
    | (cases h; exact isString_integer ..)
    | (cases h; exact isString_decimal ..)
    | (obtain ⟨e, -, rfl⟩ := Option.map_eq_some_iff.mp h; exact isString_decimal ..)

theorem stringless_word? {letters : List Char} {t : Token} (h : word? letters = some t) : t.stringless = true := by
  unfold word? at h
  repeat' split at h
  all_goals
    cases h
    try rfl

variable {c : Char} {o o' : Open} {t : Token} {ts found : List Token}

theorem outside_begin (hc : c ≠ '"') (h : begin c = some (ts, o)) :
    (∀ t ∈ ts, t.stringless = true) ∧ o.outside = true := by
  unfold begin at h
  repeat' split at h
  all_goals first
    | contradiction
    | (cases h; exact ⟨by simp [stringless], rfl⟩)

/-- Only a quotation mark opens a string. -/
theorem outside_advance (hc : c ≠ '"') (ho : o.outside = true) (h : advance o c = some (ts, o')) :
    (∀ t ∈ ts, t.stringless = true) ∧ o'.outside = true := by
  cases o with
  | nothing => exact outside_begin hc h
  | word letters =>
    simp only [advance] at h
    split at h
    · cases h
      exact ⟨nofun, rfl⟩
    · split at h
      · rename_i t' ts' o'' closed begun
        cases h
        obtain ⟨rest, outside⟩ := outside_begin hc begun
        exact ⟨List.forall_mem_cons.mpr ⟨stringless_word? closed, rest⟩, outside⟩
      · cases h
  | number chars =>
    simp only [advance] at h
    split at h
    · cases h
      exact ⟨nofun, rfl⟩
    · split at h
      · rename_i v ts' o'' closed begun
        cases h
        obtain ⟨rest, outside⟩ := outside_begin hc begun
        refine ⟨List.forall_mem_cons.mpr ⟨?_, rest⟩, outside⟩
        rw [stringless, isString_number? closed]
        rfl
      · cases h
  | string chars sound half => cases ho
  | escape chars sound half => cases ho
  | code chars sound half count value => cases ho

theorem stringless_close (ho : o.outside = true) (h : close o = some ts) : ∀ t ∈ ts, t.stringless = true := by
  cases o with
  | nothing =>
    cases h
    exact nofun
  | word letters =>
    obtain ⟨t, closed, rfl⟩ := Option.map_eq_some_iff.mp h
    exact List.forall_mem_singleton.mpr (stringless_word? closed)
  | number chars =>
    obtain ⟨v, closed, rfl⟩ := Option.map_eq_some_iff.mp h
    refine List.forall_mem_singleton.mpr ?_
    rw [stringless, isString_number? closed]
    rfl
  | string chars sound half => cases ho
  | escape chars sound half => cases ho
  | code chars sound half count value => cases ho

theorem stringless_of_scan {cs : List Char} (hcs : ∀ c ∈ cs, c ≠ '"') (ho : o.outside = true)
    (before : ∀ t ∈ found, t.stringless = true) (h : scan found o cs = some ts) : ∀ t ∈ ts, t.stringless = true := by
  induction cs generalizing o found with
  | nil =>
    obtain ⟨rest, closed, rfl⟩ := Option.map_eq_some_iff.mp h
    intro t ht
    rcases List.mem_append.mp ht with ht | ht
    · exact before t (List.mem_reverse.mp ht)
    · exact stringless_close ho closed t ht
  | cons c cs ih =>
    rw [scan] at h
    split at h
    · rename_i new o' advanced
      obtain ⟨stringless, outside⟩ := outside_advance (hcs c List.mem_cons_self) ho advanced
      refine ih (fun c' hc' => hcs c' (List.mem_cons_of_mem _ hc')) outside (fun t ht => ?_) h
      rcases List.mem_append.mp ht with ht | ht
      · exact stringless t (List.mem_reverse.mp ht)
      · exact before t ht
    · cases h

end Token

/-! ## Trees -/

namespace Stage

/-- Whether the value that is complete, if there is one, is no string. -/
def stringless : Stage → Bool
  | complete _ v => !v.isString
  | _ => true

variable {s s' : Stage} {t : Token}

theorem stringless_start {under : List Frame} (ht : t.stringless = true) (h : start under t = some s') :
    s'.stringless = true := by
  cases t with
  | openArr | openObj =>
    cases h
    rfl
  | scalar v =>
    cases h
    exact ht
  | text value => cases ht
  | closeArr | closeObj | comma | colon => cases h

theorem stringless_finish {under : List Frame} {v : Json} (hv : v.isString = false) :
    (finish under v).stringless = true := by
  show (!(if under.length < depthLimit then v else unreadable).isString) = true
  split
  · rw [hv]
    rfl
  · rfl

theorem isString_object (members : List (Option String × Json)) : (object members).isString = false := by
  unfold object
  split <;> rfl

theorem stringless_advance (ht : t.stringless = true) (h : s.advance t = some s') : s'.stringless = true := by
  unfold advance at h
  split at h
  all_goals first
    | exact stringless_start ht h
    | (cases h; first | rfl | exact stringless_finish rfl | exact stringless_finish (isString_object _))
    | cases h

theorem stringless_run {ts : List Token} (hs : s.stringless = true) (hts : ∀ t ∈ ts, t.stringless = true)
    (h : s.run ts = some s') : s'.stringless = true := by
  induction ts generalizing s with
  | nil =>
    cases h
    exact hs
  | cons t ts ih =>
    rw [run] at h
    split at h
    · rename_i next advanced
      exact ih (stringless_advance (hts t List.mem_cons_self) advanced)
        (fun t' ht' => hts t' (List.mem_cons_of_mem _ ht')) h
    · cases h

end Stage

/-- A text without a quotation mark is not read as a string. -/
theorem isString_of_read? {s : String} (hs : ∀ c ∈ s.toList, c ≠ '"') {v : Json} (h : read? s = some v) :
    v.isString = false := by
  unfold read? at h
  split at h
  · rename_i ts scanned
    have tokens := Token.stringless_of_scan hs rfl (List.forall_mem_nil _) scanned
    unfold ofTokens? at h
    split at h
    · rename_i v' built
      cases h
      have whole := Stage.stringless_run rfl tokens built
      simpa only [Stage.stringless, Bool.not_eq_true'] using whole
    · cases h
  · cases h

end Switchboard.Json
