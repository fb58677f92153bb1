import Switchboard.Text.Case

/-!
# Lower case in context

Only a capital sigma looks at the characters around it. A part of a text is lower-cased where it stands
(`lowerWithin`), and a text part by part (`lowerWithin_append`). So the lower-case form of a part stands in that of the
text if the part keeps its sigmas there (`lower_infix`): each of them ends a word in the text iff it ends one in the
part. A part that does not has a sigma next to an end of it, and the text goes on with the word beyond that end
(`sigma_at_end`).
-/

namespace Switchboard.Text

/-- Whether a sigma ends a word, given the characters before it, nearest first, and those after it. -/
def endsWord (before after : List Char) : Bool := startsCased before && !startsCased after

/-- Lower-cases a character where it stands. -/
def lowerAt (before : List Char) (c : Char) (after : List Char) : List Char :=
  if c = 'Σ' then (if endsWord before after then ['ς'] else ['σ'])
  else if c = 'İ' then ['i', '\u0307']
  else [lowerChar c]

/-- Lower-cases a part of a text where it stands: after `before`, nearest first, and ahead of `after`. -/
def lowerWithin (before : List Char) : List Char → List Char → List Char
  | [], _ => []
  | c :: rest, after => lowerAt before c (rest ++ after) ++ lowerWithin (c :: before) rest after

theorem lowerFrom_eq (before cs : List Char) : lowerFrom before cs = lowerWithin before cs [] := by
  induction cs generalizing before with
  | nil => rfl
  | cons c rest ih => rw [lowerFrom, lowerWithin, ih, lowerAt, List.append_nil, endsWord]

theorem lowerWithin_append (before x y after : List Char) :
    lowerWithin before (x ++ y) after =
      lowerWithin before x (y ++ after) ++ lowerWithin (x.reverse ++ before) y after := by
  induction x generalizing before with
  | nil => rfl
  | cons c rest ih =>
    rw [List.cons_append, lowerWithin, lowerWithin, ih, List.append_assoc, List.append_assoc, List.reverse_cons,
      List.append_assoc, List.singleton_append]

/-! ## Sigmas -/

/-- A part between `before`, nearest first, and `after` keeps its sigmas: each capital sigma ends a word where it stands
iff it ends one in the part by itself. -/
def KeepsSigmas (before part after : List Char) : Prop :=
  ∀ u w, part = u ++ 'Σ' :: w → endsWord (u.reverse ++ before) (w ++ after) = endsWord u.reverse w

/-- Only the sigmas of a part depend on where it stands. -/
theorem lowerWithin_congr {before before' part after after' : List Char}
    (same : ∀ u w, part = u ++ 'Σ' :: w →
      endsWord (u.reverse ++ before) (w ++ after) = endsWord (u.reverse ++ before') (w ++ after')) :
    lowerWithin before part after = lowerWithin before' part after' := by
  induction part generalizing before before' with
  | nil => rfl
  | cons c rest ih =>
    have first : lowerAt before c (rest ++ after) = lowerAt before' c (rest ++ after') := by
      by_cases sigma : c = 'Σ'
      · subst sigma
        have ends : endsWord before (rest ++ after) = endsWord before' (rest ++ after') := same [] rest rfl
        rw [lowerAt, lowerAt, ends]
      · rw [lowerAt, lowerAt, if_neg sigma, if_neg sigma]
    rw [lowerWithin, lowerWithin, first]
    refine congrArg (_ ++ ·) (ih fun u w e => ?_)
    have later := same (c :: u) w (by rw [e, List.cons_append])
    rwa [List.reverse_cons, List.append_assoc, List.append_assoc, List.singleton_append, List.singleton_append] at later

/-- The lower-case form of a part that keeps its sigmas stands in that of the text. -/
theorem lower_infix {text part : String} {x y : List Char} (occurs : text.toList = x ++ part.toList ++ y)
    (keeps : KeepsSigmas x.reverse part.toList y) : (lower part).toList <:+: (lower text).toList := by
  have own : (lower part).toList = lowerWithin x.reverse part.toList y := by
    rw [lower, String.toList_ofList, lowerFrom_eq]
    refine (lowerWithin_congr fun u w e => ?_).symm
    rw [keeps u w e, List.append_nil, List.append_nil]
  have whole : (lower text).toList = lowerWithin [] x (part.toList ++ y) ++ lowerWithin x.reverse part.toList y ++
      lowerWithin ((x ++ part.toList).reverse) y [] := by
    rw [lower, String.toList_ofList, lowerFrom_eq, occurs, lowerWithin_append, lowerWithin_append, List.append_nil,
      List.append_nil, List.append_nil]
  rw [own, whole]
  exact List.infix_append ..

/-- What comes after characters that tell already does not matter. -/
theorem startsCased_append {u x : List Char} (quiet : (∀ c ∈ u, isCaseIgnorable c = true) → startsCased x = false) :
    startsCased (u ++ x) = startsCased u := by
  induction u with
  | nil => exact quiet fun _ => nofun
  | cons c rest ih =>
    rw [startsCased, startsCased, List.cons_append, List.dropWhile_cons, List.dropWhile_cons]
    cases passed : isCaseIgnorable c with
    | true => exact ih fun all => quiet (List.forall_mem_cons.mpr ⟨passed, all⟩)
    | false => rfl

/-- A part that does not keep its sigmas has one with nothing but characters that are passed over between it and an end
of the part, and the text goes on with a cased character beyond that end. -/
theorem sigma_at_end {before part after : List Char} (h : ¬ KeepsSigmas before part after) :
    ∃ u w, part = u ++ 'Σ' :: w ∧
      ((∀ c ∈ w, isCaseIgnorable c = true) ∧ startsCased after = true ∨
        (∀ c ∈ u, isCaseIgnorable c = true) ∧ startsCased before = true) := by
  apply Classical.byContradiction
  intro none
  refine h fun u w e => ?_
  have ahead : startsCased (u.reverse ++ before) = startsCased u.reverse := by
    refine startsCased_append fun all => Bool.eq_false_iff.mpr fun cased => none ⟨u, w, e, Or.inr ⟨?_, cased⟩⟩
    exact fun c hc => all c (List.mem_reverse.mpr hc)
  have behind : startsCased (w ++ after) = startsCased w :=
    startsCased_append fun all => Bool.eq_false_iff.mpr fun cased => none ⟨u, w, e, Or.inl ⟨all, cased⟩⟩
  rw [endsWord, endsWord, ahead, behind]

end Switchboard.Text
