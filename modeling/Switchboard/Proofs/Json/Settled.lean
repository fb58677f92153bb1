import Switchboard.Json.Basic

/-!
# Settled values

A value is in normal form if it is readable and no object in it has two members under one key (`Json.Normal`). What a
readable tree stands for is in normal form (`Json.normal_settled`), and such a value stands for itself.
-/

namespace Switchboard.Json

/-- A readable value that stands for itself. -/
structure Normal (v : Json) : Prop where
  readable : v.readable = true
  settled : v.settled = v

/-- Members with distinct keys and values in normal form. -/
structure NormalMembers (members : List (String × Json)) : Prop where
  distinct : (members.map Prod.fst).Nodup
  each : ∀ m ∈ members, m.2.Normal

/-! ## Containers -/

theorem normal_arr {items : List Json} (each : ∀ v ∈ items, v.Normal) : (arr items).Normal := by
  have both : readableItems items = true ∧ settledItems items = items := by
    induction items with
    | nil => exact ⟨rfl, rfl⟩
    | cons v rest ih =>
      obtain ⟨first, others⟩ := List.forall_mem_cons.mp each
      obtain ⟨readable, settled⟩ := ih others
      exact ⟨by rw [readableItems, first.readable, readable]; rfl, by rw [settledItems, first.settled, settled]⟩
  exact ⟨by rw [Json.readable, both.1], by rw [Json.settled, both.2]⟩

/-- A member under a new key comes last. -/
theorem assign_new {key : String} {v : Json} {members : List (String × Json)} (new : key ∉ members.map Prod.fst) :
    assign key v members = members ++ [(key, v)] := by
  induction members with
  | nil => rfl
  | cons m rest ih =>
    rw [List.map_cons, List.mem_cons, not_or] at new
    rw [assign, if_neg (Ne.symm new.1), ih new.2, List.cons_append]

theorem settledMembers_append {done members : List (String × Json)} (h : NormalMembers (done ++ members)) :
    settledMembers done members = done ++ members := by
  induction members generalizing done with
  | nil => rw [settledMembers, List.append_nil]
  | cons m rest ih =>
    obtain ⟨k, v⟩ := m
    have new : k ∉ done.map Prod.fst := by
      intro old
      have distinct := h.distinct
      rw [List.map_append, List.nodup_append] at distinct
      exact distinct.2.2 k old k List.mem_cons_self rfl
    have settled : v.settled = v := (h.each (k, v) (List.mem_append_right _ List.mem_cons_self)).settled
    rw [List.append_cons] at h
    rw [settledMembers, settled, assign_new new, ih h, ← List.append_cons]

theorem normal_obj {members : List (String × Json)} (h : NormalMembers members) : (obj members).Normal where
  readable := by
    obtain ⟨-, each⟩ := h
    rw [Json.readable]
    induction members with
    | nil => rfl
    | cons m rest ih =>
      obtain ⟨first, others⟩ := List.forall_mem_cons.mp each
      rw [readableMembers, first.readable, ih others]
      rfl
  settled := by rw [Json.settled, settledMembers_append (show NormalMembers ([] ++ members) from h), List.nil_append]

/-! ## Settling -/

theorem keys_assign (key : String) (v : Json) (members : List (String × Json)) :
    (assign key v members).map Prod.fst =
      if key ∈ members.map Prod.fst then members.map Prod.fst else members.map Prod.fst ++ [key] := by
  induction members with
  | nil => rfl
  | cons m rest ih =>
    obtain ⟨k, w⟩ := m
    by_cases same : k = key
    · subst same
      simp [assign]
    · have other : key ≠ k := Ne.symm same
      rw [assign, if_neg same, List.map_cons, ih, List.map_cons]
      by_cases later : key ∈ rest.map Prod.fst
      · rw [if_pos later, if_pos (List.mem_cons_of_mem _ later)]
      · rw [if_neg later, if_neg (List.not_mem_cons_of_ne_of_not_mem other later), List.cons_append]

theorem mem_assign {key : String} {v : Json} {members : List (String × Json)} {m : String × Json}
    (h : m ∈ assign key v members) : m = (key, v) ∨ m ∈ members := by
  induction members with
  | nil => exact .inl (List.mem_singleton.mp h)
  | cons first rest ih =>
    obtain ⟨k, w⟩ := first
    rw [assign] at h
    split at h
    next same =>
      rcases List.mem_cons.mp h with h | h
      · exact .inl (by rw [h, same])
      · exact .inr (List.mem_cons_of_mem _ h)
    next =>
      rcases List.mem_cons.mp h with h | h
      · exact .inr (h ▸ List.mem_cons_self)
      · exact (ih h).imp_right (List.mem_cons_of_mem _)

theorem normalMembers_assign {key : String} {v : Json} {members : List (String × Json)} (h : NormalMembers members)
    (hv : v.Normal) : NormalMembers (assign key v members) where
  distinct := by
    rw [keys_assign]
    split
    · exact h.distinct
    next new =>
      rw [List.nodup_append]
      refine ⟨h.distinct, List.nodup_cons.mpr ⟨List.not_mem_nil, List.nodup_nil⟩, fun k old k' hk' same => new ?_⟩
      rw [← List.mem_singleton.mp hk', ← same]
      exact old
  each m hm := by
    rcases mem_assign hm with rfl | old
    · exact hv
    · exact h.each m old

mutual

/-- What a readable tree stands for is in normal form. -/
theorem normal_settled : ∀ v : Json, v.readable = true → v.settled.Normal
  | .null, _ | .bool _, _ | .num _, _ | .str _, _ => ⟨rfl, rfl⟩
  | .unreadable, h => nomatch h
  | .arr items, h => by
    rw [Json.settled]
    exact normal_arr (normal_settledItems items h)
  | .obj members, h => by
    rw [Json.settled]
    exact normal_obj (normal_settledMembers members h [] ⟨List.nodup_nil, List.forall_mem_nil _⟩)

theorem normal_settledItems : ∀ items : List Json, readableItems items = true → ∀ v ∈ settledItems items, v.Normal
  | [], _ => List.forall_mem_nil _
  | v :: rest, h => by
    rw [readableItems, Bool.and_eq_true] at h
    exact List.forall_mem_cons.mpr ⟨normal_settled v h.1, normal_settledItems rest h.2⟩

theorem normal_settledMembers : ∀ members : List (String × Json), readableMembers members = true →
    ∀ done, NormalMembers done → NormalMembers (settledMembers done members)
  | [], _, _, hd => hd
  | (_, v) :: rest, h, _, hd => by
    rw [readableMembers, Bool.and_eq_true] at h
    exact normal_settledMembers rest h.2 _ (normalMembers_assign hd (normal_settled v h.1))

end

end Switchboard.Json
