import Switchboard.Proofs.Json.Compact

/-!
# Reading what is written on lines of its own

The indented text of a value is cut into the same tokens as the compact one: between two tokens there are a line break
and blanks at most, which are passed over (`scans_indent`). So a plain value reads back from it as well
(`read?_pretty`).
-/

namespace Switchboard.Json

open Token (Scans)

namespace Token

variable {cs : List Char} {ts : List Token}

/-- A blank is passed over. -/
theorem Scans.blank (h : Scans cs ts) : Scans (' ' :: cs) ts := fun found rest hrest => h found rest hrest

/-- So is indentation. -/
theorem scans_indent (level : Nat) (h : Scans cs ts) : Scans (indent level ++ cs) ts := by
  have blanks : ∀ n, Scans (List.replicate n ' ' ++ cs) ts := by
    intro n
    induction n with
    | zero => exact h
    | succ n ih => exact ih.blank
  exact fun found rest hrest => blanks (2 * level) found rest hrest

variable {cs' : List Char} {ts' : List Token}

theorem Scans.indented (level : Nat) (h : Scans (cs ++ cs') ts) : Scans (indent level ++ cs ++ cs') ts := by
  rw [List.append_assoc]
  exact scans_indent level h

/-- What follows a line break may follow a value. -/
theorem Scans.append_indent (h : Scans cs ts) (level : Nat) (h' : Scans cs' ts') :
    Scans (cs ++ (indent level ++ cs')) (ts ++ ts') := h.append (scans_indent level h') rfl

end Token

theorem scans_prettyItems {level : Nat} {v : Json} {rest : List Json}
    (each : ∀ w ∈ v :: rest, Scans (w.prettyChars (level + 1)) w.tokens) :
    Scans (v.prettyChars (level + 1) ++ prettyItems level rest) (v.tokens ++ itemTokens rest) := by
  induction rest generalizing v with
  | nil => exact (each v List.mem_cons_self).append_indent level (.one rfl)
  | cons w rest ih =>
    obtain ⟨first, others⟩ := List.forall_mem_cons.mp each
    exact first.append (.token rfl ((ih others).indented (level + 1))) rfl

theorem scans_prettyMembers {level : Nat} {k : String} {v : Json} {rest : List (String × Json)}
    (each : ∀ m ∈ (k, v) :: rest, Scans (m.2.prettyChars (level + 1)) m.2.tokens) :
    Scans (stringText k ++ ':' :: ' ' :: (v.prettyChars (level + 1) ++ prettyMembers level rest))
      (.text (some k) :: .colon :: (v.tokens ++ memberTokens rest)) := by
  induction rest generalizing k v with
  | nil =>
    have value := (each _ List.mem_cons_self).append_indent level (.one (c := '\x7d') rfl)
    exact .member k (.blank value)
  | cons m rest ih =>
    obtain ⟨first, others⟩ := List.forall_mem_cons.mp each
    exact .member k (.blank (first.append (.token rfl ((ih others).indented (level + 1))) rfl))

/-- The indented text of a value is cut into its tokens. -/
theorem scans_prettyChars {v : Json} {depth : Nat} (h : Plain depth v) (level : Nat) :
    Scans (v.prettyChars level) v.tokens := by
  induction h generalizing level with
  | null => exact Token.scans_null
  | bool depth b =>
    cases b with
    | true => exact Token.scans_true
    | false => exact Token.scans_false
  | str depth s => exact Token.scans_stringText s
  | @arr depth items each ih =>
    cases items with
    | nil => exact .token rfl (.one rfl)
    | cons v rest =>
      have items := scans_prettyItems fun w hw => ih w hw (level + 1)
      exact .token rfl (items.indented (level + 1))
  | @obj depth members each ih =>
    cases members with
    | nil => exact .token rfl (.one rfl)
    | cons m rest =>
      have members := scans_prettyMembers fun w hw => ih w hw (level + 1)
      exact .token rfl (members.indented (level + 1))

/-- **A plain value reads back from its indented text**, whatever characters its texts have. -/
theorem read?_pretty {v : Json} {depth : Nat} (h : Plain depth v) (deep : depth ≤ depthLimit) :
    read? v.pretty = some v := read?_of_scans h deep (scans_prettyChars h 0)

end Switchboard.Json
