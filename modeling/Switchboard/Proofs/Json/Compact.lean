import Switchboard.Json.Text
import Switchboard.Json.Tree

/-!
# Reading what is written

A value without numbers that is not nested too deep (`Plain`) reads back from its compact text (`read?_compact`). The
text is cut into the tokens of the value (`scans_compactChars`): inside a string every character stands for itself or
for an escape that is undone (`scan_escapeChar`), and a word ends where what follows is no letter. Of the tokens the
tree is built with the containers on the way as frames (`run_tokens`).
-/

namespace Switchboard.Json

/-- A value without numbers, every part of which is readable; containers are nested at most so deep. -/
inductive Plain : Nat → Json → Prop
  | null (depth : Nat) : Plain depth .null
  | bool (depth : Nat) (b : Bool) : Plain depth (.bool b)
  | str (depth : Nat) (s : String) : Plain depth (.str s)
  | arr {depth : Nat} {items : List Json} (each : ∀ v ∈ items, Plain depth v) : Plain (depth + 1) (.arr items)
  | obj {depth : Nat} {members : List (String × Json)} (each : ∀ m ∈ members, Plain depth m.2) :
      Plain (depth + 1) (.obj members)

namespace Plain

theorem optional {α : Type} {depth : Nat} {write : α → Json} (h : ∀ a, Plain depth (write a)) (o : Option α) :
    Plain depth (.optional write o) := by
  cases o with
  | none => exact .null depth
  | some a => exact h a

theorem ofTexts (depth : Nat) (m : KeyMap String) : Plain (depth + 1) (.ofTexts m) := by
  refine .obj fun e he => ?_
  obtain ⟨e, -, rfl⟩ := List.mem_map.mp he
  exact .str depth e.2

theorem list {α : Type} {depth : Nat} {write : α → Json} (h : ∀ a, Plain depth (write a)) (l : List α) :
    Plain (depth + 1) (.arr (l.map write)) := by
  refine .arr fun v hv => ?_
  obtain ⟨a, -, rfl⟩ := List.mem_map.mp hv
  exact h a

theorem readable {depth : Nat} {v : Json} (h : Plain depth v) : v.readable = true := by
  induction h with
  | null | bool | str => rfl
  | @arr depth items each ih =>
    rw [Json.readable]
    clear each
    induction items with
    | nil => rfl
    | cons v rest ih' =>
      obtain ⟨first, others⟩ := List.forall_mem_cons.mp ih
      rw [readableItems, first, ih' others]
      rfl
  | @obj depth members each ih =>
    rw [Json.readable]
    clear each
    induction members with
    | nil => rfl
    | cons m rest ih' =>
      obtain ⟨first, others⟩ := List.forall_mem_cons.mp ih
      rw [readableMembers, first, ih' others]
      rfl

end Plain

mutual

/-- The tokens of a text of the value. -/
def tokens : Json → List Token
  | .str s => [.text (some s)]
  | .arr [] => [.openArr, .closeArr]
  | .arr (v :: rest) => .openArr :: (v.tokens ++ itemTokens rest)
  | .obj [] => [.openObj, .closeObj]
  | .obj ((k, v) :: rest) => .openObj :: .text (some k) :: .colon :: (v.tokens ++ memberTokens rest)
  | v => [.scalar v]

/-- The tokens of the items after the first, and of the bracket. -/
def itemTokens : List Json → List Token
  | [] => [.closeArr]
  | v :: rest => .comma :: (v.tokens ++ itemTokens rest)

/-- The tokens of the members after the first, and of the brace. -/
def memberTokens : List (String × Json) → List Token
  | [] => [.closeObj]
  | (k, v) :: rest => .comma :: .text (some k) :: .colon :: (v.tokens ++ memberTokens rest)

end

/-! ## From text to tokens -/

namespace Token

/-- What follows a word ends it. -/
def Ends (cs : List Char) : Prop := ∀ c ∈ cs.head?, c.isLower = false

/-- These characters are cut into these tokens, wherever they stand. -/
def Scans (cs : List Char) (ts : List Token) : Prop :=
  ∀ found rest, Ends rest → scan found .nothing (cs ++ rest) = scan (ts.reverse ++ found) .nothing rest

variable {c : Char} {cs cs' : List Char} {t : Token} {ts ts' : List Token}

theorem Scans.append (h : Scans cs ts) (h' : Scans (c :: cs') ts') (ends : c.isLower = false) :
    Scans (cs ++ c :: cs') (ts ++ ts') := by
  intro found rest hrest
  have hc : Ends (c :: cs' ++ rest) := by
    rintro _ ⟨⟩
    exact ends
  rw [List.append_assoc, h found _ hc, h' _ rest hrest, List.reverse_append, List.append_assoc]

theorem Scans.token (one : begin c = some ([t], .nothing)) (h : Scans cs ts) : Scans (c :: cs) (t :: ts) := by
  intro found rest hrest
  rw [List.cons_append, scan, advance, one]
  show scan (t :: found) .nothing (cs ++ rest) = _
  rw [h _ rest hrest]
  simp

theorem Scans.one (one : begin c = some ([t], .nothing)) : Scans [c] [t] :=
  .token one fun _ _ _ => rfl

/-! ### Words -/

theorem scan_word (letters : List Char) (word : word? letters.reverse = some t) (found : List Token)
    {rest : List Char} (h : Ends rest) : scan found (.word letters) rest = scan (t :: found) .nothing rest := by
  cases rest with
  | nil => simp [scan, close, word]
  | cons c rest =>
    simp only [scan, advance, h c rfl, word, Bool.false_eq_true, if_false]
    cases begin c with
    | none => rfl
    | some next => simp

theorem scans_null : Scans ['n', 'u', 'l', 'l'] [.scalar .null] := fun found _ h =>
  scan_word ['l', 'l', 'u', 'n'] rfl found h

theorem scans_true : Scans ['t', 'r', 'u', 'e'] [.scalar (.bool true)] := fun found _ h =>
  scan_word ['e', 'u', 'r', 't'] rfl found h

theorem scans_false : Scans ['f', 'a', 'l', 's', 'e'] [.scalar (.bool false)] := fun found _ h =>
  scan_word ['e', 's', 'l', 'a', 'f'] rfl found h

/-! ### Strings -/

/-- Inside a string an escaped character stands for itself. -/
theorem scan_escapeChar (c : Char) (found : List Token) (before rest : List Char) :
    scan found (.string before true none) (escapeChar c ++ rest) = scan found (.string (c :: before) true none) rest := by
  unfold escapeChar
  iterate 7
    split
    · subst c
      rfl
  split
  · rename_i control
    have high : Text.hexValue? (hexDigit (c.toNat / 16)) = some (c.toNat / 16) := Text.hexValue?_digitChar (by omega)
    have low : Text.hexValue? (hexDigit (c.toNat % 16)) = some (c.toNat % 16) := Text.hexValue?_digitChar (by omega)
    have value : 16 * (c.toNat / 16) + c.toNat % 16 = c.toNat := by omega
    have code : ofCode before true none c.toNat = .string (c :: before) true none := by
      rw [ofCode, if_neg (by omega), if_neg (by omega), Char.ofNat_toNat]
    show scan found (.code before true none 2 0) (hexDigit _ :: hexDigit _ :: rest) = _
    simp [scan, advance, high, low, value, code]
  · rename_i quote backslash _ _ _ _ _ control
    simp [scan, advance, quote, backslash, control]

theorem scan_escaped (text : List Char) (found : List Token) (before rest : List Char) :
    scan found (.string before true none) (text.flatMap escapeChar ++ '"' :: rest) =
      scan (.text (some (String.ofList (before.reverse ++ text))) :: found) .nothing rest := by
  induction text generalizing before with
  | nil => simp [scan, advance]
  | cons c text ih =>
    rw [List.flatMap_cons, List.append_assoc, scan_escapeChar, ih]
    simp

theorem scans_stringText (s : String) : Scans (stringText s) [.text (some s)] := by
  intro found rest _
  have escaped := scan_escaped s.toList found [] rest
  rw [List.reverse_nil, List.nil_append, String.ofList_toList] at escaped
  rw [stringText, List.cons_append, List.append_assoc]
  exact escaped

theorem Scans.member (k : String) (h : Scans cs ts) :
    Scans (stringText k ++ ':' :: cs) (.text (some k) :: .colon :: ts) :=
  (scans_stringText k).append (.token rfl h) rfl

end Token

open Token (Scans)

theorem scans_items {v : Json} {rest : List Json} (each : ∀ w ∈ v :: rest, Scans w.compactChars w.tokens) :
    Scans (v.compactChars ++ compactItems rest) (v.tokens ++ itemTokens rest) := by
  induction rest generalizing v with
  | nil => exact (each v List.mem_cons_self).append (.one rfl) rfl
  | cons w rest ih =>
    obtain ⟨first, others⟩ := List.forall_mem_cons.mp each
    exact first.append (.token rfl (ih others)) rfl

theorem scans_members {k : String} {v : Json} {rest : List (String × Json)}
    (each : ∀ m ∈ (k, v) :: rest, Scans m.2.compactChars m.2.tokens) :
    Scans (stringText k ++ ':' :: (v.compactChars ++ compactMembers rest))
      (.text (some k) :: .colon :: (v.tokens ++ memberTokens rest)) := by
  induction rest generalizing k v with
  | nil => exact .member k ((each _ List.mem_cons_self).append (.one rfl) rfl)
  | cons m rest ih =>
    obtain ⟨first, others⟩ := List.forall_mem_cons.mp each
    exact .member k (first.append (.token rfl (ih others)) rfl)

/-- The compact text of a value is cut into its tokens. -/
theorem scans_compactChars {v : Json} {depth : Nat} (h : Plain depth v) : Scans v.compactChars v.tokens := by
  induction h with
  | null => exact Token.scans_null
  | bool depth b =>
    cases b with
    | true => exact Token.scans_true
    | false => exact Token.scans_false
  | str depth s => exact Token.scans_stringText s
  | @arr depth items each ih =>
    cases items with
    | nil => exact .token rfl (.one rfl)
    | cons v rest => exact .token rfl (scans_items ih)
  | @obj depth members each ih =>
    cases members with
    | nil => exact .token rfl (.one rfl)
    | cons m rest => exact .token rfl (scans_members ih)

/-! ## From tokens to the tree -/

namespace Stage

theorem object_some (members : List (String × Json)) : object (members.map fun m => (some m.1, m.2)) = .obj members := by
  have all : (members.map fun m => (some m.1, m.2)).mapM (fun m => m.1.map fun k => (k, m.2)) = some members := by
    induction members with
    | nil => rfl
    | cons m rest ih => simp [ih]
  rw [object, all]

/-- From the tokens of the value the value is built, under any containers. -/
def Builds (v : Json) (depth : Nat) : Prop :=
  ∀ under ts, under.length + depth ≤ depthLimit → (value under).run (v.tokens ++ ts) = (complete under v).run ts

theorem run_firstItem {v : Json} {depth : Nat} (h : Plain depth v) (under : List Frame) (ts : List Token) :
    (firstItem under).run (v.tokens ++ ts) = (value (.items [] :: under)).run (v.tokens ++ ts) := by
  cases h with
  | null | bool | str => rfl
  | @arr depth items each => cases items <;> rfl
  | @obj depth members each => cases members <;> rfl

theorem finish_of_lt {under : List Frame} {v : Json} (h : under.length < depthLimit) :
    finish under v = complete under v := by
  rw [finish, if_pos h]

variable {depth : Nat} {under : List Frame}

theorem run_itemTokens {items : List Json} (each : ∀ v ∈ items, Builds v depth)
    (deep : under.length + (depth + 1) ≤ depthLimit) (done : List Json) (last : Json) (ts : List Token) :
    (complete (.items done :: under) last).run (itemTokens items ++ ts) =
      (complete under (.arr ((last :: done).reverse ++ items))).run ts := by
  induction items generalizing done last with
  | nil =>
    have room : under.length < depthLimit := by omega
    simp [itemTokens, run, advance, finish_of_lt room]
  | cons v rest ih =>
    obtain ⟨first, each⟩ := List.forall_mem_cons.mp each
    have built := first (.items (last :: done) :: under) (itemTokens rest ++ ts) (by simp; omega)
    rw [itemTokens, List.cons_append, List.append_assoc, run, advance]
    show (value _).run _ = _
    rw [built, ih each]
    simp

theorem run_memberTokens {members : List (String × Json)} (each : ∀ m ∈ members, Builds m.2 depth)
    (deep : under.length + (depth + 1) ≤ depthLimit) (done : List (Option String × Json)) (k : Option String)
    (last : Json) (ts : List Token) :
    (complete (.members done k :: under) last).run (memberTokens members ++ ts) =
      (complete under (object (((k, last) :: done).reverse ++ members.map fun m => (some m.1, m.2)))).run ts := by
  induction members generalizing done k last with
  | nil =>
    have room : under.length < depthLimit := by omega
    simp [memberTokens, run, advance, finish_of_lt room]
  | cons m rest ih =>
    obtain ⟨first, each⟩ := List.forall_mem_cons.mp each
    have built := first (.members ((k, last) :: done) (some m.1) :: under) (memberTokens rest ++ ts) (by simp; omega)
    rw [memberTokens, List.cons_append, List.cons_append, List.cons_append, List.append_assoc]
    show (value _).run _ = _
    rw [built, ih each]
    simp

theorem run_tokens {v : Json} (h : Plain depth v) : Builds v depth := by
  induction h with
  | null | bool | str => exact fun _ _ _ => rfl
  | @arr depth items each ih =>
    intro under ts deep
    have room : under.length < depthLimit := by omega
    cases items with
    | nil =>
      show (finish under (.arr [])).run ts = _
      rw [finish_of_lt room]
    | cons v rest =>
      obtain ⟨first, others⟩ := List.forall_mem_cons.mp ih
      rw [tokens, List.cons_append, List.append_assoc]
      show (firstItem under).run _ = _
      rw [run_firstItem (each v List.mem_cons_self), first _ _ (by simp; omega), run_itemTokens others deep]
      rfl
  | @obj depth members each ih =>
    intro under ts deep
    have room : under.length < depthLimit := by omega
    cases members with
    | nil =>
      show (finish under (.obj [])).run ts = _
      rw [finish_of_lt room]
    | cons m rest =>
      obtain ⟨first, others⟩ := List.forall_mem_cons.mp ih
      rw [tokens, List.cons_append, List.cons_append, List.cons_append, List.append_assoc]
      show (value (.members [] (some m.1) :: under)).run _ = _
      rw [first _ _ (by simp; omega), run_memberTokens others deep]
      exact congrArg (fun v => (complete under v).run ts) (object_some (m :: rest))

end Stage

theorem ofTokens?_tokens {v : Json} {depth : Nat} (h : Plain depth v) (deep : depth ≤ depthLimit) :
    ofTokens? v.tokens = some v := by
  have built := Stage.run_tokens h [] [] (by simpa using deep)
  rw [List.append_nil] at built
  rw [ofTokens?, built]
  rfl

/-- A text that is cut into the tokens of a plain value reads as the value. -/
theorem read?_of_scans {v : Json} {depth : Nat} {cs : List Char} (h : Plain depth v) (deep : depth ≤ depthLimit)
    (cut : Scans cs v.tokens) : read? (String.ofList cs) = some v := by
  have cut := cut [] [] nofun
  rw [List.append_nil, List.append_nil] at cut
  rw [read?, Token.ofText?, String.toList_ofList, cut, Token.scan]
  simp [Token.close, ofTokens?_tokens h deep]

/-- **A plain value reads back from its compact text**, whatever characters its texts have. -/
theorem read?_compact {v : Json} {depth : Nat} (h : Plain depth v) (deep : depth ≤ depthLimit) :
    read? v.compact = some v := read?_of_scans h deep (scans_compactChars h)

end Switchboard.Json
