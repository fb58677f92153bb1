import Switchboard.Text.CaseTable

/-!
# Lower case

`lower` is full lower-casing of a text: every character by its own mapping, except that a capital sigma at the end
of a word becomes the final form, and that a dotted capital I becomes two characters. Whether a word ends is read
off the characters around the sigma, so lower-casing does not commute with taking a part of a text.

`contains` is literal occurrence of one text in another; main statement: `contains_iff`.
-/

namespace Switchboard.Text

/-! ## Tables -/

/-- Whether one of the runs holds the code point `n`. -/
def inRuns (runs : List (Nat × Nat)) (n : Nat) : Bool :=
  runs.any fun r => r.1 ≤ n && n ≤ r.2

/-- The lower-case form of a single character. -/
def lowerChar (c : Char) : Char :=
  if c.val < 0x80 then
    if 'A' ≤ c ∧ c ≤ 'Z' then Char.ofNat (c.toNat + 32) else c
  else
    match lowerRuns.find? fun r => r.1 ≤ c.toNat && c.toNat ≤ r.2.1 && (c.toNat - r.1) % r.2.2.1 == 0 with
    | some (_, _, _, delta) => Char.ofNat (c.toNat + delta).toNat
    | none => c

/-- Whether a character has a case. -/
def isCased (c : Char) : Bool := inRuns casedRuns c.toNat

/-- Whether a character is passed over in the search for a cased neighbour. -/
def isCaseIgnorable (c : Char) : Bool := inRuns caseIgnorableRuns c.toNat

/-! ## Lower-casing -/

/-- Whether the first character that is not passed over has a case. -/
def startsCased (cs : List Char) : Bool :=
  match cs.dropWhile isCaseIgnorable with
  | c :: _ => isCased c
  | [] => false

/-- Lower-cases `cs`, given the characters before them, nearest first. -/
def lowerFrom (before : List Char) : List Char → List Char
  | [] => []
  | c :: rest =>
    (if c = 'Σ' then (if startsCased before && !startsCased rest then ['ς'] else ['σ'])
      else if c = 'İ' then ['i', '\u0307']
      else [lowerChar c]) ++ lowerFrom (c :: before) rest

/-- The lower-case form of a text. -/
def lower (s : String) : String := String.ofList (lowerFrom [] s.toList)

/-! ## Occurrence -/

/-- Whether `part` stands somewhere in `whole`. -/
def occursIn (part : List Char) : List Char → Bool
  | [] => part.isEmpty
  | c :: rest => part.isPrefixOf (c :: rest) || occursIn part rest

theorem occursIn_iff {part whole : List Char} : occursIn part whole = true ↔ part <:+: whole := by
  induction whole with
  | nil => simp [occursIn]
  | cons c rest ih => simp [occursIn, ih, List.infix_cons_iff]

/-- Whether `part` occurs literally in `whole`. -/
def contains (whole part : String) : Bool := occursIn part.toList whole.toList

theorem contains_iff {whole part : String} : contains whole part = true ↔ part.toList <:+: whole.toList :=
  occursIn_iff

end Switchboard.Text
