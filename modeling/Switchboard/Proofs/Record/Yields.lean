import Switchboard.Proofs.Instant
import Switchboard.Proofs.Json.Settled
import Switchboard.Proofs.Record.Reads
import Switchboard.Proofs.Uuid

/-!
# Properties of what is read

Whatever a decoder reads may have a property (`Decoder.Yields`), and a record that a shape reads has one if it follows
from those of the fields (`Shape.Yields.seq`). If a value with the property is read back from the form that it is
written in, then writing what was read gives a normal form: it is read as the same again (`Settles`).
-/

namespace Switchboard.Record

variable {α β : Type} {decode : Decoder α} {write : α → Json} {P : α → Prop} {Q : β → Prop}

/-- What was read is read again from the form that it is written in. -/
def Settles (decode : Decoder α) (write : α → Json) : Prop := ∀ v a, decode v = .ok a → decode (write a) = .ok a

/-- Whatever is read has a property. -/
def Decoder.Yields (decode : Decoder α) (P : α → Prop) : Prop := ∀ v a, decode v = .ok a → P a

theorem settles_of_reads (read : ∀ a, decode (write a) = .ok a) : Settles decode write := fun _ a _ => read a

theorem Decoder.Yields.settles (h : decode.Yields P) (read : ∀ a, P a → decode (write a) = .ok a) :
    Settles decode write := fun v a ha => read a (h v a ha)

/-! ## Plain values -/

theorem natural_int {bound n : Nat} (name : String) (small : n < bound) : natural bound name (.int n) = .ok n := by
  show (if 0 ≤ (n : Int) ∧ (n : Int).toNat < bound then _ else _) = _
  rw [if_pos ⟨Int.natCast_nonneg n, small⟩, Int.toNat_natCast]

theorem u64_int (n : UInt64) : u64 (.int n.toNat) = .ok n := by
  rw [u64, natural_int _ n.toNat_lt_size, Except.map, UInt64.ofNat_toNat]

theorem u32_int (n : UInt32) : u32 (.int n.toNat) = .ok n := by
  rw [u32, natural_int _ n.toNat_lt_size, Except.map, UInt32.ofNat_toNat]

theorem uuid_text (u : Uuid) : uuid (.str u.text) = .ok u := by rw [uuid, Uuid.parse_text]

theorem instant_text {t : Instant} (h : t.Valid) : instant (.str t.text) = .ok t := by
  rw [instant, Instant.parse_text h]

theorem yields_instant : Decoder.Yields instant Instant.Valid := by
  intro v t h
  unfold instant at h
  split at h
  · split at h
    next s u parsed =>
      cases h
      exact Instant.valid_of_parse parsed
    next => cases h
  · cases h

theorem anything_normal {v : Json} (h : v.Normal) : anything v = .ok v := by
  rw [anything, if_pos h.readable, h.settled]

theorem yields_anything : Decoder.Yields anything Json.Normal := by
  intro v w h
  unfold anything at h
  split at h
  next readable =>
    cases h
    exact Json.normal_settled v readable
  next => cases h

/-! ## Options and lists -/

theorem Decoder.Yields.nullable (h : decode.Yields P) : (nullable decode).Yields fun o => ∀ a ∈ o, P a := by
  intro v o read a mem
  subst mem
  have given : (decode v).map some = .ok (some a) := by
    cases v with
    | null => cases read
    | bool | num | str | arr | obj | unreadable => exact read
  cases read : decode v with
  | error e =>
    rw [read] at given
    cases given
  | ok a =>
    rw [read] at given
    cases given
    exact h v a read

theorem Decoder.Yields.list (h : decode.Yields P) : (list decode).Yields fun l => ∀ a ∈ l, P a := by
  have each : ∀ items l, decodeItems decode items = .ok l → ∀ a ∈ l, P a := by
    intro items
    induction items with
    | nil =>
      intro l read
      cases read
      exact List.forall_mem_nil _
    | cons v rest ih =>
      intro l read
      rw [decodeItems] at read
      split at read
      next => cases read
      next a first =>
        cases others : decodeItems decode rest with
        | error e =>
          rw [others] at read
          cases read
        | ok l' =>
          rw [others] at read
          cases read
          exact List.forall_mem_cons.mpr ⟨h v a first, ih l' others⟩
  intro v l read
  cases v with
  | arr items => exact each items l read
  | null | bool | num | str | obj | unreadable => cases read

/-! ## Shapes -/

namespace Shape

/-- Whatever a shape builds has a property. -/
def Yields (s : Shape α) (P : α → Prop) : Prop := ∀ get absent a, s.build get absent = .ok a → P a

theorem yields_constant {a : α} (h : P a) : (constant a).Yields P := by
  intro get absent b built
  cases built
  exact h

theorem yields_required {name : String} (h : decode.Yields P) : (required name decode).Yields P := by
  intro get absent a built
  simp only [required] at built
  split at built
  next v _ => exact h v a built
  next => cases built

theorem yields_defaulted {name : String} {value : α} (h : decode.Yields P) (hv : P value) :
    (defaulted name decode value).Yields P := by
  intro get absent a built
  simp only [defaulted] at built
  split at built
  next v _ => exact h v a built
  next =>
    cases built
    exact hv

theorem yields_optional {name : String} (h : decode.Yields P) :
    (optional name decode).Yields fun o => ∀ a ∈ o, P a := yields_defaulted h.nullable nofun

/-- One more field, with what is known of it. -/
theorem Yields.seq {f : Shape (α → β)} {x : Shape α} (hf : f.Yields fun g => ∀ a, P a → Q (g a)) (hx : x.Yields P) :
    (f <*> x).Yields Q := by
  intro get absent b built
  change (apply f x).build get absent = .ok b at built
  simp only [apply] at built
  split at built
  next => cases built
  next g hg =>
    split at built
    next => cases built
    next a ha =>
      cases built
      exact hf get absent g hg a (hx get absent a ha)

/-- One more field, of any value. -/
theorem Yields.seq_any {f : Shape (α → β)} {x : Shape α} (hf : f.Yields fun g => ∀ a, Q (g a)) : (f <*> x).Yields Q :=
  Yields.seq (P := fun _ => True) (fun get absent g hg a _ => hf get absent g hg a) fun _ _ _ _ => trivial

theorem Yields.map {x : Shape α} {g : α → β} (hx : x.Yields P) (h : ∀ a, P a → Q (g a)) : (g <$> x).Yields Q :=
  Yields.seq (yields_constant h) hx

theorem Yields.map_any {x : Shape α} {g : α → β} (h : ∀ a, Q (g a)) : (g <$> x).Yields Q :=
  Yields.seq_any (yields_constant h)

/-- A record has the property from whichever form it is read. -/
theorem Yields.decoder {s : Shape α} (h : s.Yields P) (label : String) : Decoder.Yields (s.decode label) P := by
  have ofMembers : ∀ absent members a, s.ofMembers absent members = .ok a → P a := by
    intro absent members a read
    rw [Shape.ofMembers] at read
    split at read
    next => cases read
    next => exact h _ _ a read
  intro v a read
  cases v with
  | obj members => exact ofMembers _ members a read
  | arr items =>
    simp only [Shape.decode, Shape.ofItems] at read
    split at read
    next => cases read
    next b hb =>
      split at read
      next => cases read
      next =>
        cases read
        exact ofMembers _ _ a hb
  | null | bool | num | str | unreadable => cases read

end Shape

end Switchboard.Record
