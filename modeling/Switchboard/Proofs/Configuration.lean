import Switchboard.Bus
import Switchboard.Configuration.Basic
import Switchboard.Proofs.Text.Decimal

/-!
# The room that an environment gives the bus

An environment sets the room of the bus to `n` if its variable denotes `n`, a positive number of 64 bits (`Sets`). That
is then the capacity of the configuration, and otherwise the default is (`eventCapacity_of_sets`,
`eventCapacity_of_not_sets`). So there is a bus for a configuration (`bus?`) unless its environment sets the room to
more than half of what 64 bits can count (`bus_unless_oversized`).
-/

namespace Switchboard

theorem Bus.ofCapacity?_eq_none_iff {capacity : Nat} :
    Bus.ofCapacity? capacity = none ↔ Bus.maxCapacity < capacity := by
  unfold Bus.ofCapacity?
  split
  · rename_i fits
    exact ⟨nofun, fun beyond => absurd fits (Nat.not_le_of_lt beyond)⟩
  · rename_i beyond
    exact ⟨fun _ => Nat.lt_of_not_le beyond, fun _ => rfl⟩

namespace Configuration

/-- An environment sets the room of the bus to `n`. -/
def Sets (lookup : String → Option String) (n : Nat) : Prop :=
  ∃ text, lookup "MCPMUX_EVENT_CAPACITY" = some text ∧ Text.Denotes text n ∧ 0 < n ∧ n < UInt64.size

theorem capacity?_eq_some_iff {text : String} {c : UInt64} :
    capacity? text = some c ↔ Text.Denotes text c.toNat ∧ 0 < c.toNat := by
  have read : Text.natural? UInt64.size (Text.trim text) = some c.toNat ↔ Text.Denotes text c.toNat := by
    rw [Text.natural?_trim_eq_some_iff, and_iff_left c.toNat_lt]
  rw [← read]
  unfold capacity?
  split
  · rename_i zero
    rw [zero]
    refine ⟨nofun, fun ⟨same, positive⟩ => absurd positive ?_⟩
    rw [← Option.some.inj same]
    exact Nat.lt_irrefl 0
  · rename_i none
    rw [none]
    exact ⟨nofun, fun said => absurd said.1 nofun⟩
  · rename_i n positive said
    have below : n < UInt64.size := (Text.natural?_trim_eq_some_iff.mp said).2
    rw [said, Option.some.injEq, Option.some.injEq, ← UInt64.toNat_inj, UInt64.toNat_ofNat_of_lt' below]
    exact ⟨fun same => ⟨same, same ▸ Nat.pos_of_ne_zero positive⟩, And.left⟩

section

variable {localData : String} {lookup : String → Option String}

theorem sets_iff {n : Nat} :
    Sets lookup n ↔ ∃ c : UInt64, c.toNat = n ∧ (lookup "MCPMUX_EVENT_CAPACITY").bind capacity? = some c := by
  constructor
  · rintro ⟨text, found, denotes, positive, below⟩
    have same : (UInt64.ofNat n).toNat = n := UInt64.toNat_ofNat_of_lt' below
    refine ⟨UInt64.ofNat n, same, ?_⟩
    rw [found, Option.bind_some, capacity?_eq_some_iff, same]
    exact ⟨denotes, positive⟩
  · rintro ⟨c, rfl, read⟩
    obtain ⟨text, found, taken⟩ := Option.bind_eq_some_iff.mp read
    obtain ⟨denotes, positive⟩ := capacity?_eq_some_iff.mp taken
    exact ⟨text, found, denotes, positive, c.toNat_lt⟩

theorem eventCapacity_of_sets {n : Nat} (h : Sets lookup n) :
    (ofEnvironment localData lookup).eventCapacity.toNat = n := by
  obtain ⟨c, rfl, read⟩ := sets_iff.mp h
  exact congrArg UInt64.toNat (congrArg (Option.getD · defaultCapacity) read)

theorem eventCapacity_of_not_sets (h : ∀ n, ¬Sets lookup n) :
    (ofEnvironment localData lookup).eventCapacity = defaultCapacity := by
  have unread : (lookup "MCPMUX_EVENT_CAPACITY").bind capacity? = none :=
    Option.eq_none_iff_forall_ne_some.mpr fun c read => h c.toNat (sets_iff.mpr ⟨c, rfl, read⟩)
  exact congrArg (Option.getD · defaultCapacity) unread

/-- There is no capacity of zero. -/
theorem eventCapacity_pos : 0 < (ofEnvironment localData lookup).eventCapacity.toNat := by
  by_cases h : ∃ n, Sets lookup n
  · obtain ⟨n, sets⟩ := h
    obtain ⟨_, _, _, positive, _⟩ := id sets
    rw [eventCapacity_of_sets sets]
    exact positive
  · rw [eventCapacity_of_not_sets (not_exists.mp h)]
    decide

/-- A capacity above `bound` has been set, if the default is not above it. -/
theorem lt_eventCapacity_iff {bound : Nat} (default : defaultCapacity.toNat ≤ bound) :
    bound < (ofEnvironment localData lookup).eventCapacity.toNat ↔ ∃ n, Sets lookup n ∧ bound < n := by
  constructor
  · intro beyond
    by_cases h : ∃ n, Sets lookup n
    · obtain ⟨n, sets⟩ := h
      rw [eventCapacity_of_sets sets] at beyond
      exact ⟨n, sets, beyond⟩
    · rw [eventCapacity_of_not_sets (not_exists.mp h)] at beyond
      exact absurd default (Nat.not_le_of_lt beyond)
  · rintro ⟨n, sets, beyond⟩
    rw [eventCapacity_of_sets sets]
    exact beyond

end

/-- The bus for a configuration, if there is one. -/
def bus? (c : Configuration) : Option Bus := Bus.ofCapacity? c.eventCapacity.toNat

theorem bus?_eq_none_iff {c : Configuration} : c.bus? = none ↔ Bus.maxCapacity < c.eventCapacity.toNat :=
  Bus.ofCapacity?_eq_none_iff

theorem eq_of_bus?_eq_some {c : Configuration} {bus : Bus} (made : c.bus? = some bus)
    (positive : 0 < c.eventCapacity.toNat) : bus = { room := c.eventCapacity.toNat.nextPowerOfTwo } := by
  unfold bus? Bus.ofCapacity? at made
  split at made
  · cases made
    rw [Nat.max_eq_left positive]
  · cases made

/-- **There is a bus unless its room is set too large.** The capacity of a configuration is positive: the number that
its environment sets the room to, or the default. There is a bus for it iff that number is not above half of what 64
bits can count, and the bus is empty and has room for so many events, rounded up to a power of two. -/
theorem bus_unless_oversized (localData : String) (lookup : String → Option String) :
    ∃ capacity, (ofEnvironment localData lookup).eventCapacity.toNat = capacity ∧
      (0 < capacity ∧ (∀ n, Sets lookup n → capacity = n) ∧ ((∀ n, ¬Sets lookup n) → capacity = 256)) ∧
      ((ofEnvironment localData lookup).bus? = none ↔ ∃ n, Sets lookup n ∧ (UInt64.size - 1) / 2 < n) ∧
      ∀ bus, (ofEnvironment localData lookup).bus? = some bus → bus = { room := capacity.nextPowerOfTwo } := by
  have largest : Bus.maxCapacity = (UInt64.size - 1) / 2 := rfl
  refine ⟨_, rfl, ⟨eventCapacity_pos, fun n sets => eventCapacity_of_sets sets, fun unset => ?_⟩, ?_,
    fun bus made => ?_⟩
  · exact congrArg UInt64.toNat (eventCapacity_of_not_sets unset)
  · rw [bus?_eq_none_iff, largest]
    exact lt_eventCapacity_iff (by decide)
  · exact eq_of_bus?_eq_some made eventCapacity_pos

/-- An environment with this text for the room of the bus, and nothing else. -/
def roomFor (text key : String) : Option String := if key = "MCPMUX_EVENT_CAPACITY" then some text else none

theorem padded_number_sets_room :
    Sets (roomFor " +0300\n") 300 ∧ (ofEnvironment "/data" (roomFor " +0300\n")).eventCapacity.toNat = 300 ∧
    (ofEnvironment "/data" (roomFor " +0300\n")).bus? = some { room := Nat.nextPowerOfTwo 300 } := by
  have numeral : Text.Numeral 300 "+0300".toList :=
    ⟨"0300".toList, .inr rfl, nofun, List.all_eq_true.mp rfl, rfl⟩
  have sets : Sets (roomFor " +0300\n") 300 :=
    ⟨" +0300\n", rfl, ⟨[' '], "+0300".toList, ['\n'], rfl, numeral, List.all_eq_true.mp rfl, List.all_eq_true.mp rfl⟩,
      by decide, by decide⟩
  obtain ⟨capacity, same, ⟨-, set, -⟩, -, made⟩ := bus_unless_oversized "/data" (roomFor " +0300\n")
  cases set 300 sets
  have fits : ¬(ofEnvironment "/data" (roomFor " +0300\n")).bus? = none := by
    rw [bus?_eq_none_iff, same]
    decide
  obtain ⟨bus, there⟩ := Option.ne_none_iff_exists'.mp fits
  rw [there, made bus there]
  exact ⟨sets, same, rfl⟩

/-- For the largest number of 64 bits there is no bus. -/
theorem largest_has_no_bus : (ofEnvironment "/data" (roomFor "18446744073709551615")).bus? = none := rfl

end Configuration

end Switchboard
