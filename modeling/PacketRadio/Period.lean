import PacketRadio.Limits

/-!
# Tick periods

The time between two ticks of a timer, in whole microseconds and never zero.

A period is built from a length or from a rate. Both can fail: a length of
zero is no period, and a rate above one tick a microsecond has none either,
since its length would be cut to zero. Because the type rules zero out,
everything that divides by a period may do so without asking.

## Main definitions

* `Period`: A positive number of microseconds.
* `Period.ofMicros?`, `Period.ofHertz?`: The period of a length, of a rate.
* `Period.hertz`: The rate of a period, cut to a whole number.
* `Period.standard`: The period of the standard tick.

## Theorems

* `Period.ofMicros?_micros`: Every period is the one of its length.
* `Period.one_le_micros`: A period has at least one microsecond.
-/

namespace PacketRadio

/-- The time between two ticks. -/
structure Period where
  micros : UInt32
  /-- Time passes between two ticks. -/
  micros_pos : 0 < micros
deriving DecidableEq

namespace Period

/-- The number of microseconds in a second. -/
def microsPerSecond : UInt32 := 1000000

/-- The period of a given length; zero is none. -/
def ofMicros? (micros : UInt32) : Option Period :=
  if h : 0 < micros then some ⟨micros, h⟩ else none

/-- A rate of at most one tick a microsecond leaves a positive length. -/
theorem div_hertz_pos {hertz : UInt32} (h : 0 < hertz ∧ hertz ≤ microsPerSecond) :
    0 < microsPerSecond / hertz := by
  have hpos := UInt32.lt_iff_toNat_lt.1 h.1
  have hle := UInt32.le_iff_toNat_le.1 h.2
  rw [UInt32.lt_iff_toNat_lt, UInt32.toNat_div]
  exact Nat.div_pos hle hpos

/-- The period of a given rate, cut to whole microseconds. A rate of zero has
    none, and neither has one that is faster than a tick a microsecond. -/
def ofHertz? (hertz : UInt32) : Option Period :=
  if h : 0 < hertz ∧ hertz ≤ microsPerSecond then
    some ⟨microsPerSecond / hertz, div_hertz_pos h⟩
  else
    none

/-- The rate of a period in ticks a second, cut to a whole number. -/
def hertz (period : Period) : UInt32 :=
  microsPerSecond / period.micros

/-- The period of the standard tick. -/
def standard : Period :=
  ⟨microsPerSecond / standardRate, by decide⟩

/-- Periods are ordered by their length. -/
instance : Ord Period :=
  ⟨fun first second => compare first.micros second.micros⟩

/-- A period shown with its length. -/
def describe (period : Period) : String :=
  "TickPeriod(" ++ toString period.micros.toNat ++ " us)"

theorem ofMicros?_micros (period : Period) : ofMicros? period.micros = some period := by
  simp [ofMicros?, period.micros_pos]

theorem one_le_micros (period : Period) : 1 ≤ period.micros.toNat :=
  UInt32.lt_iff_toNat_lt.1 period.micros_pos

end Period

end PacketRadio
