import Mathlib.Algebra.Group.Nat.Defs
import Mathlib.Order.Bounds.Basic
import PacketRadio.Countdown
import PacketRadio.Settings

/-!
# The Timeout in Ticks

Why the deadline of a packet is as late as the settings allow, and no later.

A timeout is turned into ticks by a division, which is cut to a whole number, and
the quotient is kept between one and the largest word. Neither the rounding nor the
two ends are what one wants to know about the result. What one wants to know is
which counts of ticks it allows, and that has a short answer
(`Settings.le_flushTicks_iff`): a count is within the reload if the timer has
ticked that often when the timeout is over, as far as a word can hold the count;
and a count of one always is.

The rest follows from that answer by asking it about the right count. Asked about
the reload itself, it says that the deadline does not exceed the timeout, and asked
about the next count, that this one would. Asked about the reload of other settings
or of another timer, it compares the two.

## Theorems

* `Settings.le_flushTicks_iff`: Which counts of ticks the reload allows.
* `Settings.flushTicks_mono`, `Settings.flushTicks_anti`: Longer timeouts give more
  ticks, and longer periods fewer.
* `Settings.reload_new_flushTicks`: A countdown takes the reload as it is.
* `Settings.largest_reload`: The reload is the largest count that is admissible.
-/

namespace PacketRadio

namespace Settings

/-- A count is within the reload if that many periods fit into the timeout and the
    count into a word, and a count of one is in any case. -/
theorem le_flushTicks_iff (settings : Settings) (period : Period) (count : Nat) :
    count ≤ (settings.flushTicks period).toNat ↔
      count ≤ 1 ∨
        count ≤ 2 ^ 32 - 1 ∧ count * period.micros.toNat ≤ settings.timeoutMicros.toNat := by
  have hfits : count ≤ settings.timeoutMicros.toNat / period.micros.toNat ↔
      count * period.micros.toNat ≤ settings.timeoutMicros.toNat :=
    Nat.le_div_iff_mul_le period.one_le_micros
  -- What is left is the minimum and the maximum around the quotient.
  rw [toNat_flushTicks, ← toNat_timeoutMicros, ← hfits]
  omega

/-- A longer timeout gives no fewer ticks. -/
theorem flushTicks_mono {settings longer : Settings}
    (h : settings.sendTimeout ≤ longer.sendTimeout) (period : Period) :
    settings.flushTicks period ≤ longer.flushTicks period := by
  have htimeout : settings.timeoutMicros.toNat ≤ longer.timeoutMicros.toNat := by
    rw [toNat_timeoutMicros, toNat_timeoutMicros]
    exact Nat.mul_le_mul_right 1000 (UInt32.le_iff_toNat_le.1 h)
  rw [UInt32.le_iff_toNat_le, le_flushTicks_iff]
  rcases (settings.le_flushTicks_iff period _).1 (Nat.le_refl _) with hone | ⟨hword, hfits⟩
  · exact .inl hone
  · exact .inr ⟨hword, Nat.le_trans hfits htimeout⟩

/-- A longer period gives no more ticks. -/
theorem flushTicks_anti (settings : Settings) {period slower : Period}
    (h : period.micros ≤ slower.micros) :
    settings.flushTicks slower ≤ settings.flushTicks period := by
  rw [UInt32.le_iff_toNat_le, le_flushTicks_iff]
  rcases (settings.le_flushTicks_iff slower _).1 (Nat.le_refl _) with hone | ⟨hword, hfits⟩
  · exact .inl hone
  · refine .inr ⟨hword, Nat.le_trans ?_ hfits⟩
    exact Nat.mul_le_mul_left _ (UInt32.le_iff_toNat_le.1 h)

/-- A countdown that is armed for a timeout has the reload and is full. -/
theorem reload_new_flushTicks (settings : Settings) (period : Period) :
    (Countdown.new (settings.flushTicks period)).reload = settings.flushTicks period ∧
      (Countdown.new (settings.flushTicks period)).remaining = settings.flushTicks period := by
  have hreload := Countdown.reload_new_of_ne_zero (settings.flushTicks_ne_zero period)
  exact ⟨hreload, (Countdown.remaining_new _).trans hreload⟩

/-- The reload is the largest count of ticks that is admissible.

    Take any settings and any period. The timeout in microseconds is the product it
    is meant to be, and the reload is a positive number of ticks that a word holds.
    So many periods are no longer than the timeout, unless the timeout is below one
    period, where it is one period. One tick more would be too late, unless a word
    cannot count it. So of all counts from one to the largest word that keep to the
    timeout in this sense, the reload is the greatest. It does not get smaller with
    a longer timeout, whatever else is set, and not larger with a longer period,
    and a countdown is armed with just this number. -/
theorem largest_reload (settings : Settings) (period : Period) :
    let timeout := settings.timeoutMicros.toNat
    let micros := period.micros.toNat
    let reload := settings.flushTicks period
    let ticks := reload.toNat
    timeout = 1000 * settings.sendTimeout.toNat ∧
      1 ≤ ticks ∧ ticks ≤ 2 ^ 32 - 1 ∧
      ticks * micros ≤ max timeout micros ∧
      (ticks < 2 ^ 32 - 1 → timeout < (ticks + 1) * micros) ∧
      IsGreatest
        {count | 1 ≤ count ∧ count ≤ 2 ^ 32 - 1 ∧ count * micros ≤ max timeout micros} ticks ∧
      (∀ longer : Settings, settings.sendTimeout ≤ longer.sendTimeout →
        reload ≤ longer.flushTicks period) ∧
      (∀ slower : Period, period.micros ≤ slower.micros → settings.flushTicks slower ≤ reload) ∧
      (Countdown.new reload).reload = reload ∧ (Countdown.new reload).remaining = reload := by
  intro timeout micros reload ticks
  have hallowed := settings.le_flushTicks_iff period
  have hpos : 1 ≤ ticks := (hallowed 1).2 (.inl (Nat.le_refl 1))
  have hword : ticks ≤ 2 ^ 32 - 1 := Nat.le_of_lt_succ reload.toNat_lt
  -- The reload allows itself.
  have hkept : ticks * micros ≤ max timeout micros := by
    rcases (hallowed ticks).1 (Nat.le_refl ticks) with hone | ⟨-, hfits⟩
    · have hperiod := Nat.mul_le_mul_right micros hone
      rw [Nat.one_mul] at hperiod
      exact Nat.le_trans hperiod (Nat.le_max_right _ _)
    · exact Nat.le_trans hfits (Nat.le_max_left _ _)
  refine ⟨?_, hpos, hword, hkept, fun hsmall => ?_, ⟨⟨hpos, hword, hkept⟩, ?_⟩,
    fun longer hlonger => flushTicks_mono hlonger period,
    fun slower hslower => settings.flushTicks_anti hslower,
    settings.reload_new_flushTicks period⟩
  · show settings.timeoutMicros.toNat = _
    rw [toNat_timeoutMicros, Nat.mul_comm]
  · -- The next count is not allowed, and a word could hold it.
    refine Nat.lt_of_not_le fun hfits => Nat.not_succ_le_self ticks ?_
    exact (hallowed (ticks + 1)).2 (.inr ⟨by omega, hfits⟩)
  · rintro count ⟨-, hcount, hlate⟩
    refine (hallowed count).2 ?_
    rcases Nat.le_total micros timeout with hlong | hshort
    · rw [Nat.max_eq_left hlong] at hlate
      exact .inr ⟨hcount, hlate⟩
    · -- Below one period only a single tick is admissible.
      rw [Nat.max_eq_right hshort] at hlate
      refine .inl (Nat.le_of_mul_le_mul_right ?_ period.one_le_micros)
      rw [Nat.one_mul]
      exact hlate

/-- A tenth of a second on the standard timer is 62 ticks, which are 99.2 ms long. -/
theorem largest_reload_standard :
    let reload := standard.flushTicks Period.standard
    let longer : Settings := { standard with sendTimeout := 101 }
    let slower : Period := ⟨1601, by decide⟩
    reload.toNat = 62 ∧ 62 * 1600 ≤ 100000 ∧ 100000 < (62 + 1) * 1600 ∧
      reload ≤ longer.flushTicks Period.standard ∧ standard.flushTicks slower ≤ reload := by
  intro reload longer slower
  have hticks : reload.toNat = 62 := by decide
  have htimeout : standard.timeoutMicros.toNat = 100000 := by decide
  rcases standard.largest_reload Period.standard with
    ⟨-, -, -, hkept, hnext, -, hlonger, hslower, -⟩
  have hlate := hnext (by decide)
  rw [hticks, htimeout] at hlate
  refine ⟨hticks, by decide, hlate, hlonger longer (by decide), hslower slower (by decide)⟩

end Settings

end PacketRadio
