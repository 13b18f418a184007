import PacketRadio.Period
import PacketRadio.Text

/-!
# Settings

What a radio is told once, when it is brought up, and never again.

Two of the settings decide when a packet leaves: a packet that holds
`minPacketSize` bytes goes at once, and one that holds fewer waits for
`sendTimeout` milliseconds at the most. The radio only knows time in ticks,
so the timeout is turned into a number of ticks for the period of the timer
that drives it.

That number is cut down to whole ticks, so that the deadline is never later
than asked for. It is at least one, because a packet cannot leave between two
ticks, and it fits in a word of 32 bits. The product of the timeout with a
thousand is taken in 64 bits, where it cannot wrap.

## Main definitions

* `Settings`: What a radio is configured with.
* `Settings.flushTicks`: The timeout as a number of ticks.

## Theorems

* `Settings.toNat_timeoutMicros`: The timeout in microseconds does not wrap.
* `Settings.toNat_flushTicks`: The timeout in ticks is the whole number of
  periods in it, kept between one and the largest word.
-/

namespace PacketRadio

/-- The configuration of one radio. -/
structure Settings where
  /-- The longest time a partial packet waits, in milliseconds. -/
  sendTimeout : UInt32
  /-- The payload length at which a packet leaves at once. -/
  minPacketSize : UInt16
  /-- How many packets the transport may have outstanding. -/
  window : UInt8
  /-- How many peers the transport may be connected to. -/
  maxConnections : UInt8
  id : UInt32
deriving DecidableEq

namespace Settings

/-- The settings of a radio that is told nothing. -/
def standard : Settings :=
  ⟨defaultSendTimeout, 1, defaultWindow, 1, 0⟩

instance : Inhabited Settings := ⟨standard⟩

/-- The timeout in microseconds. -/
def timeoutMicros (settings : Settings) : UInt64 :=
  settings.sendTimeout.toUInt64 * 1000

/-- The number of ticks of a given period after which a partial packet is
    forced out: the whole periods in the timeout, but at least one and at
    most what a word holds. -/
def flushTicks (settings : Settings) (period : Period) : UInt32 :=
  let ticks := settings.timeoutMicros / period.micros.toUInt64
  if ticks = 0 then
    -- A timeout below one period is rounded up, the only case that is.
    1
  else if 0xffffffff < ticks then
    0xffffffff
  else
    ticks.toUInt32

/-- The settings shown field by field. -/
def describe (settings : Settings) : String :=
  Text.record "RadioConfig"
    [("send_timeout_ms", toString settings.sendTimeout.toNat),
      ("min_packet_size", toString settings.minPacketSize.toNat),
      ("tx_win_size", toString settings.window.toNat),
      ("max_connections", toString settings.maxConnections.toNat),
      ("id", toString settings.id.toNat)]

theorem toNat_timeoutMicros (settings : Settings) :
    settings.timeoutMicros.toNat = settings.sendTimeout.toNat * 1000 := by
  have hlt := settings.sendTimeout.toNat_lt
  have hk : (1000 : UInt64).toNat = 1000 := rfl
  rw [timeoutMicros, UInt64.toNat_mul, UInt32.toNat_toUInt64, hk]
  exact Nat.mod_eq_of_lt (by omega)

theorem toNat_flushTicks (settings : Settings) (period : Period) :
    (settings.flushTicks period).toNat =
      min (max 1 (settings.sendTimeout.toNat * 1000 / period.micros.toNat)) 0xffffffff := by
  have hticks : (settings.timeoutMicros / period.micros.toUInt64).toNat =
      settings.sendTimeout.toNat * 1000 / period.micros.toNat := by
    rw [UInt64.toNat_div, toNat_timeoutMicros, UInt32.toNat_toUInt64]
  simp only [flushTicks]
  rw [← hticks]
  generalize settings.timeoutMicros / period.micros.toUInt64 = ticks
  by_cases hzero : ticks = 0
  · rw [if_pos hzero, hzero]
    rfl
  · have hpos : ticks.toNat ≠ 0 := fun h => hzero (UInt64.toNat.inj h)
    have hmax : (0xffffffff : UInt64).toNat = 0xffffffff := rfl
    rw [if_neg hzero]
    by_cases hlarge : 0xffffffff < ticks
    · have hlt := UInt64.lt_iff_toNat_lt.1 hlarge
      rw [if_pos hlarge]
      show 0xffffffff = _
      omega
    · have hle : ticks.toNat ≤ 0xffffffff :=
        Nat.le_of_not_lt fun h => hlarge (UInt64.lt_iff_toNat_lt.2 h)
      rw [if_neg hlarge, UInt64.toNat_toUInt32, Nat.mod_eq_of_lt (by omega)]
      omega

/-- A packet in flight always has at least one tick. -/
theorem flushTicks_ne_zero (settings : Settings) (period : Period) :
    settings.flushTicks period ≠ 0 := by
  intro hzero
  have hticks := settings.toNat_flushTicks period
  have h0 : (0 : UInt32).toNat = 0 := rfl
  rw [hzero, h0] at hticks
  omega

end Settings

end PacketRadio
