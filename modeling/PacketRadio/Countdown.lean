import PacketRadio.Text

/-!
# Countdown

The ticks left until a partial packet is forced out.

A countdown expires on the tick that uses up its last count, and on that same
tick it is armed again. It therefore never stands at zero: the remaining
count lies between one and the reload value, and the type says so.

## Main definitions

* `Countdown`: A remaining count with the value it is armed to.
* `Countdown.new`: A freshly armed countdown.
* `Countdown.rearm`: Back to the full count.
* `Countdown.tick`: One tick, and whether it was the last.

## Theorems

* `Countdown.remaining_new`, `Countdown.reload_new`: A new countdown is full,
  and a reload of zero counts as one.
* `Countdown.tick_of_remaining_eq_one`, `Countdown.tick_of_remaining_ne_one`:
  What one tick does, by whether it is the last.
* `Countdown.remaining_of_tick_eq_false`, `Countdown.eq_rearm_of_tick_eq_true`:
  What a tick did, by its answer.
* `Countdown.reload_tick`: A tick never changes the reload value.
-/

namespace PacketRadio

/-- Ticks until the next expiry, and the number of ticks between expiries. -/
@[ext] structure Countdown where
  /-- Ticks left before the next expiry. -/
  remaining : UInt32
  reload : UInt32
  -- The expiring tick arms again, so the count never rests at zero.
  remaining_pos : 0 < remaining
  remaining_le : remaining ≤ reload

namespace Countdown

instance : DecidableEq Countdown := fun _ _ => decidable_of_iff' _ Countdown.ext_iff

/-- A full countdown. One that would expire without a tick expires on every
    tick instead. -/
def new (reload : UInt32) : Countdown :=
  if h : reload = 0 then
    ⟨1, 1, by decide, by decide⟩
  else
    ⟨reload, reload, UInt32.pos_iff_ne_zero.2 h, UInt32.le_refl reload⟩

/-- Back to the full count. -/
def rearm (countdown : Countdown) : Countdown :=
  ⟨countdown.reload, countdown.reload,
    UInt32.lt_of_lt_of_le countdown.remaining_pos countdown.remaining_le,
    UInt32.le_refl countdown.reload⟩

/-- One count less is still a count when it was not the last one. -/
theorem sub_one_pos {remaining : UInt32} (hpos : 0 < remaining) (hne : ¬ remaining = 1) :
    0 < remaining - 1 := by
  have hone : 1 ≤ remaining := by
    rw [UInt32.le_iff_toNat_le]
    exact UInt32.lt_iff_toNat_lt.1 hpos
  have hval : remaining.toNat ≠ 1 := fun h => hne (UInt32.toNat.inj h)
  rw [UInt32.lt_iff_toNat_lt] at hpos ⊢
  rw [UInt32.toNat_sub_of_le _ _ hone]
  have h0 : (0 : UInt32).toNat = 0 := rfl
  have h1 : (1 : UInt32).toNat = 1 := rfl
  omega

/-- One count less stays below the full count. -/
theorem sub_one_le {remaining reload : UInt32} (hpos : 0 < remaining)
    (hle : remaining ≤ reload) : remaining - 1 ≤ reload := by
  have hone : 1 ≤ remaining := by
    rw [UInt32.le_iff_toNat_le]
    exact UInt32.lt_iff_toNat_lt.1 hpos
  rw [UInt32.le_iff_toNat_le] at hle ⊢
  rw [UInt32.toNat_sub_of_le _ _ hone]
  omega

/-- Count one tick. The answer tells whether it was the last one, in which
    case the countdown is already full again. -/
def tick (countdown : Countdown) : Bool × Countdown :=
  if h : countdown.remaining = 1 then
    (true, countdown.rearm)
  else
    (false, ⟨countdown.remaining - 1, countdown.reload,
      sub_one_pos countdown.remaining_pos h,
      sub_one_le countdown.remaining_pos countdown.remaining_le⟩)

/-- A countdown shown with both its counts. -/
def describe (countdown : Countdown) : String :=
  Text.record "Countdown"
    [("remaining", toString countdown.remaining.toNat),
      ("reload", toString countdown.reload.toNat)]

theorem reload_new (reload : UInt32) : (new reload).reload = if reload = 0 then 1 else reload := by
  unfold new
  split <;> rfl

theorem reload_new_of_ne_zero {reload : UInt32} (h : reload ≠ 0) :
    (new reload).reload = reload := by
  rw [reload_new, if_neg h]

theorem remaining_new (reload : UInt32) : (new reload).remaining = (new reload).reload := by
  unfold new
  split <;> rfl

@[simp] theorem reload_rearm (countdown : Countdown) :
    countdown.rearm.reload = countdown.reload := rfl

@[simp] theorem remaining_rearm (countdown : Countdown) :
    countdown.rearm.remaining = countdown.reload := rfl

theorem tick_of_remaining_eq_one {countdown : Countdown} (h : countdown.remaining = 1) :
    countdown.tick = (true, countdown.rearm) := by
  rw [tick, dif_pos h]

theorem tick_of_remaining_ne_one {countdown : Countdown} (h : countdown.remaining ≠ 1) :
    countdown.tick.1 = false ∧
      countdown.tick.2.remaining.toNat + 1 = countdown.remaining.toNat := by
  have hpos := UInt32.lt_iff_toNat_lt.1 countdown.remaining_pos
  have h0 : (0 : UInt32).toNat = 0 := rfl
  have hone : 1 ≤ countdown.remaining := UInt32.le_iff_toNat_le.2 hpos
  rw [tick, dif_neg h]
  refine ⟨rfl, ?_⟩
  show (countdown.remaining - 1).toNat + 1 = _
  rw [UInt32.toNat_sub_of_le _ _ hone]
  have h1 : (1 : UInt32).toNat = 1 := rfl
  omega

/-- A tick that is not the last one is counted. -/
theorem remaining_of_tick_eq_false {countdown after : Countdown}
    (h : countdown.tick = (false, after)) :
    after.remaining.toNat + 1 = countdown.remaining.toNat := by
  by_cases hone : countdown.remaining = 1
  · rw [tick_of_remaining_eq_one hone] at h
    exact nomatch congrArg Prod.fst h
  · have hcount := (tick_of_remaining_ne_one hone).2
    rw [h] at hcount
    exact hcount

/-- The last tick finds a count of one and leaves a full one. -/
theorem eq_rearm_of_tick_eq_true {countdown after : Countdown}
    (h : countdown.tick = (true, after)) :
    countdown.remaining = 1 ∧ after = countdown.rearm := by
  by_cases hone : countdown.remaining = 1
  · rw [tick_of_remaining_eq_one hone] at h
    exact ⟨hone, (congrArg Prod.snd h).symm⟩
  · have hcount := (tick_of_remaining_ne_one hone).1
    rw [h] at hcount
    exact nomatch hcount

@[simp] theorem reload_tick (countdown : Countdown) :
    countdown.tick.2.reload = countdown.reload := by
  unfold tick
  split <;> rfl

end Countdown

end PacketRadio
