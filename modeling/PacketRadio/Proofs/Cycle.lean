import Mathlib.Data.List.DropRight
import PacketRadio.Countdown

/-!
# The Cycle of a Countdown

When a countdown expires, told from the ticks and not from the count.

A countdown goes down one tick at a time, and its state says how far it is from the
next expiry. What one wants to know is at which of many ticks it expires, whatever
the number of expiries in between and however often it is armed on the way. The
answer depends on one number, the ticks since it was armed last, and this number can
be read off the end of what happened: there are just so many ticks there and nothing
else (`ticksSince`). An arming wipes out what was before it.

The count and this number are tied by a remainder. Seen from the full count, a
countdown has `spent` some ticks, always fewer than a reload, and a tick adds one to
them and leaves the remainder by the reload. An expiry is therefore no case of its own:
it is the tick at which the remainder becomes zero (`Countdown.tick_fst`), and arming
again is what the remainder does by itself (`Countdown.spent_tick`). Along a run the
remainder is that of the ticks since the last arming (`Countdown.spent_run`).

A countdown that is not armed in a run goes on from where it was, which is as if it
had been armed as many ticks before as it has spent. That is its `age`, and so all is
said of runs of any countdown, and of a new one only in the end.

## Main definitions

* `Countdown.spent`: The ticks since a countdown was full.
* `Countdown.Event`, `Countdown.run`: What happens to a countdown.
* `Countdown.ticksSince`: The ticks since the last arming.
* `Countdown.age`: The same, for a countdown that had spent some ticks before.

## Theorems

* `Countdown.tick_cases`: What one tick does, by the ticks that are spent.
* `Countdown.spent_tick`, `Countdown.tick_fst`: The same by the remainder.
* `Countdown.spent_run`, `Countdown.tick_fst_run`: What a run leaves, and the answer
  to a tick after it.
* `Countdown.count_run_ticks`: The expiries among consecutive ticks.
* `Countdown.exists_run_new`: Every countdown comes from a new one.
* `Countdown.periodic`: A countdown in closed form.
-/

namespace PacketRadio

namespace Countdown

/-- The ticks since the countdown was full. -/
def spent (countdown : Countdown) : Nat :=
  countdown.reload.toNat - countdown.remaining.toNat

/-- What can happen to a countdown. -/
inductive Event where
  | tick
  | rearm
deriving DecidableEq

/-- Something happens. Only a tick has an answer. -/
def undergo (countdown : Countdown) : Event → Option Bool × Countdown
  | .tick => (some countdown.tick.1, countdown.tick.2)
  | .rearm => (none, countdown.rearm)

/-- One thing happens after another. The answers come in their order. -/
def run (countdown : Countdown) : List Event → List (Option Bool) × Countdown
  | [] => ([], countdown)
  | event :: rest =>
    let (answer, countdown) := countdown.undergo event
    let (answers, countdown) := countdown.run rest
    (answer :: answers, countdown)

/-- The ticks since the last arming, or since the beginning if there was none. -/
def ticksSince (events : List Event) : Nat :=
  (events.rtakeWhile (· = .tick)).length

/-- The ticks since the last arming. Without one, the ticks that were spent before
    count as well. -/
def age (countdown : Countdown) (events : List Event) : Nat :=
  (if .rearm ∈ events then 0 else countdown.spent) + ticksSince events

section

variable (countdown : Countdown)

theorem remaining_add_spent :
    countdown.remaining.toNat + countdown.spent = countdown.reload.toNat :=
  Nat.add_sub_of_le (UInt32.le_iff_toNat_le.1 countdown.remaining_le)

theorem spent_lt_reload : countdown.spent < countdown.reload.toNat := by
  have hpos : 0 < countdown.remaining.toNat := UInt32.lt_iff_toNat_lt.1 countdown.remaining_pos
  have hsum := countdown.remaining_add_spent
  omega

/-- A countdown is known by its reload and the ticks that are spent. -/
theorem eq_of_spent_eq {countdown other : Countdown} (hreload : countdown.reload = other.reload)
    (hspent : countdown.spent = other.spent) : countdown = other := by
  have hsum := countdown.remaining_add_spent
  rw [hreload, hspent, ← other.remaining_add_spent] at hsum
  exact Countdown.ext (UInt32.toNat.inj (Nat.add_right_cancel hsum)) hreload

/-- The reload of a countdown is never zero, so a new countdown takes it as it is. -/
theorem reload_new_reload : (new countdown.reload).reload = countdown.reload := by
  have hpos := UInt32.lt_of_lt_of_le countdown.remaining_pos countdown.remaining_le
  exact reload_new_of_ne_zero (UInt32.pos_iff_ne_zero.1 hpos)

@[simp] theorem spent_rearm : countdown.rearm.spent = 0 := Nat.sub_self _

@[simp] theorem spent_new (reload : UInt32) : (new reload).spent = 0 := by
  rw [spent, remaining_new]
  exact Nat.sub_self _

theorem toNat_reload_new (reload : UInt32) : (new reload).reload.toNat = max 1 reload.toNat := by
  rw [reload_new]
  split
  · rename_i hzero
    rw [hzero]
    rfl
  · rename_i hne
    have hpos : reload.toNat ≠ 0 := fun h => hne (UInt32.toNat.inj h)
    omega

/-- The last tick of a cycle expires and leaves nothing spent. Any other is spent. -/
theorem tick_cases :
    (countdown.spent + 1 = countdown.reload.toNat ∧
      countdown.tick.1 = true ∧ countdown.tick.2.spent = 0) ∨
    (countdown.spent + 1 < countdown.reload.toNat ∧
      countdown.tick.1 = false ∧ countdown.tick.2.spent = countdown.spent + 1) := by
  have hsum := countdown.remaining_add_spent
  by_cases hlast : countdown.remaining = 1
  · refine .inl ⟨?_, ?_⟩
    · rw [← hsum, hlast, Nat.add_comm]
      rfl
    · rw [tick_of_remaining_eq_one hlast]
      exact ⟨rfl, countdown.spent_rearm⟩
  · rcases tick_of_remaining_ne_one hlast with ⟨hanswer, hcount⟩
    have hafter := countdown.tick.2.remaining_add_spent
    have hrest := countdown.tick.2.spent_lt_reload
    rw [reload_tick] at hafter hrest
    exact .inr ⟨by omega, hanswer, by omega⟩

/-- A tick adds one, and the reload is taken off where it is reached. -/
theorem spent_tick :
    countdown.tick.2.spent = (countdown.spent + 1) % countdown.reload.toNat := by
  rcases countdown.tick_cases with ⟨hlast, -, hspent⟩ | ⟨hearly, -, hspent⟩
  · rw [hspent, hlast, Nat.mod_self]
  · rw [hspent, Nat.mod_eq_of_lt hearly]

/-- The expiry is the tick at which a multiple of the reload is reached. -/
theorem tick_fst :
    countdown.tick.1 = decide (countdown.reload.toNat ∣ countdown.spent + 1) := by
  rcases countdown.tick_cases with ⟨hlast, hanswer, -⟩ | ⟨hearly, hanswer, -⟩
  · rw [hanswer, hlast]
    exact (decide_eq_true (Nat.dvd_refl _)).symm
  · rw [hanswer]
    exact (decide_eq_false (Nat.not_dvd_of_pos_of_lt (Nat.succ_pos _) hearly)).symm

end

theorem ticksSince_concat_tick (events : List Event) :
    ticksSince (events ++ [.tick]) = ticksSince events + 1 := by
  rw [ticksSince, List.rtakeWhile_concat_pos _ _ _ rfl, List.length_append]
  rfl

theorem ticksSince_concat_rearm (events : List Event) : ticksSince (events ++ [.rearm]) = 0 := by
  rw [ticksSince, List.rtakeWhile_concat_neg _ _ _ (by decide)]
  rfl

section

variable (countdown : Countdown) (events : List Event)

theorem age_concat_tick : countdown.age (events ++ [.tick]) = countdown.age events + 1 := by
  simp only [age, List.mem_append, List.mem_singleton, reduceCtorEq, or_false,
    ticksSince_concat_tick, Nat.add_assoc]

theorem age_concat_rearm : countdown.age (events ++ [.rearm]) = 0 := by
  simp only [age, List.mem_append, List.mem_singleton, or_true, if_true,
    ticksSince_concat_rearm]

theorem age_ticks (count : Nat) :
    countdown.age (List.replicate count .tick) = countdown.spent + count := by
  induction count with
  | zero => rfl
  | succ count ih => rw [List.replicate_succ', age_concat_tick, ih, Nat.add_assoc]

/-- A new countdown has spent nothing before. -/
theorem age_new (reload : UInt32) : (new reload).age events = ticksSince events := by
  rw [age, spent_new, ite_self, Nat.zero_add]

theorem run_append (later : List Event) :
    countdown.run (events ++ later) =
      ((countdown.run events).1 ++ ((countdown.run events).2.run later).1,
        ((countdown.run events).2.run later).2) := by
  induction events generalizing countdown with
  | nil => rfl
  | cons event rest ih => simp only [List.cons_append, run, ih]

theorem length_run : (countdown.run events).1.length = events.length := by
  induction events generalizing countdown with
  | nil => rfl
  | cons event rest ih => exact congrArg (· + 1) (ih _)

@[simp] theorem reload_run : (countdown.run events).2.reload = countdown.reload := by
  induction events generalizing countdown with
  | nil => rfl
  | cons event rest ih =>
      have hrest := ih (countdown.undergo event).2
      cases event with
      | tick => exact hrest.trans countdown.reload_tick
      | rearm => exact hrest

/-- What a run leaves spent is what remains of the age by the reload. -/
theorem spent_run :
    (countdown.run events).2.spent = countdown.age events % countdown.reload.toNat := by
  induction events using List.reverseRecOn with
  | nil =>
      have hage : countdown.age [] = countdown.spent := rfl
      rw [hage, Nat.mod_eq_of_lt countdown.spent_lt_reload]
      rfl
  | append_singleton events event ih =>
      rw [run_append]
      -- The last event finds the state of which the hypothesis speaks.
      cases event with
      | tick =>
          have htick := (countdown.run events).2.spent_tick
          rw [reload_run, ih, Nat.mod_add_mod] at htick
          rw [age_concat_tick]
          exact htick
      | rearm =>
          rw [age_concat_rearm, Nat.zero_mod]
          exact (countdown.run events).2.spent_rearm

/-- A tick after a run expires if it makes the age a multiple of the reload. -/
theorem tick_fst_run :
    (countdown.run events).2.tick.1 =
      decide (countdown.reload.toNat ∣ countdown.age (events ++ [.tick])) := by
  have hdvd : countdown.reload.toNat ∣ countdown.age events % countdown.reload.toNat + 1 ↔
      countdown.reload.toNat ∣ countdown.age events + 1 := by
    rw [Nat.dvd_iff_mod_eq_zero, Nat.dvd_iff_mod_eq_zero, Nat.mod_add_mod]
  rw [tick_fst, reload_run, spent_run, age_concat_tick]
  exact decide_eq_decide.2 hdvd

/-- The answer to a tick of a run stands where the tick stands. -/
theorem getElem?_run_tick (later : List Event) :
    (countdown.run (events ++ .tick :: later)).1[events.length]? =
      some (some (countdown.run events).2.tick.1) := by
  have hlength := countdown.length_run events
  rw [run_append, List.getElem?_append_right (Nat.le_of_eq hlength), hlength, Nat.sub_self]
  rfl

end

/-- Of consecutive ticks, as many expire as there are whole reloads in the ticks and
    in what was spent before. -/
theorem count_run_ticks (countdown : Countdown) (count : Nat) :
    (countdown.run (List.replicate count .tick)).1.count (some true) =
      (countdown.spent + count) / countdown.reload.toNat := by
  induction count with
  | zero => exact (Nat.div_eq_of_lt countdown.spent_lt_reload).symm
  | succ count ih =>
      -- The last of the ticks counts if it ends a reload, as the quotient does.
      have hlast := countdown.tick_fst_run (List.replicate count .tick)
      rw [← List.replicate_succ', age_ticks] at hlast
      rw [List.replicate_succ', run_append, List.count_append, ih, ← Nat.add_assoc, Nat.succ_div]
      congr 1
      show [some (countdown.run (List.replicate count .tick)).2.tick.1].count (some true) = _
      rw [hlast, List.count_singleton]
      simp only [Option.some_beq_some, beq_true, decide_eq_true_eq, Nat.add_assoc]

/-- The bounds of a countdown leave no room for states that do not occur: every
    countdown comes from a new one, and it takes only ticks. -/
theorem exists_run_new (countdown : Countdown) :
    ∃ count, ((new countdown.reload).run (List.replicate count .tick)).2 = countdown := by
  refine ⟨countdown.spent, eq_of_spent_eq ?_ ?_⟩
  · rw [reload_run, reload_new_reload]
  · rw [spent_run, age_ticks, spent_new, Nat.zero_add, reload_new_reload]
    exact Nat.mod_eq_of_lt countdown.spent_lt_reload

/-- A countdown in closed form.

    Take a new countdown with any reload, where zero counts as one, and let it be
    ticked and armed in any order. Its reload stays what it was. The ticks since it
    was armed last, or since it was new, tell what remains: the reload less their
    remainder, which is from one to the reload. Wherever a tick stands in a run,
    it expires just if the reload divides the number of these ticks, itself
    included. So of any number of ticks in a row, as many expire as there are whole
    reloads in them and in the ticks that were spent before. -/
theorem periodic (value : UInt32) (events : List Event) :
    let reload := max 1 value.toNat
    let countdown := ((new value).run events).2
    let remaining := countdown.remaining.toNat
    countdown.reload.toNat = reload ∧
      remaining = reload - ticksSince events % reload ∧ 1 ≤ remaining ∧ remaining ≤ reload ∧
      (∀ later, ((new value).run (events ++ .tick :: later)).1[events.length]? =
        some (some (decide (reload ∣ ticksSince (events ++ [.tick]))))) ∧
      ∀ count, (countdown.run (List.replicate count .tick)).1.count (some true) =
        (reload - remaining + count) / reload := by
  intro reload countdown remaining
  have hreload : (new value).reload.toNat = reload := toNat_reload_new value
  have hkept : countdown.reload.toNat = reload := by rw [← hreload, reload_run]
  have hspent : countdown.spent = ticksSince events % reload := by
    rw [← hreload, ← age_new events value]
    exact spent_run _ events
  have hsum : remaining + ticksSince events % reload = reload := by
    rw [← hspent, ← hkept]
    exact countdown.remaining_add_spent
  have hrest : ticksSince events % reload < reload := Nat.mod_lt _ (by omega)
  refine ⟨hkept, by omega, by omega, by omega, fun later => ?_, fun count => ?_⟩
  · rw [getElem?_run_tick, tick_fst_run, age_new, hreload]
  · rw [count_run_ticks, hkept, hspent]
    congr 2
    omega

-- Zero counts as one, and every tick is the last one.
example : ((new 0).run [.tick, .rearm, .tick, .tick]).1 =
    [some true, none, some true, some true] := by decide

end Countdown

end PacketRadio
