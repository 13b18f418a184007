import PacketRadio.Failure
import PacketRadio.Limits
import PacketRadio.Period

/-!
# Tick tables

Who is told when a timer ticks.

A tick table belongs to one timer, and whoever owns the timer fires the table
once a period. Subscribers are kept in the order in which they came, each
with a context of one word that is handed back to it on every tick. A table
has room for a fixed number of them; the one that finds no room changes
nothing, and nobody ever leaves.

A firing runs every subscriber, also after one of them asked for a yield, and
its answer is whether any of them did.

## Main definitions

* `TickTable`: A period, a capacity and the subscriptions.
* `TickTable.register`: One more subscription.
* `TickTable.fire`: One tick for every subscription.

## Theorems

* `TickTable.register_eq_error_iff`, `TickTable.of_register_eq_error`: Only a
  full table refuses.
* `TickTable.subscriptions_register`, `TickTable.period_register`,
  `TickTable.capacity_register`: A subscription goes behind the others, and the
  period and the capacity stay.
-/

namespace PacketRadio

/-- Somebody to be told about ticks, and what to tell them. -/
structure Subscription (η : Type) where
  handler : η
  /-- The word handed back on every tick. -/
  context : UInt32

/-- The subscriptions to one timer. -/
structure TickTable (η : Type) where
  period : Period
  /-- How many subscriptions fit. -/
  capacity : Nat
  -- The subscriptions, in the order in which they came.
  subscriptions : List (Subscription η)
  length_le : subscriptions.length ≤ capacity

namespace TickTable

variable {η : Type}

/-- A table without subscriptions. -/
def empty (period : Period) (capacity : Nat) : TickTable η :=
  ⟨period, capacity, [], Nat.zero_le _⟩

/-- A table without subscriptions for the standard tick. -/
def standard : TickTable η := empty Period.standard defaultSubscriptions

instance : Inhabited (TickTable η) := ⟨standard⟩

/-- The number of subscriptions. -/
def size (table : TickTable η) : Nat := table.subscriptions.length

/-- There are no subscriptions. -/
def isEmpty (table : TickTable η) : Bool := table.subscriptions.isEmpty

/-- Subscribe a handler, behind all the others. -/
def register (table : TickTable η) (handler : η) (context : UInt32) :
    Except Failure (TickTable η) :=
  if h : table.subscriptions.length < table.capacity then
    .ok ⟨table.period, table.capacity, table.subscriptions ++ [⟨handler, context⟩], by
      rw [List.length_append]
      exact h⟩
  else
    .error .tableFull

/-- Tell every subscriber about a tick, in order. The answer is whether any of
    them asked for a yield. -/
def fire {μ : Type → Type} [Monad μ] (table : TickTable η) (run : η → UInt32 → μ Bool) :
    μ Bool :=
  table.subscriptions.foldlM (fun yield subscription => do
    -- The handler runs in any case; only then are the wishes joined.
    let wish ← run subscription.handler subscription.context
    return yield || wish) false

theorem register_eq_error_iff (table : TickTable η) (handler : η) (context : UInt32) :
    table.register handler context = .error .tableFull ↔ table.capacity ≤ table.size := by
  rw [register, size]
  split
  · rename_i h
    constructor
    · intro heq
      exact nomatch heq
    · intro hle
      omega
  · rename_i h
    exact ⟨fun _ => Nat.le_of_not_lt h, fun _ => rfl⟩

theorem subscriptions_register {table table' : TickTable η} {handler : η} {context : UInt32}
    (h : table.register handler context = .ok table') :
    table'.subscriptions = table.subscriptions ++ [⟨handler, context⟩] := by
  rw [register] at h
  split at h
  · rw [← Except.ok.inj h]
  · exact nomatch h

theorem period_register {table table' : TickTable η} {handler : η} {context : UInt32}
    (h : table.register handler context = .ok table') : table'.period = table.period := by
  rw [register] at h
  split at h
  · rw [← Except.ok.inj h]
  · exact nomatch h

theorem capacity_register {table table' : TickTable η} {handler : η} {context : UInt32}
    (h : table.register handler context = .ok table') : table'.capacity = table.capacity := by
  rw [register] at h
  split at h
  · rw [← Except.ok.inj h]
  · exact nomatch h

/-- Only a full table refuses, and it says so. -/
theorem of_register_eq_error {table : TickTable η} {handler : η} {context : UInt32}
    {failure : Failure} (h : table.register handler context = .error failure) :
    failure = .tableFull ∧ table.capacity ≤ table.size := by
  have hfull : failure = .tableFull := by
    rw [register] at h
    split at h
    · exact nomatch h
    · exact (Except.error.inj h).symm
  exact ⟨hfull, (table.register_eq_error_iff handler context).1 (hfull ▸ h)⟩

end TickTable

end PacketRadio
