import PacketRadio.Failure
import PacketRadio.Radio

/-!
# Pools

A fixed number of slots for radios, shared by everybody who holds a handle.

Slots are filled in order, once each, and are never emptied; the number of
slots filled so far is all the bookkeeping there is. A handle names a slot.
Whether the slot holds a radio is checked on every use, since handles can be
made up. A use that finds no radio fails and touches nothing.

Building a radio comes before looking for a slot, as a radio that finds none
is dropped. Its transport has been built by then, and what that did to the
world stays done.

## Main definitions

* `Pool`: The slots and their count.
* `Pool.radio?`: The radio a handle names.
* `Pool.allocate`: Building a radio into the next slot.
* `Pool.perform`: A request to the radio a handle names.
* `Pool.tick`: A tick for the radio a context names.

## Theorems

* `Pool.perform_of_radio?_eq_none`, `Pool.tick_of_radio?_eq_none`: What
  happens under a handle that names no radio.
-/

namespace PacketRadio

/-- Slots for radios. -/
structure Pool (capacity : Nat) (τ σ ω : Type) where
  -- The slots, filled from the first one on.
  slots : Vector (Option (Radio τ σ ω)) capacity
  /-- How many slots have been filled. -/
  allocated : Nat

namespace Pool

variable {capacity : Nat} {τ σ ω : Type}

/-- A pool without radios. -/
def empty : Pool capacity τ σ ω := ⟨Vector.replicate capacity none, 0⟩

/-- The radio a handle names, if its slot holds one that is live. -/
def radio? (pool : Pool capacity τ σ ω) (handle : Handle) : Option (Radio τ σ ω) :=
  pool.slots[handle.index]?.join.filter Radio.isLive

/-- The handle names a radio. -/
def validates (pool : Pool capacity τ σ ω) (handle : Handle) : Bool :=
  (pool.radio? handle).isSome

/-- The flush countdown of a radio. -/
def countdown? (pool : Pool capacity τ σ ω) (handle : Handle) : Option Countdown :=
  (pool.radio? handle).map fun radio => radio.countdown

/-- The number of bytes in a radio's packet in flight. -/
def pendingLength? (pool : Pool capacity τ σ ω) (handle : Handle) : Option Nat :=
  (pool.radio? handle).map fun radio => radio.pendingLength

/-- Whether a radio has a packet in flight, even an empty one. -/
def inFlight? (pool : Pool capacity τ σ ω) (handle : Handle) : Option Bool :=
  (pool.radio? handle).map fun radio => radio.inFlight.isSome

/-- The settings of a radio. -/
def settings? (pool : Pool capacity τ σ ω) (handle : Handle) : Option Settings :=
  (pool.radio? handle).map fun radio => radio.settings

/-- The pool with another radio in the slot a handle names. -/
def update (pool : Pool capacity τ σ ω) (handle : Handle) (radio : Radio τ σ ω) :
    Pool capacity τ σ ω :=
  { pool with slots := pool.slots.setIfInBounds handle.index (some radio) }

/-- Put a radio into the next slot, if there is one. -/
def insert (pool : Pool capacity τ σ ω) (radio : Radio τ σ ω) :
    Except Failure Handle × Pool capacity τ σ ω :=
  if h : pool.allocated < capacity then
    (.ok (Handle.ofIndex pool.allocated),
      ⟨pool.slots.set pool.allocated (some radio) h, pool.allocated + 1⟩)
  else
    (.error .outOfDevices, pool)

/-- Build a radio into the next slot, if there is one. -/
def allocate [Transport τ ω] (pool : Pool capacity τ σ ω) (settings : Settings)
    (period : Period) (link : σ) :
    StateM ω (Except Failure Handle × Pool capacity τ σ ω) := do
  let radio ← Radio.start settings period link
  return pool.insert radio

/-- Ask something of the radio a handle names. To name none is a mistake. -/
def perform [Transport τ ω] [Link σ ω] (pool : Pool capacity τ σ ω) (handle : Handle)
    (request : Radio.Request ω) : StateM ω (Except Failure Bool × Pool capacity τ σ ω) :=
  match pool.radio? handle with
  | none => pure (.error (.invalidHandle handle), pool)
  | some radio => do
    let (yield, radio) ← radio.perform request
    return (.ok yield, pool.update handle radio)

/-- A tick for the radio that a context names. A tick that comes for nobody
    asks for no yield. -/
def tick [Transport τ ω] [Link σ ω] (pool : Pool capacity τ σ ω) (context : UInt32) :
    StateM ω (Bool × Pool capacity τ σ ω) :=
  match pool.radio? ⟨context⟩ with
  | none => pure (false, pool)
  | some radio => do
    let (yield, radio) ← radio.tick
    return (yield, pool.update ⟨context⟩ radio)

theorem perform_of_radio?_eq_none [Transport τ ω] [Link σ ω] {pool : Pool capacity τ σ ω}
    {handle : Handle} (h : pool.radio? handle = none) (request : Radio.Request ω) :
    pool.perform handle request = pure (.error (.invalidHandle handle), pool) := by
  rw [perform, h]

theorem tick_of_radio?_eq_none [Transport τ ω] [Link σ ω] {pool : Pool capacity τ σ ω}
    {context : UInt32} (h : pool.radio? ⟨context⟩ = none) :
    pool.tick context = pure (false, pool) := by
  rw [tick, h]

end Pool

end PacketRadio
