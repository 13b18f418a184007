import PacketRadio.Proofs.Checked.Radio
import PacketRadio.Proofs.Journal

/-!
# Checked Stations

A station carries out any history of commands without a fault.

A station adds two places to those of its radios. The pool counts the slots it has
filled, and it looks up the slot of a handle a second time once the handle was
found to name a radio. The count grows only while a slot is free, so it never
exceeds the number of slots, which is a word. The second look finds the slot that
the first one found.

Nothing is assumed about where the station comes from or what its surroundings do.
The equation holds for every station, in whatever world, with whatever transports,
links, sources, sinks and other subscribers, under handles that name a radio and
under handles that do not. A history that ends in failures, because the pool is
used up or a handle names nothing, has answers like any other, since a refusal is
an answer and not a fault.

## Main definitions

* `Pool.checkedRadio?`, `Pool.checkedInsert`, `Pool.checkedPerform`,
  `Pool.checkedTick`: Slots and the radios in them.
* `Station.checkedExecute`, `Station.checkedRun`: Commands, one and many.

## Theorems

* `Pool.checkedRadio?_eq`: The radio that a handle names.
* `Station.fire_eq_sound`: Firing a table, subscriber by subscriber.
* `Station.checkedExecute_eq`: A command gets to no fault.
* `Station.faultless`: Neither does a history, and where the bounds are.
-/

namespace PacketRadio

open Checked

variable {tables capacity : Nat} {τ σ ω : Type}

namespace Pool

/-- The radio a handle names. A handle that was found to name one has its slot
    looked up again. -/
def checkedRadio? (pool : Pool capacity τ σ ω) (handle : Handle) :
    Except Fault (Option (Radio τ σ ω)) :=
  if pool.validates handle then entry pool.slots handle.index else return none

/-- Put a radio into the next slot, if there is one, and count it. -/
def checkedInsert (pool : Pool capacity τ σ ω) (radio : Radio τ σ ω) :
    Except Fault (Except Failure Handle × Pool capacity τ σ ω) :=
  if h : pool.allocated < capacity then do
    -- The number of slots is a word, and the count stays within it.
    let allocated ← add capacity pool.allocated 1
    return (.ok (Handle.ofIndex pool.allocated),
      ⟨pool.slots.set pool.allocated (some radio) h, allocated⟩)
  else
    return (.error .outOfDevices, pool)

theorem checkedRadio?_eq (pool : Pool capacity τ σ ω) (handle : Handle) :
    pool.checkedRadio? handle = .ok (pool.radio? handle) := by
  rw [checkedRadio?, validates]
  cases hradio : pool.radio? handle with
  | none => rfl
  | some radio =>
      have hslot := (radio?_eq_some_iff.1 hradio).1
      rw [slot?, Option.join_eq_some_iff] at hslot
      exact entry_of_getElem? hslot

theorem checkedInsert_eq (pool : Pool capacity τ σ ω) (radio : Radio τ σ ω) :
    pool.checkedInsert radio = .ok (pool.insert radio) := by
  unfold checkedInsert insert
  split
  · rename_i h
    have hadd : add capacity pool.allocated 1 = .ok (pool.allocated + 1) := require_of h _ _
    rw [hadd]
    rfl
  · rfl

variable [Transport τ ω]

/-- Build a radio into the next slot, if there is one. -/
def checkedAllocate (pool : Pool capacity τ σ ω) (settings : Settings) (period : Period)
    (link : σ) : Checked ω (Except Failure Handle × Pool capacity τ σ ω) := do
  let radio ← Radio.checkedStart settings period link
  pool.checkedInsert radio

theorem checkedAllocate_eq (pool : Pool capacity τ σ ω) (settings : Settings) (period : Period)
    (link : σ) :
    pool.checkedAllocate settings period link = sound (pool.allocate settings period link) := by
  refine bind_eq_sound (Radio.checkedStart_eq settings period link) fun radio => ?_
  rw [checkedInsert_eq, liftM_ok]
  rfl

variable [Link σ ω]

/-- Ask something of the radio a handle names. -/
def checkedPerform (pool : Pool capacity τ σ ω) (handle : Handle) (request : Radio.Request ω) :
    Checked ω (Except Failure Bool × Pool capacity τ σ ω) := do
  match ← pool.checkedRadio? handle with
  | none => return (.error (.invalidHandle handle), pool)
  | some radio =>
    let (yield, radio) ← radio.checkedPerform request
    return (.ok yield, pool.update handle radio)

/-- A tick for the radio that a context names. -/
def checkedTick (pool : Pool capacity τ σ ω) (context : UInt32) :
    Checked ω (Bool × Pool capacity τ σ ω) := do
  match ← pool.checkedRadio? ⟨context⟩ with
  | none => return (false, pool)
  | some radio =>
    let (yield, radio) ← radio.checkedTick
    return (yield, pool.update ⟨context⟩ radio)

theorem checkedPerform_eq (pool : Pool capacity τ σ ω) (handle : Handle)
    (request : Radio.Request ω) :
    pool.checkedPerform handle request = sound (pool.perform handle request) := by
  rw [checkedPerform, checkedRadio?_eq, liftM_ok, pure_bind, perform]
  cases pool.radio? handle with
  | none => rfl
  | some radio => exact bind_eq_sound (radio.checkedPerform_eq request) fun _ => rfl

theorem checkedTick_eq (pool : Pool capacity τ σ ω) (context : UInt32) :
    pool.checkedTick context = sound (pool.tick context) := by
  rw [checkedTick, checkedRadio?_eq, liftM_ok, pure_bind, tick]
  cases pool.radio? ⟨context⟩ with
  | none => rfl
  | some radio => exact bind_eq_sound radio.checkedTick_eq fun _ => rfl

end Pool

namespace Station

variable [Transport τ ω]

/-- Start a radio on a timer. -/
def checkedStart (station : Station tables capacity τ σ ω) (timer : Fin tables)
    (settings : Settings) (link : σ) :
    Checked ω (Except Failure Handle × Station tables capacity τ σ ω) := do
  let (allocated, pool) ←
    station.pool.checkedAllocate settings (station.table timer).period link
  let station := { station with pool }
  match allocated with
  | .error failure => return (.error failure, station)
  | .ok handle =>
    match station.subscribe timer .pool handle.raw with
    | .error _ => return (.error (.subscriptionRefused handle), station)
    | .ok station => return (.ok handle, station)

theorem checkedStart_eq (station : Station tables capacity τ σ ω) (timer : Fin tables)
    (settings : Settings) (link : σ) :
    station.checkedStart timer settings link = sound (station.start timer settings link) := by
  refine bind_eq_sound (station.pool.checkedAllocate_eq _ _ _) ?_
  rintro ⟨allocated, pool⟩
  cases allocated with
  | error failure => rfl
  | ok handle =>
      dsimp only
      cases ({ station with pool } : Station tables capacity τ σ ω).subscribe timer .pool
          handle.raw with
      | error failure => rfl
      | ok station => rfl

variable [Link σ ω]

/-- Tell one subscriber about a tick. -/
def checkedNotify (subscriber : Subscriber ω) (context : UInt32) :
    StateT (Pool capacity τ σ ω) (Checked ω) Bool :=
  match subscriber with
  | .pool => fun pool => pool.checkedTick context
  | .other handler => StateT.lift (sound (handler context))

/-- One tick of a timer. -/
def checkedFire (station : Station tables capacity τ σ ω) (timer : Fin tables) :
    Checked ω (Bool × Station tables capacity τ σ ω) := do
  let (yield, pool) ← ((station.table timer).fire checkedNotify).run station.pool
  return (yield, { station with pool })

/-- Carry out one command. -/
def checkedExecute (station : Station tables capacity τ σ ω) :
    Command tables σ ω → Checked ω (Except Failure Reply × Station tables capacity τ σ ω)
  | .start timer settings link => do
    let (handle, station) ← station.checkedStart timer settings link
    return (handle.map .started, station)
  | .request handle request => do
    let (yield, pool) ← station.pool.checkedPerform handle request
    return (yield.map .yield, { station with pool })
  | .tick context => do
    let (yield, pool) ← station.pool.checkedTick context
    return (.ok (.yield yield), { station with pool })
  | .subscribe timer subscriber context =>
    match station.subscribe timer subscriber context with
    | .error failure => pure (.error failure, station)
    | .ok station => pure (.ok .subscribed, station)
  | .fire timer => do
    let (yield, station) ← station.checkedFire timer
    return (.ok (.yield yield), station)

/-- Carry out commands one after another. -/
def checkedRun (station : Station tables capacity τ σ ω) :
    List (Command tables σ ω) →
      Checked ω (List (Except Failure Reply) × Station tables capacity τ σ ω)
  | [] => pure ([], station)
  | command :: rest => do
    let (answer, station) ← station.checkedExecute command
    let (answers, station) ← station.checkedRun rest
    return (answer :: answers, station)

theorem checkedNotify_eq (subscriber : Subscriber ω) (context : UInt32)
    (pool : Pool capacity τ σ ω) :
    checkedNotify subscriber context pool = sound (notify subscriber context pool) := by
  cases subscriber with
  | pool => exact pool.checkedTick_eq context
  | other handler => rfl

/-- A table is fired one subscriber after another, each on the pool that the one
    before has left. -/
theorem fire_eq_sound (table : TickTable (Subscriber ω)) (pool : Pool capacity τ σ ω) :
    (table.fire checkedNotify).run pool = sound ((table.fire notify).run pool) := by
  unfold TickTable.fire
  generalize false = yield
  induction table.subscriptions generalizing yield pool with
  | nil => rfl
  | cons subscription rest ih =>
      have hnotify := checkedNotify_eq subscription.handler subscription.context pool
      have hstep : (checkedNotify subscription.handler subscription.context pool >>=
          fun wish => pure (yield || wish.1, wish.2)) =
            sound (notify subscription.handler subscription.context pool >>=
              fun wish => pure (yield || wish.1, wish.2)) :=
        bind_eq_sound hnotify fun _ => rfl
      rw [List.foldlM_cons, List.foldlM_cons]
      exact bind_eq_sound hstep fun joined => ih joined.2 joined.1

theorem checkedFire_eq (station : Station tables capacity τ σ ω) (timer : Fin tables) :
    station.checkedFire timer = sound (station.fire timer) :=
  bind_eq_sound (fire_eq_sound _ _) fun _ => rfl

theorem checkedExecute_eq (station : Station tables capacity τ σ ω)
    (command : Command tables σ ω) :
    station.checkedExecute command = sound (station.execute command) := by
  cases command with
  | start timer settings link =>
      exact bind_eq_sound (station.checkedStart_eq timer settings link) fun _ => rfl
  | request handle request =>
      exact bind_eq_sound (station.pool.checkedPerform_eq handle request) fun _ => rfl
  | tick context => exact bind_eq_sound (station.pool.checkedTick_eq context) fun _ => rfl
  | subscribe timer subscriber context =>
      simp only [checkedExecute, execute]
      cases station.subscribe timer subscriber context with
      | error failure => rfl
      | ok station => rfl
  | fire timer => exact bind_eq_sound (station.checkedFire_eq timer) fun _ => rfl

theorem checkedRun_eq (station : Station tables capacity τ σ ω)
    (commands : List (Command tables σ ω)) :
    station.checkedRun commands = sound (station.run commands) := by
  induction commands generalizing station with
  | nil => rfl
  | cons command rest ih =>
      refine bind_eq_sound (station.checkedExecute_eq command) ?_
      rintro ⟨answer, station⟩
      exact bind_eq_sound (ih station) fun _ => rfl

/-- No history of a station gets to a fault, whatever its surroundings do. With
    all checks in place it runs as it does without any.

    What the surroundings bring along is no exception. Packets that come from the
    operations on packets are the packets a transport may lend, and every
    operation on them has an answer, while a packet that declared more than 248
    bytes could not even be looked at. Every period, however it was come by, has
    its rate and its ticks, which a length of zero would not have. The immediate
    transport counts its leases and passes payloads on without a fault, in
    whatever state it is. -/
theorem faultless (station : Station tables capacity τ σ ω)
    (commands : List (Command tables σ ω)) :
    station.checkedRun commands = sound (station.run commands) ∧
      (∀ (pool : Pool capacity τ σ ω) (handle : Handle),
        pool.checkedRadio? handle = .ok (pool.radio? handle)) ∧
      (∀ (transport : Immediate) (packet : Packet),
        transport.checkedLease = .ok transport.lease ∧
          (transport.checkedReceive packet : Except Fault (Exchange ω Immediate)) =
            .ok (transport.receive packet)) ∧
      -- A slice of the chunk has at most 16 bytes.
      (∀ (fill : Fill) (count : Nat),
        (front (fill.contents Junction.chunk) count).isOk = true ↔ count ≤ 16) ∧
      -- A packet that is looked at declares at most 248 bytes.
      (∀ raw : RawPacket,
        (raw.payload.isOk = true ↔ raw.length ≤ 248) ∧
          (raw.spare.isOk = true ↔ raw.length ≤ 248) ∧
            (raw.remaining.isOk = true ↔ raw.length ≤ 248)) ∧
      (∀ raw : RawPacket, raw.Built ↔ ∃ packet : Packet, packet.raw = raw) ∧
      (∀ packet : Packet, packet.Unfailing) ∧
      (∀ (kind : Packet.Kind) (bytes : List UInt8),
        RawPacket.ofPayload kind bytes = .ok (Packet.ofPayload kind bytes).raw) ∧
      -- Nothing is divided by zero, since there is no such period.
      (∀ (settings : Settings) (micros : UInt32),
        (settings.checkedFlushTicks micros).isOk = true ↔
          ∃ period : Period, period.micros = micros) ∧
      (∀ (settings : Settings) (period : Period),
        settings.checkedFlushTicks period.micros = .ok (settings.flushTicks period)) ∧
      (∀ hertz : UInt32,
        Period.checkedOfHertz? hertz = .ok ((Period.ofHertz? hertz).map Period.micros)) ∧
      ∀ period : Period, Period.secondOver period.micros = .ok period.hertz := by
  refine ⟨station.checkedRun_eq commands, Pool.checkedRadio?_eq,
    fun transport packet => ⟨transport.checkedLease_eq, transport.checkedReceive_eq packet⟩,
    fun fill count => ?_,
    fun raw => ⟨raw.isOk_payload, raw.isOk_spare, raw.isOk_remaining⟩,
    RawPacket.built_iff, Packet.unfailing, Packet.ofPayload_raw,
    Settings.isOk_checkedFlushTicks, Settings.checkedFlushTicks_eq, Period.checkedOfHertz?_eq,
    fun period => Period.secondOver_of_pos period.micros_pos⟩
  rw [isOk_front, Junction.length_contents_chunk]

end Station

end PacketRadio
