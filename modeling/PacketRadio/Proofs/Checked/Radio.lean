import PacketRadio.Radio
import PacketRadio.Transport.Immediate
import PacketRadio.Proofs.Checked.Packet

/-!
# Checked Radios

What a radio computes with, checked.

Where a radio takes a slice, adds or divides, the number it uses comes from
somebody else. A link says how many bytes it put into the chunk, a source how
many it put into the spare, the settings how long a packet may wait, and a timer
how long its ticks are. None of them is asked to be reasonable. Each program of
this module is the one of the same name with a check where it relies on a number,
and for each of them the checks change nothing: it is the `sound` program that has
none (`Radio.checkedTick_eq` and the others).

The reasons differ. A claim about the chunk is cut to the chunk before it is used
for a slice. The timeout is multiplied in words of 64 bits, which have room for
it. The quotient is narrowed only where it fits, and nothing is divided by a
period of zero because there is none. The immediate transport counts a lease only
below its window, and the window is a byte. What a transport does with the driver
is a tree of calls, so there the argument is an induction over the tree.

## Main definitions

* `Period.secondOver`, `Period.checkedOfHertz?`, `Settings.checkedFlushTicks`:
  Rates, lengths and timeouts.
* `Junction.checkedDrain`, `Junction.checkedSend`: Bytes in and out.
* `Exchange.checkedRun`: An exchange carried out on a junction.
* `Radio.checkedStart`, `Radio.checkedTransmitReady`, `Radio.checkedTick`,
  `Radio.checkedPerform`: The activities of a radio.
* `Immediate.checkedLease`, `Immediate.checkedReceive`: The immediate transport.

## Theorems

* `Settings.checkedFlushTicks_eq`: The timeout in ticks.
* `Junction.checkedDrain_eq`: A drain, whatever the link claims.
* `Exchange.checkedRun_eq`: Whatever a transport does.
* `Radio.checkedTransmitReady_eq`, `Radio.checkedTick_eq`, `Radio.checkedPerform_eq`:
  A radio gets to no fault.
* `Immediate.checkedLease_eq`, `Immediate.checkedReceive_eq`: Neither does the
  immediate transport.
-/

namespace PacketRadio

open Checked

variable {τ σ ω α : Type}

namespace Period

/-- A second divided by a number: the length of a rate and the rate of a length. -/
def secondOver (number : UInt32) : Except Fault UInt32 := do
  let quotient ← div microsPerSecond.toNat number.toNat
  return UInt32.ofNat quotient

/-- The length of the period of a given rate, if the rate has one. -/
def checkedOfHertz? (hertz : UInt32) : Except Fault (Option UInt32) :=
  if 0 < hertz ∧ hertz ≤ microsPerSecond then do
    let micros ← secondOver hertz
    return some micros
  else
    return none

theorem secondOver_of_pos {number : UInt32} (h : 0 < number) :
    secondOver number = .ok (microsPerSecond / number) := by
  have hdiv : div microsPerSecond.toNat number.toNat =
      .ok (microsPerSecond.toNat / number.toNat) :=
    require_of (UInt32.lt_iff_toNat_lt.1 h) _ _
  rw [secondOver, hdiv, ok_bind, ← UInt32.toNat_div]
  exact congrArg Except.ok UInt32.ofNat_toNat

theorem checkedOfHertz?_eq (hertz : UInt32) :
    checkedOfHertz? hertz = .ok ((ofHertz? hertz).map micros) := by
  rw [checkedOfHertz?, ofHertz?]
  split
  · rename_i h
    rw [secondOver_of_pos h.1]
    rfl
  · rfl

end Period

namespace Settings

/-- The timeout in ticks of a given length. -/
def checkedFlushTicks (settings : Settings) (micros : UInt32) : Except Fault UInt32 := do
  let timeout ← mul maxWide settings.sendTimeout.toNat 1000
  let ticks ← div timeout micros.toNat
  if ticks = 0 then
    return 1
  else if maxWord < ticks then
    return 0xffffffff
  else do
    let ticks ← narrow maxWord ticks
    return UInt32.ofNat ticks

/-- The longest timeout there is fits 64 bits in microseconds. -/
theorem mul_sendTimeout (settings : Settings) :
    mul maxWide settings.sendTimeout.toNat 1000 = .ok (settings.sendTimeout.toNat * 1000) := by
  have hlt := settings.sendTimeout.toNat_lt
  have hmax : maxWide = 0xffffffffffffffff := rfl
  exact require_of (by omega) _ _

theorem checkedFlushTicks_eq (settings : Settings) (period : Period) :
    settings.checkedFlushTicks period.micros = .ok (settings.flushTicks period) := by
  have hdiv : div (settings.sendTimeout.toNat * 1000) period.micros.toNat =
      .ok (settings.sendTimeout.toNat * 1000 / period.micros.toNat) :=
    require_of period.one_le_micros _ _
  have hticks : settings.flushTicks period = UInt32.ofNat
      (min (max 1 (settings.sendTimeout.toNat * 1000 / period.micros.toNat)) 0xffffffff) := by
    rw [← settings.toNat_flushTicks, UInt32.ofNat_toNat]
  rw [checkedFlushTicks, mul_sendTimeout, ok_bind, hdiv, ok_bind, hticks]
  generalize settings.sendTimeout.toNat * 1000 / period.micros.toNat = ticks
  have hmax : maxWord = 0xffffffff := rfl
  by_cases hzero : ticks = 0
  · rw [if_pos hzero, hzero]
    rfl
  · rw [if_neg hzero]
    by_cases hlarge : maxWord < ticks
    · have hcut : min (max 1 ticks) 0xffffffff = 0xffffffff := by omega
      rw [if_pos hlarge, hcut]
      rfl
    · -- Only here the quotient is narrowed, and here it fits.
      have hkeep : min (max 1 ticks) 0xffffffff = ticks := by omega
      have hfits : narrow maxWord ticks = .ok ticks := require_of (by omega) _ _
      rw [if_neg hlarge, hkeep, hfits]
      rfl

/-- The length of a period is all that the timeout may be divided by. -/
theorem isOk_checkedFlushTicks (settings : Settings) (micros : UInt32) :
    (settings.checkedFlushTicks micros).isOk = true ↔
      ∃ period : Period, period.micros = micros := by
  constructor
  · intro hok
    refine ⟨⟨micros, UInt32.pos_iff_ne_zero.2 fun hzero => ?_⟩, rfl⟩
    rw [hzero, checkedFlushTicks, mul_sendTimeout, ok_bind] at hok
    exact absurd hok Bool.false_ne_true
  · rintro ⟨period, rfl⟩
    rw [checkedFlushTicks_eq]
    rfl

end Settings

namespace Junction

variable [Link σ ω]

/-- Move one chunk from the link to the receiver. -/
def checkedDrain (junction : Junction σ ω) : Checked ω (Nat × Junction σ ω) :=
  if junction.receiver.isNone then
    pure (0, junction)
  else do
    let (fill, link) ← sound (Link.receive junction.link chunk)
    let data ← front (fill.contents chunk) (min fill.count drainChunk)
    let (_, junction) ← sound ({ junction with link }.deliver data)
    return (data.length, junction)

/-- Put a packet's payload on the link. -/
def checkedSend (junction : Junction σ ω) (packet : Packet) :
    Checked ω (Bool × Junction σ ω) := do
  let payload ← packet.raw.payload
  let (result, link) ← sound (Link.send junction.link payload)
  return (result.toBool, { junction with link })

omit [Link σ ω] in
theorem length_contents_chunk (fill : Fill) : (fill.contents chunk).length = drainChunk := by
  rw [Fill.contents, length_overlay, chunk, List.length_replicate]

omit [Link σ ω] in
/-- A claim that is cut to the chunk is a slice of it. -/
theorem front_contents_chunk (fill : Fill) :
    front (fill.contents chunk) (min fill.count drainChunk) = .ok (fill.claimed chunk) := by
  have hlen := length_contents_chunk fill
  have hfront : front (fill.contents chunk) (min fill.count drainChunk) =
      .ok ((fill.contents chunk).take (min fill.count drainChunk)) :=
    require_of (by omega) _ _
  rw [hfront, Fill.claimed, ← hlen, ← List.take_eq_take_min]

theorem checkedDrain_eq (junction : Junction σ ω) :
    junction.checkedDrain = sound junction.drain := by
  unfold checkedDrain drain
  split
  · rfl
  · refine bind_eq_sound rfl ?_
    rintro ⟨fill, link⟩
    show (liftM (front (fill.contents chunk) (min fill.count drainChunk)) >>= _) = _
    rw [front_contents_chunk, liftM_ok, pure_bind]
    rfl

theorem checkedSend_eq (junction : Junction σ ω) (packet : Packet) :
    junction.checkedSend packet = sound (junction.sendPacket packet) := by
  rw [checkedSend, packet.payload_raw, liftM_ok, pure_bind]
  rfl

end Junction

namespace Exchange

variable [Link σ ω]

/-- Carry an exchange out on a junction. -/
def checkedRun (exchange : Exchange ω α) (junction : Junction σ ω) :
    Checked ω (α × Junction σ ω) :=
  match exchange with
  | .done result => pure (result, junction)
  | .send packet next => do
    let (accepted, junction) ← junction.checkedSend packet
    (next accepted).checkedRun junction
  | .accept data next => do
    let junction ← sound (junction.acceptData data)
    next.checkedRun junction
  | .setBaud _ next => next.checkedRun junction
  | .look next => do
    let world ← get
    (next world).checkedRun junction
  | .put world next => do
    set world
    next.checkedRun junction

theorem checkedRun_eq (exchange : Exchange ω α) (junction : Junction σ ω) :
    exchange.checkedRun junction = sound (exchange.run Junction.hooks junction) := by
  induction exchange generalizing junction with
  | done result => rfl
  | send packet next ih =>
      refine bind_eq_sound (junction.checkedSend_eq packet) ?_
      rintro ⟨accepted, junction⟩
      exact ih accepted junction
  | accept data next ih => exact bind_eq_sound rfl ih
  | setBaud rate next ih => exact ih junction
  | look next ih =>
      funext world
      exact congrFun (ih world junction) world
  | put world next ih =>
      funext before
      exact congrFun (ih junction) world

end Exchange

namespace Radio

section

variable [Transport τ ω]

/-- Build a radio. -/
def checkedStart (settings : Settings) (period : Period) (link : σ) :
    Checked ω (Radio τ σ ω) := do
  let transport ← sound (Transport.start (terms settings))
  let ticks ← settings.checkedFlushTicks period.micros
  return {
    tag := liveTag
    settings
    countdown := Countdown.new ticks
    source := none
    junction := Junction.ofLink link
    transport
    inFlight := none }

theorem checkedStart_eq (settings : Settings) (period : Period) (link : σ) :
    (checkedStart settings period link : Checked ω (Radio τ σ ω)) =
      sound (start settings period link) := by
  refine bind_eq_sound rfl fun transport => ?_
  rw [settings.checkedFlushTicks_eq, liftM_ok, pure_bind]
  rfl

end

variable [Transport τ ω] [Link σ ω]

/-- Hand a packet to the transport. -/
def checkedHandOver (radio : Radio τ σ ω) (packet : Packet) : Checked ω (Radio τ σ ω) := do
  let (transport, junction) ←
    (Transport.transmit radio.transport packet).checkedRun radio.junction
  return { radio with transport, junction }

/-- Hand a packet over if it is due, and keep it in flight if it is not. -/
def checkedSettle (radio : Radio τ σ ω) (packet : Packet) : Checked ω (Radio τ σ ω) :=
  if isDue radio.settings packet then do
    let radio ← radio.checkedHandOver packet
    return { radio with countdown := radio.countdown.rearm }
  else
    pure { radio with inFlight := some packet }

/-- There is room to transmit: let the source fill a packet. -/
def checkedTransmitReady (radio : Radio τ σ ω) : Checked ω (Radio τ σ ω) :=
  match radio.source with
  | none => pure radio
  | some source => do
    let (packet, radio) ← sound radio.current
    match packet with
    | none => pure radio
    | some packet => do
      let spare ← packet.raw.spare
      let (fill, _) ← sound (source.pull spare false)
      let raw ← packet.raw.fill fill.written
      let (_, raw) ← raw.advance fill.count
      let packet ← raw.toPacket
      radio.checkedSettle packet

/-- Hand over the packet in flight, however small it is. -/
def checkedFlush (radio : Radio τ σ ω) : Checked ω (Radio τ σ ω) :=
  match radio.inFlight with
  | none => pure radio
  | some packet => { radio with inFlight := none }.checkedHandOver packet

/-- One tick. -/
def checkedTick (radio : Radio τ σ ω) : Checked ω (Bool × Radio τ σ ω) := do
  let junction ← sound radio.junction.poll
  let (_, junction) ← junction.checkedDrain
  let (yield, junction) := junction.takeYield
  let (expired, countdown) := radio.countdown.tick
  let radio := { radio with junction, countdown }
  if expired then
    let radio ← radio.checkedFlush
    return (yield, radio)
  else
    return (yield, radio)

/-- Show the transport a packet that came in. -/
def checkedInbound (radio : Radio τ σ ω) (packet : Packet) :
    Checked ω (Bool × Radio τ σ ω) := do
  let (transport, junction) ←
    (Transport.receive radio.transport packet).checkedRun radio.junction
  let (yield, junction) := junction.takeYield
  return (yield, { radio with transport, junction })

/-- Do what is asked. -/
def checkedPerform (radio : Radio τ σ ω) : Request ω → Checked ω (Bool × Radio τ σ ω)
  | .bindReceiver sink => pure (false, radio.bindReceiver sink)
  | .bindSource source => pure (false, radio.bindSource source)
  | .transmitReady _ => do
    let radio ← radio.checkedTransmitReady
    return (false, radio)
  | .receiveReady _ => pure (false, radio)
  | .setBaud _ => pure (false, radio)
  | .inbound packet => radio.checkedInbound packet

theorem checkedHandOver_eq (radio : Radio τ σ ω) (packet : Packet) :
    radio.checkedHandOver packet = sound (radio.handOver packet) :=
  bind_eq_sound (Exchange.checkedRun_eq _ _) fun _ => rfl

theorem checkedSettle_eq (radio : Radio τ σ ω) (packet : Packet) :
    radio.checkedSettle packet = sound (radio.settle packet) := by
  unfold checkedSettle settle
  split
  · exact bind_eq_sound (radio.checkedHandOver_eq packet) fun _ => rfl
  · rfl

/-- A source may claim what it likes about the spare. -/
theorem checkedTransmitReady_eq (radio : Radio τ σ ω) :
    radio.checkedTransmitReady = sound radio.transmitReady := by
  unfold checkedTransmitReady transmitReady
  cases radio.source with
  | none => rfl
  | some source =>
      refine bind_eq_sound rfl ?_
      rintro ⟨packet, radio⟩
      cases packet with
      | none => rfl
      | some packet =>
          show (liftM packet.raw.spare >>= _) = _
          rw [packet.spare_raw, liftM_ok, pure_bind]
          refine bind_eq_sound rfl ?_
          rintro ⟨fill, wish⟩
          show (liftM (packet.raw.fill fill.written) >>= _) = _
          rw [packet.fill_raw, liftM_ok, pure_bind, Packet.advance_raw, liftM_ok, pure_bind]
          show (liftM (packet.absorb fill).raw.toPacket >>= _) = _
          rw [Packet.toPacket_raw, liftM_ok, pure_bind]
          exact radio.checkedSettle_eq _

theorem checkedFlush_eq (radio : Radio τ σ ω) : radio.checkedFlush = sound radio.flush := by
  unfold checkedFlush flush
  cases radio.inFlight with
  | none => rfl
  | some packet => exact checkedHandOver_eq _ packet

/-- A link may claim what it likes about the chunk. -/
theorem checkedTick_eq (radio : Radio τ σ ω) : radio.checkedTick = sound radio.tick := by
  refine bind_eq_sound rfl fun polled => bind_eq_sound polled.checkedDrain_eq ?_
  rintro ⟨count, drained⟩
  rcases radio.countdown.tick with ⟨expired, countdown⟩
  cases expired with
  | false => rfl
  | true => exact bind_eq_sound (checkedFlush_eq _) fun _ => rfl

theorem checkedInbound_eq (radio : Radio τ σ ω) (packet : Packet) :
    radio.checkedInbound packet = sound (radio.inbound packet) :=
  bind_eq_sound (Exchange.checkedRun_eq _ _) fun _ => rfl

theorem checkedPerform_eq (radio : Radio τ σ ω) (request : Request ω) :
    radio.checkedPerform request = sound (radio.perform request) := by
  cases request with
  | bindReceiver sink => rfl
  | bindSource source => rfl
  | transmitReady available =>
      exact bind_eq_sound radio.checkedTransmitReady_eq fun _ => rfl
  | receiveReady available => rfl
  | setBaud rate => rfl
  | inbound packet => exact radio.checkedInbound_eq packet

end Radio

namespace Immediate

/-- Lend a blank packet, if the window has room for one more. -/
def checkedLease (transport : Immediate) : Except Fault (Option Packet × Immediate) :=
  if transport.leased < transport.window then do
    let leased ← add maxByte transport.leased.toNat 1
    return (some Packet.blank, { transport with leased := UInt8.ofNat leased })
  else
    return (none, transport)

/-- Pass the payload of a data packet on, if there is one. -/
def checkedReceive (transport : Immediate) (packet : Packet) :
    Except Fault (Exchange ω Immediate) :=
  if packet.kind = .data && !packet.isEmpty then do
    let payload ← packet.raw.payload
    return do
      Exchange.acceptData payload
      return transport
  else
    return return transport

/-- A count below the window is not the largest byte. -/
theorem checkedLease_eq (transport : Immediate) :
    transport.checkedLease = .ok transport.lease := by
  rw [checkedLease, lease]
  split
  · rename_i h
    have hlt := UInt8.lt_iff_toNat_lt.1 h
    have hwindow := transport.window.toNat_lt
    have hmax : maxByte = 0xff := rfl
    have hadd : add maxByte transport.leased.toNat 1 = .ok (transport.leased.toNat + 1) :=
      require_of (by omega) _ _
    have hword : UInt8.ofNat (transport.leased.toNat + 1) = transport.leased + 1 := by
      rw [UInt8.ofNat_add, UInt8.ofNat_toNat]
      rfl
    rw [hadd, ok_bind, hword]
    rfl
  · rfl

theorem checkedReceive_eq (transport : Immediate) (packet : Packet) :
    (transport.checkedReceive packet : Except Fault (Exchange ω Immediate)) =
      .ok (transport.receive packet) := by
  unfold checkedReceive receive
  split
  · rename_i h
    rw [packet.payload_raw, ok_bind]
    rfl
  · rfl

end Immediate

end PacketRadio
