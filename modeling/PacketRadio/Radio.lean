import PacketRadio.Countdown
import PacketRadio.Junction
import PacketRadio.Settings
import PacketRadio.Transport

/-!
# Radios

One radio: everything it owns, and the two activities that move data through
it.

The first activity assembles packets. Whenever there is room to transmit, the
radio lets the bound source fill the spare of one packet, the packet in
flight. If there is none it leases one from the transport and starts it over,
so that nothing of what the transport left in it is seen. A packet that has
reached the size wanted by the settings, or is full, is handed to the
transport at once; a smaller one stays in flight.

The second activity is the tick. It lets the link make progress, drains one
chunk of received bytes, and counts. When the countdown expires the packet in
flight is handed over as it is. The countdown is armed again by that tick, and
it is armed as well whenever a packet leaves by its size, so a partial packet
is never held for longer than the settings say.

A wish to yield is answered by the tick and by the arrival of a packet. In a
tick it is taken after the drain and before the forced flush, so a wish that
comes up during a flush is answered the next time.

## Main definitions

* `Radio`: The state of a radio.
* `Radio.start`: Building a radio.
* `Radio.current`: The packet to be filled.
* `Radio.handOver`, `Radio.settle`, `Radio.flush`: Packets that leave or stay.
* `Radio.transmitReady`, `Radio.tick`, `Radio.inbound`: The activities.
* `Radio.Request`, `Radio.perform`: What is asked of a radio from outside.
-/

namespace PacketRadio

/-- The state of a radio with a transport `τ` and a link `σ`. -/
structure Radio (τ σ ω : Type) where
  /-- The word that marks a radio as usable. -/
  tag : UInt32
  settings : Settings
  /-- Ticks until the packet in flight is forced out. -/
  countdown : Countdown
  /-- Who supplies bytes to send, once somebody does. -/
  source : Option (Binding (Source ω))
  junction : Junction σ ω
  transport : τ
  -- The packet that waits for more bytes or for the deadline.
  inFlight : Option Packet

namespace Radio

variable {τ σ ω : Type}

/-- What a radio tells its transport. The rate of its link is fixed. -/
def terms (settings : Settings) : Terms :=
  ⟨settings.window, settings.maxConnections, settings.id, false⟩

/-- Build a radio, and its transport with it. The countdown is armed for the
    period of the timer that will drive the radio. -/
def start [Transport τ ω] (settings : Settings) (period : Period) (link : σ) :
    StateM ω (Radio τ σ ω) := do
  let transport ← Transport.start (terms settings)
  return {
    tag := liveTag
    settings
    countdown := Countdown.new (settings.flushTicks period)
    source := none
    junction := Junction.ofLink link
    transport
    inFlight := none }

/-- The radio carries the tag of a usable one. -/
def isLive (radio : Radio τ σ ω) : Bool := radio.tag = liveTag

/-- The number of bytes waiting in the packet in flight. -/
def pendingLength (radio : Radio τ σ ω) : Nat :=
  match radio.inFlight with
  | none => 0
  | some packet => packet.length

/-- Bind the sink of received bytes, in place of the one before. -/
def bindReceiver (radio : Radio τ σ ω) (sink : Binding (Sink ω)) : Radio τ σ ω :=
  { radio with junction := radio.junction.bindReceiver sink }

/-- Bind the source of bytes to send, in place of the one before. -/
def bindSource (radio : Radio τ σ ω) (source : Binding (Source ω)) : Radio τ σ ω :=
  { radio with source := some source }

/-- Hand a packet to the transport. -/
def handOver [Transport τ ω] [Link σ ω] (radio : Radio τ σ ω) (packet : Packet) :
    StateM ω (Radio τ σ ω) := do
  let (transport, junction) ←
    (Transport.transmit radio.transport packet).run Junction.hooks radio.junction
  return { radio with transport, junction }

/-- The packet to be filled: the one in flight, or else a leased one that is
    started over. It is taken out of the radio; there is none if the transport
    refuses the lease. -/
def current [Transport τ ω] (radio : Radio τ σ ω) : StateM ω (Option Packet × Radio τ σ ω) :=
  match radio.inFlight with
  | some packet => pure (some packet, { radio with inFlight := none })
  | none => do
    let (leased, transport) ← Transport.lease radio.transport
    -- Nothing of what the transport left in the packet is declared.
    return (leased.map fun packet => packet.reset .data, { radio with transport })

/-- The packet is large enough to leave at once. -/
def isDue (settings : Settings) (packet : Packet) : Bool :=
  settings.minPacketSize.toNat ≤ packet.length || packet.isFull

/-- Hand a packet over if it is due, and start counting anew. Keep it in
    flight if it is not. -/
def settle [Transport τ ω] [Link σ ω] (radio : Radio τ σ ω) (packet : Packet) :
    StateM ω (Radio τ σ ω) :=
  if isDue radio.settings packet then do
    let radio ← radio.handOver packet
    -- The next packet gets its full time.
    return { radio with countdown := radio.countdown.rearm }
  else
    pure { radio with inFlight := some packet }

/-- There is room to transmit: let the source fill a packet. What the source
    says about a yield is of no use here and is dropped. -/
def transmitReady [Transport τ ω] [Link σ ω] (radio : Radio τ σ ω) :
    StateM ω (Radio τ σ ω) :=
  match radio.source with
  | none => pure radio
  | some source => do
    let (packet, radio) ← radio.current
    match packet with
    | none => pure radio
    | some packet => do
      -- The whole spare is offered, however little room was announced.
      let (fill, _) ← source.pull packet.spare false
      radio.settle (packet.absorb fill)

/-- Hand over the packet in flight, however small it is. -/
def flush [Transport τ ω] [Link σ ω] (radio : Radio τ σ ω) : StateM ω (Radio τ σ ω) :=
  match radio.inFlight with
  | none => pure radio
  | some packet => { radio with inFlight := none }.handOver packet

/-- One tick. The answer is whether a yield was asked for. -/
def tick [Transport τ ω] [Link σ ω] (radio : Radio τ σ ω) : StateM ω (Bool × Radio τ σ ω) := do
  let junction ← radio.junction.poll
  let (_, junction) ← junction.drain
  -- The wish is taken here, so one that comes up in the flush waits.
  let (yield, junction) := junction.takeYield
  let (expired, countdown) := radio.countdown.tick
  let radio := { radio with junction, countdown }
  if expired then
    -- The deadline takes whatever is in flight, even a short packet.
    let radio ← radio.flush
    return (yield, radio)
  else
    return (yield, radio)

/-- Show the transport a packet that came in. The answer is whether a yield
    was asked for. -/
def inbound [Transport τ ω] [Link σ ω] (radio : Radio τ σ ω) (packet : Packet) :
    StateM ω (Bool × Radio τ σ ω) := do
  let (transport, junction) ←
    (Transport.receive radio.transport packet).run Junction.hooks radio.junction
  let (yield, junction) := junction.takeYield
  return (yield, { radio with transport, junction })

/-- What is asked of a radio through its handle. -/
inductive Request (ω : Type) where
  /-- Deliver received bytes to this sink from now on. -/
  | bindReceiver (sink : Binding (Sink ω))
  /-- Pull bytes to send from this source from now on. -/
  | bindSource (source : Binding (Source ω))
  /-- There is room to transmit this many bytes. -/
  | transmitReady (available : UInt16)
  /-- There is room to receive this many bytes. -/
  | receiveReady (available : UInt16)
  | setBaud (rate : UInt32)
  | inbound (packet : Packet)

/-- Do what is asked. The answer is whether a yield was asked for, which only
    an inbound packet can bring about.

    How much room there is does not matter: a packet is filled whenever there
    is any, and received bytes move on ticks. The rate of a radio is part of
    its settings, so a change of it is accepted and ignored. -/
def perform [Transport τ ω] [Link σ ω] (radio : Radio τ σ ω) :
    Request ω → StateM ω (Bool × Radio τ σ ω)
  | .bindReceiver sink => pure (false, radio.bindReceiver sink)
  | .bindSource source => pure (false, radio.bindSource source)
  | .transmitReady _ => do
    let radio ← radio.transmitReady
    return (false, radio)
  | .receiveReady _ => pure (false, radio)
  | .setBaud _ => pure (false, radio)
  | .inbound packet => radio.inbound packet

end Radio

end PacketRadio
