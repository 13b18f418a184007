import PacketRadio.Callback
import PacketRadio.Exchange
import PacketRadio.Link

/-!
# Junctions

A physical link together with the receiver of what comes in on it.

A junction is where a transport, a link and a receiver meet. The transport is
offered two hooks, which put the payload of a finished packet on the link and
route inbound bytes to the receiver. Apart from the transport, the tick moves
bytes: once a tick the junction drains at most one chunk from the link to the
receiver.

Without a receiver nothing is drained, so bytes that arrive early wait on the
link instead of being lost. An empty slice is never delivered. A receiver that
asks for a yield leaves that wish behind in the junction, where whoever called
the driver takes it out again.

A failure of the link goes no further than the junction. A failed poll is
dropped, and a failed send is told to the transport as a packet that was
refused.

## Main definitions

* `Junction`: A link, its receiver, and a pending wish to yield.
* `Junction.deliver`: Handing bytes to the receiver.
* `Junction.takeYield`: Taking out the wish to yield.
* `Junction.poll`, `Junction.drain`: The work of a tick.
* `Junction.sendPacket`, `Junction.acceptData`, `Junction.hooks`: What a transport is
  offered.

## Theorems

* `Junction.deliver_nil`, `Junction.deliver_of_receiver_eq_none`: Where nothing is
  delivered.
* `Junction.deliver_of_receiver_eq_some`: What a delivery is, where there is one.
* `Junction.drain_of_receiver_eq_none`: Without a receiver the link is not read.
-/

namespace PacketRadio

/-- A link with the receiver of what comes in on it. -/
structure Junction (σ ω : Type) where
  link : σ
  /-- Who takes received bytes, once somebody does. -/
  receiver : Option (Binding (Sink ω))
  -- Somebody asked for a yield and has not been answered.
  yieldPending : Bool

namespace Junction

variable {σ ω : Type}

/-- A junction without a receiver. -/
def ofLink (link : σ) : Junction σ ω := ⟨link, none, false⟩

/-- Bind the receiver, in place of the one before. -/
def bindReceiver (junction : Junction σ ω) (receiver : Binding (Sink ω)) : Junction σ ω :=
  { junction with receiver := some receiver }

/-- Hand bytes to the receiver. The answer is how many it took. -/
def deliver (junction : Junction σ ω) (data : List UInt8) : StateM ω (Nat × Junction σ ω) :=
  match junction.receiver with
  | none => pure (0, junction)
  | some receiver =>
    if data.isEmpty then
      pure (0, junction)
    else do
      let (taken, yieldPending) ← receiver.deliver data junction.yieldPending
      pure (taken, { junction with yieldPending })

/-- Take the wish to yield out of the junction. -/
def takeYield (junction : Junction σ ω) : Bool × Junction σ ω :=
  (junction.yieldPending, { junction with yieldPending := false })

/-- Let the link make progress, whether or not it succeeds. -/
def poll [Link σ ω] (junction : Junction σ ω) : StateM ω (Junction σ ω) := do
  let (_, link) ← Link.poll junction.link
  return { junction with link }

/-- The chunk a tick offers to the link. -/
def chunk : List UInt8 := List.replicate drainChunk 0

/-- Move one chunk from the link to the receiver, if there is one. The answer
    is the size of what was moved. -/
def drain [Link σ ω] (junction : Junction σ ω) : StateM ω (Nat × Junction σ ω) :=
  if junction.receiver.isNone then
    pure (0, junction)
  else do
    let (fill, link) ← Link.receive junction.link chunk
    -- A link may claim more than a chunk; it is not believed.
    let data := fill.claimed chunk
    let (_, junction) ← { junction with link }.deliver data
    return (data.length, junction)

/-- Put a packet's payload on the link, and tell whether the link took it. -/
def sendPacket [Link σ ω] (junction : Junction σ ω) (packet : Packet) :
    StateM ω (Bool × Junction σ ω) := do
  let (result, link) ← Link.send junction.link packet.payload
  return (result.toBool, { junction with link })

/-- Route inbound bytes to the receiver. -/
def acceptData (junction : Junction σ ω) (data : List UInt8) : StateM ω (Junction σ ω) := do
  let (_, junction) ← junction.deliver data
  return junction

/-- What a junction offers to a transport. The rate of its link is fixed. -/
def hooks [Link σ ω] : Hooks (Junction σ ω) ω where
  send := sendPacket
  accept := acceptData
  setBaud := none

theorem deliver_of_receiver_eq_none {junction : Junction σ ω} (h : junction.receiver = none)
    (data : List UInt8) : junction.deliver data = pure (0, junction) := by
  rw [deliver, h]

theorem deliver_nil (junction : Junction σ ω) : junction.deliver [] = pure (0, junction) := by
  rw [deliver]
  split <;> rfl

theorem deliver_of_receiver_eq_some {junction : Junction σ ω} {receiver : Binding (Sink ω)}
    (h : junction.receiver = some receiver) {data : List UInt8} (hdata : data ≠ []) :
    junction.deliver data = (do
      let (taken, yieldPending) ← receiver.deliver data junction.yieldPending
      pure (taken, { junction with yieldPending })) := by
  cases data with
  | nil => exact absurd rfl hdata
  | cons byte rest =>
      rw [deliver, h]
      rfl

theorem drain_of_receiver_eq_none [Link σ ω] {junction : Junction σ ω}
    (h : junction.receiver = none) : junction.drain = pure (0, junction) := by
  rw [drain, h]
  rfl

end Junction

end PacketRadio
