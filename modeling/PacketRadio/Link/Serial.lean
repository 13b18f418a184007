import PacketRadio.Limits
import PacketRadio.Link
import PacketRadio.RingBuffer

/-!
# Serial links

A link over a byte channel that may be slow.

A byte channel takes as many bytes as it has room for, which may be none. A
payload is therefore first copied into a backlog of one payload's length, and
the backlog is pumped out while the channel says that it is ready. Nothing
here waits for room: what the channel does not take stays in the backlog for
the next poll, and until the backlog is empty a new payload is refused as
`busy`.

One pump goes round until the backlog is empty or the channel is not ready,
takes nothing, or faults. Each further round has taken at least one byte out
of the backlog, and that is why it ends, whatever the channel answers: one
that claims to have taken more than it was offered only empties the backlog
sooner.

The two pumps of a `send` differ in what a fault leaves behind. Before the new
payload is queued the backlog belongs to an earlier one, which was accepted
and must stay. Afterwards it belongs to the payload that is about to be
reported as failed, and is thrown away.

## Main definitions

* `Channel`: A byte channel, as its readiness and its transfers.
* `SerialLink`: A channel with a backlog.
* `SerialLink.pump`: Writing the backlog while there is room.
* `SerialLink.send`, `SerialLink.receive`, `SerialLink.poll`: The link.

## Theorems

* `SerialLink.pump_of_isEmpty`: An empty backlog leaves the channel alone.
-/

namespace PacketRadio

/-- A byte channel. Every answer may be a fault, which is `none`. -/
class Channel (κ ω : Type) where
  writeReady : κ → StateM ω (Option Bool × κ)
  -- Offer bytes; the answer is how many were taken.
  write : κ → List UInt8 → StateM ω (Option Nat × κ)
  readReady : κ → StateM ω (Option Bool × κ)
  /-- Offer a buffer for received bytes. -/
  read : κ → List UInt8 → StateM ω (Option Fill × κ)

/-- A channel together with the bytes it still has to be given. -/
structure SerialLink (κ : Type) where
  channel : κ
  -- Bytes accepted but not yet written.
  backlog : RingBuffer UInt8 maxPayload

namespace SerialLink

variable {κ ω : Type}

/-- A link that owes its channel nothing. -/
def ofChannel (channel : κ) : SerialLink κ :=
  ⟨channel, RingBuffer.empty maxPayload_pos⟩

/-- Taking something out of a backlog that holds something makes it smaller. -/
theorem size_drop_lt {backlog : RingBuffer UInt8 maxPayload} (h : ¬ backlog.isEmpty = true)
    (count : Nat) : (backlog.drop (count + 1)).size < backlog.size := by
  have hsize := RingBuffer.size_pos h
  show backlog.size - (count + 1) < backlog.size
  omega

/-- Write a backlog to a channel, round by round, while the channel has room.
    Each round offers what lies in one piece. -/
def pumpOut [Channel κ ω] (channel : κ) (backlog : RingBuffer UInt8 maxPayload) :
    StateM ω (Except LinkError Unit × SerialLink κ) :=
  if _h : backlog.isEmpty = true then
    pure (.ok (), ⟨channel, backlog⟩)
  else do
    let (ready, channel) ← Channel.writeReady channel
    match ready with
    | none => pure (.error .io, ⟨channel, backlog⟩)
    | some false => pure (.ok (), ⟨channel, backlog⟩)
    | some true => do
      let (taken, channel) ← Channel.write channel backlog.front
      match taken with
      | none => pure (.error .io, ⟨channel, backlog⟩)
      -- Ready but taking nothing: going on might never end.
      | some 0 => pure (.ok (), ⟨channel, backlog⟩)
      | some (count + 1) => pumpOut channel (backlog.drop (count + 1))
termination_by backlog.size
decreasing_by exact size_drop_lt _h count

/-- Write the backlog while the channel has room. -/
def pump [Channel κ ω] (link : SerialLink κ) :
    StateM ω (Except LinkError Unit × SerialLink κ) :=
  pumpOut link.channel link.backlog

/-- A payload can be queued: nothing waits before it, and it fits. -/
def accepts (link : SerialLink κ) (data : List UInt8) : Bool :=
  link.backlog.isEmpty && data.length ≤ maxPayload

/-- The link with a payload queued behind what already waits. -/
def queue (link : SerialLink κ) (data : List UInt8) : SerialLink κ :=
  { link with backlog := link.backlog.pushAll data }

/-- The link without anything waiting. -/
def discard (link : SerialLink κ) : SerialLink κ :=
  { link with backlog := link.backlog.clear }

/-- Send a payload: push out what waits, queue the payload if that left room,
    and push it out as far as the channel takes it. -/
def send [Channel κ ω] (link : SerialLink κ) (data : List UInt8) :
    StateM ω (Except LinkError Unit × SerialLink κ) := do
  let (earlier, link) ← link.pump
  match earlier with
  -- What waits belongs to a payload that was accepted, and is kept.
  | .error error => pure (.error error, link)
  | .ok () =>
    if link.accepts data then
      let (result, link) ← (link.queue data).pump
      match result with
      -- What waits belongs to the payload that fails here, and goes.
      | .error error => pure (.error error, link.discard)
      | .ok () => pure (.ok (), link)
    else
      pure (.error .busy, link)

/-- Hand over received bytes, if the channel has any. A fault gives none. -/
def receive [Channel κ ω] (link : SerialLink κ) (buffer : List UInt8) :
    StateM ω (Fill × SerialLink κ) := do
  let (ready, channel) ← Channel.readReady link.channel
  match ready with
  | some true => do
    let (fill, channel) ← Channel.read channel buffer
    -- A fault in the read counts as nothing received.
    pure (fill.getD Fill.nothing, { link with channel })
  | _ => pure (Fill.nothing, { link with channel })

/-- Make progress with the backlog. -/
def poll [Channel κ ω] (link : SerialLink κ) :
    StateM ω (Except LinkError Unit × SerialLink κ) :=
  link.pump

/-- A serial link is a link. -/
instance [Channel κ ω] : Link (SerialLink κ) ω where
  send := send
  receive := receive
  poll := poll

theorem pump_of_isEmpty [Channel κ ω] (link : SerialLink κ) (h : link.backlog.isEmpty = true) :
    link.pump = (pure (.ok (), link) : StateM ω (Except LinkError Unit × SerialLink κ)) := by
  rw [pump, pumpOut, dif_pos h]

end SerialLink

end PacketRadio
