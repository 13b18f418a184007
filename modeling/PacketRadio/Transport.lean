import PacketRadio.Exchange

/-!
# Packet transports

The layer that owns framing, windowing and retransmission, seen from the
driver.

The driver borrows packets from a transport. It asks for one with `lease`,
which may be refused while too many are outstanding, fills it, and gives it
back for good with `transmit`. Packets that come in from the link are shown
to the transport with `receive`, and a transport that has no use for them may
leave that out. In `transmit` and `receive` the transport may call the hooks
it is offered; a lease is a matter between the driver and the transport alone.

A transport is built once for each radio, from the `Terms` it is to keep.

## Main definitions

* `Terms`: What a transport is built from.
* `Transport`: The operations of a transport.
-/

namespace PacketRadio

/-- What a transport is told when it is built. -/
structure Terms where
  /-- How many packets may be outstanding at once. -/
  window : UInt8
  /-- How many peers it may be connected to. -/
  maxConnections : UInt8
  id : UInt32
  canSetBaud : Bool
deriving DecidableEq

/-- A packet transport with state `τ` in a world `ω`. -/
class Transport (τ ω : Type) where
  start : Terms → StateM ω τ
  /-- Lend a packet to send, unless too many are outstanding. -/
  lease : τ → StateM ω (Option Packet × τ)
  /-- Take a lent packet back and see to it that it is sent. -/
  transmit : τ → Packet → Exchange ω τ
  /-- Look at a packet that came in. -/
  receive : τ → Packet → Exchange ω τ := fun transport _ => pure transport

end PacketRadio
