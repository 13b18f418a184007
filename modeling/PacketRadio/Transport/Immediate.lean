import PacketRadio.Transport

/-!
# The immediate transport

The smallest transport there is: every packet is sent the moment it is given
back, nothing is acknowledged and nothing is sent twice.

What remains for it to do is to count. It lends at most a window of packets at
a time, where a window of zero is taken for one because a transport that never
lends could never send. It counts the packets the link took and those it
refused, in words that wrap. A packet that was refused is gone, and its lease
is over all the same.

Of the packets that come in it passes on the payload of data packets, and only
when there is any.

## Main definitions

* `Immediate`: The counts of the transport.
* `Immediate.window`: How many packets it lends at a time.
* `Immediate.lease`, `Immediate.transmit`, `Immediate.receive`: Its operations.

## Theorems

* `Immediate.one_le_window`: A window always has room for one packet.
* `Immediate.lease_of_lt_window`, `Immediate.lease_of_window_le`: When a packet
  is lent, and when none is.
* `Immediate.run_transmit`: Giving a packet back sends it once and ends its
  lease either way.
-/

namespace PacketRadio

/-- A transport that sends at once. -/
structure Immediate where
  terms : Terms
  -- Packets lent and not yet given back.
  leased : UInt8
  sent : UInt32
  failed : UInt32
deriving DecidableEq

namespace Immediate

/-- A transport that has not lent anything yet. -/
def ofTerms (terms : Terms) : Immediate := ⟨terms, 0, 0, 0⟩

/-- How many packets are lent at a time. -/
def window (transport : Immediate) : UInt8 :=
  if transport.terms.window = 0 then 1 else transport.terms.window

/-- Lend a blank packet, if the window has room for one more. -/
def lease (transport : Immediate) : Option Packet × Immediate :=
  if transport.leased < transport.window then
    (some Packet.blank, { transport with leased := transport.leased + 1 })
  else
    (none, transport)

/-- One lease less. A packet that was never lent ends no lease. -/
def endLease (transport : Immediate) : Immediate :=
  if transport.leased = 0 then transport else { transport with leased := transport.leased - 1 }

/-- One packet more that was sent, or that was not. -/
def record (transport : Immediate) (accepted : Bool) : Immediate :=
  if accepted then
    { transport with sent := transport.sent + 1 }
  else
    { transport with failed := transport.failed + 1 }

/-- Send a packet that is given back, and count how that went. -/
def transmit {ω : Type} (transport : Immediate) (packet : Packet) : Exchange ω Immediate := do
  let accepted ← Exchange.sendPacket packet
  -- The lease is over whether or not the link took the packet.
  return transport.endLease.record accepted

/-- Pass the payload of a data packet on, if there is one. -/
def receive {ω : Type} (transport : Immediate) (packet : Packet) : Exchange ω Immediate := do
  if packet.kind = .data && !packet.isEmpty then
    Exchange.acceptData packet.payload
  return transport

theorem one_le_window (transport : Immediate) : 1 ≤ transport.window.toNat := by
  unfold window
  split
  · exact Nat.le_refl 1
  · rename_i hzero
    exact Nat.one_le_iff_ne_zero.2 fun h => hzero (UInt8.toNat.inj h)

theorem lease_of_lt_window {transport : Immediate} (h : transport.leased < transport.window) :
    transport.lease = (some Packet.blank, { transport with leased := transport.leased + 1 }) := by
  rw [lease, if_pos h]

theorem lease_of_window_le {transport : Immediate} (h : transport.window ≤ transport.leased) :
    transport.lease = (none, transport) := by
  rw [lease, if_neg (UInt8.not_lt.2 h)]

theorem run_transmit {π ω : Type} (hooks : Hooks π ω) (transport : Immediate) (packet : Packet)
    (junction : π) :
    (transport.transmit packet).run hooks junction =
      (do
        let (accepted, junction) ← hooks.send junction packet
        pure (transport.endLease.record accepted, junction)) := rfl

/-- The immediate transport keeps to itself and works in any world. -/
instance {ω : Type} : Transport Immediate ω where
  start terms := pure (ofTerms terms)
  lease transport := pure transport.lease
  transmit := transmit
  receive := receive

end Immediate

end PacketRadio
