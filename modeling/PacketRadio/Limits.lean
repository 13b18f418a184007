/-!
# Limits

The fixed sizes of the driver and the values a radio is configured with when
nothing else is said.

A packet travels in a frame of `maxFrame` bytes of which the transport keeps
`headerLength` for itself, so a payload has at most `maxPayload` bytes. That
number is below 256, which is why a header can declare a payload's length in
one byte.

## Main definitions

* `maxPayload`: The largest payload of a packet.
* `drainChunk`: How many received bytes one tick moves at most.
* `liveTag`: The word that marks a slot of the pool as holding a radio.

## Theorems

* `maxPayload_eq`, `maxPayload_pos`: The largest payload is 248 bytes, so it
  is not empty.
-/

namespace PacketRadio

/-- The number of radios a pool holds unless it is given another capacity. -/
def defaultCapacity : Nat := 2

/-- The word a radio carries from its birth on. A slot whose radio carries
    any other word holds nothing that may be used. -/
def liveTag : UInt32 := 0x68e971b6

/-- The number of received bytes one tick moves at most. -/
abbrev drainChunk : Nat := 16

/-- The largest frame on the air, header included. -/
abbrev maxFrame : Nat := 255

/-- The bytes of a frame that the transport keeps for itself. -/
abbrev headerLength : Nat := 7

/-- The largest payload of a packet. -/
abbrev maxPayload : Nat := maxFrame - headerLength

theorem maxPayload_eq : maxPayload = 248 := rfl

theorem maxPayload_pos : 0 < maxPayload := by decide

/-- The rate of the standard tick, in ticks a second. -/
def standardRate : UInt32 := 625

/-- The number of subscriptions a tick table takes unless it is given another
    capacity. -/
def defaultSubscriptions : Nat := 4

/-- How long a partial packet waits by default, in milliseconds. -/
def defaultSendTimeout : UInt32 := 100

/-- How many packets may be outstanding by default. -/
def defaultWindow : UInt8 := 3

end PacketRadio
