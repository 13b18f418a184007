import PacketRadio.Buffer

/-!
# Callbacks

How the byte-stream layer above the driver hands bytes over and takes them.

The driver knows nothing about that layer but two functions: a `Source` that
fills a buffer with bytes to send, and a `Sink` that accepts bytes received.
Either is told a context, a word that means something to it and nothing to the
driver, and sees a flag by which it can ask that a waiting task be scheduled.
The flag is handed in and comes back, so a callback may raise it, lower it or
leave it alone.

Both act on a world `ω` that belongs to the layer above, and both may answer
with any number at all. A callback travels together with its context, in one
`Binding` that is replaced as a whole; no callback is ever called with the
context of another.

## Main definitions

* `Sink`, `Source`: The two kinds of callback.
* `Binding`: A callback with the context it is called with.
* `Binding.deliver`, `Binding.pull`: Calling a bound callback.
-/

namespace PacketRadio

/-- Somebody who accepts received bytes. Given the context, the bytes and the
    yield flag, it answers how many bytes it took and how it left the flag. -/
abbrev Sink (ω : Type) := UInt64 → List UInt8 → Bool → StateM ω (Nat × Bool)

/-- Somebody who supplies bytes to send. Given the context, the buffer to fill
    and the yield flag, it answers what it did with the buffer and how it left
    the flag. -/
abbrev Source (ω : Type) := UInt64 → List UInt8 → Bool → StateM ω (Fill × Bool)

/-- A callback and the context it is called with. -/
structure Binding (φ : Type) where
  callback : φ
  /-- What it is told on every call. -/
  context : UInt64

namespace Binding

variable {ω : Type}

/-- Deliver received bytes to a sink. -/
def deliver (binding : Binding (Sink ω)) (data : List UInt8) (yield : Bool) :
    StateM ω (Nat × Bool) :=
  binding.callback binding.context data yield

/-- Let a source fill a buffer. -/
def pull (binding : Binding (Source ω)) (buffer : List UInt8) (yield : Bool) :
    StateM ω (Fill × Bool) :=
  binding.callback binding.context buffer yield

end Binding

end PacketRadio
