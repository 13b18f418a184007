import PacketRadio.Buffer

/-!
# Physical links

What carries payloads to the radio and received bytes back.

A link is asked three things, and none of them may wait: to send a payload as
a whole, to hand over bytes that have already arrived, and to make progress
with output it still holds. What a link does in answer is its own business.
Its state `σ` belongs to the radio that uses it; whatever it shares with
others lies in the world `ω`.

## Main definitions

* `LinkError`: Why a link did not do what it was asked.
* `Link`: The three questions.
-/

namespace PacketRadio

/-- Why a link failed. -/
inductive LinkError where
  /-- The transmitter cannot take more right now. -/
  | busy
  | io
deriving DecidableEq

/-- What is said about a failure. -/
def LinkError.message : LinkError → String
  | .busy => "physical link busy"
  | .io => "physical link I/O error"

/-- A carrier of payloads. -/
class Link (σ ω : Type) where
  send : σ → List UInt8 → StateM ω (Except LinkError Unit × σ)
  /-- Put received bytes into a buffer, without waiting for any. -/
  receive : σ → List UInt8 → StateM ω (Fill × σ)
  /-- Make progress with queued output. A link that queues nothing has nothing
      to do. -/
  poll : σ → StateM ω (Except LinkError Unit × σ) := fun link => pure (.ok (), link)

end PacketRadio
