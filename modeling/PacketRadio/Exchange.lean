import PacketRadio.Packet

/-!
# Exchanges

What a packet transport does with the driver that it serves.

A transport is foreign to the driver, and it reaches back into the driver
through hooks alone: it may have a packet sent and learn whether that worked,
it may have bytes accepted as received, and it may ask for another rate where
that is on offer. It may do so as often as it likes and in any order, and it
may look at its own world in between. An `Exchange` is that and nothing more,
written down as a tree of calls.

The place where the calls end up, the junction of a radio's link with its
receiver, is a parameter of the hooks and does not occur in the tree. A
transport can therefore do nothing to a junction that the hooks do not do, and
a fact about all transports is an induction over the tree.

## Main definitions

* `Hooks`: What a junction offers to a transport.
* `Exchange`: A course of calls, ending in a result.
* `Exchange.bind`: One exchange after another.
* `Exchange.run`: An exchange carried out on a junction.

## Theorems

* `Exchange.run_pure`, `Exchange.run_bind`: Carrying out one exchange after
  another is carrying out their composition.
-/

namespace PacketRadio

/-- The calls a junction answers. -/
structure Hooks (π ω : Type) where
  /-- Put a packet's payload on the link, and tell whether the link took it. -/
  send : π → Packet → StateM ω (Bool × π)
  /-- Accept bytes as received. -/
  accept : π → List UInt8 → StateM ω π
  /-- Change the rate of the link, where it can be changed. -/
  setBaud : Option (π → UInt32 → StateM ω π)

/-- A course of hook calls with a result. Every step but the last says how the
    course goes on, given what the step answered. -/
inductive Exchange (ω α : Type) where
  | done (result : α)
  | send (packet : Packet) (next : Bool → Exchange ω α)
  | accept (data : List UInt8) (next : Exchange ω α)
  | setBaud (rate : UInt32) (next : Exchange ω α)
  -- Look at the world.
  | look (next : ω → Exchange ω α)
  -- Leave another world behind.
  | put (world : ω) (next : Exchange ω α)

namespace Exchange

variable {ω π α β : Type}

/-- One exchange after another, the second given the result of the first. -/
def bind (exchange : Exchange ω α) (after : α → Exchange ω β) : Exchange ω β :=
  match exchange with
  | .done result => after result
  | .send packet next => .send packet fun accepted => (next accepted).bind after
  | .accept data next => .accept data (next.bind after)
  | .setBaud rate next => .setBaud rate (next.bind after)
  | .look next => .look fun world => (next world).bind after
  | .put world next => .put world (next.bind after)

instance : Monad (Exchange ω) where
  pure := .done
  bind := bind

/-- Have a packet sent, and learn whether the link took it. -/
def sendPacket (packet : Packet) : Exchange ω Bool :=
  .send packet .done

/-- Have bytes accepted as received. -/
def acceptData (data : List UInt8) : Exchange ω Unit :=
  .accept data (.done ())

/-- Act on the world. -/
def onWorld (act : StateM ω α) : Exchange ω α :=
  .look fun world =>
    let (result, world) := act world
    .put world (.done result)

/-- Carry an exchange out on a junction. A rate that cannot be changed stays. -/
def run (hooks : Hooks π ω) (exchange : Exchange ω α) (junction : π) : StateM ω (α × π) :=
  match exchange with
  | .done result => pure (result, junction)
  | .send packet next => do
    let (accepted, junction) ← hooks.send junction packet
    (next accepted).run hooks junction
  | .accept data next => do
    let junction ← hooks.accept junction data
    next.run hooks junction
  | .setBaud rate next =>
    match hooks.setBaud with
    | none => next.run hooks junction
    | some change => do
      let junction ← change junction rate
      next.run hooks junction
  | .look next => do
    let world ← get
    (next world).run hooks junction
  | .put world next => do
    set world
    next.run hooks junction

@[simp] theorem run_pure (hooks : Hooks π ω) (result : α) (junction : π) :
    (pure result : Exchange ω α).run hooks junction = pure (result, junction) := rfl

theorem run_bind (hooks : Hooks π ω) (exchange : Exchange ω α) (after : α → Exchange ω β)
    (junction : π) :
    (exchange >>= after).run hooks junction =
      (do
        let (result, junction) ← exchange.run hooks junction
        (after result).run hooks junction) := by
  show (exchange.bind after).run hooks junction = _
  induction exchange generalizing junction with
  | done result => rfl
  | send packet next ih =>
      funext world
      simp only [bind, run, ih, bind_assoc]
  | accept data next ih => simp only [bind, run, ih, bind_assoc]
  | setBaud rate next ih =>
      simp only [bind, run, ih]
      split <;> simp only [bind_assoc]
  | look next ih => simp only [bind, run, ih, bind_assoc]
  | put world next ih => simp only [bind, run, ih, bind_assoc]

end Exchange

end PacketRadio
