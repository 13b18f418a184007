import PacketRadio.Proofs.Record
import PacketRadio.Radio

/-!
# Calls to the Surroundings

Everything a radio asks of its surroundings, and radios whose surroundings
keep a record of it.

A radio calls its transport, its link and the two callbacks; the transport, in
turn, calls the two hooks. A `Call` is one of these, with what was passed and
what came back. The calls are all that can be seen of a radio from outside, so
statements about what a radio does are statements about them.

The surroundings of a radio are whatever its four types of parameters say, and
nothing is assumed about them. `Observed` wraps a transport or a link so that
it writes each call down and then does what it did before; callbacks are
wrapped in the same way. A radio is not wrapped. `Radio.observed` is a radio
of the same kind with the same state, put into surroundings that are wrapped.

## Main definitions

* `Call`: One call to the surroundings, with its answer.
* `Call.handedOver`, `Call.sends`, `Call.contributed`: What a list of calls
  amounts to, at the transport, at the link and at the sources.
* `Call.AtJunction`: The calls that are made at a junction.
* `Watched`: A world that keeps a record of calls.
* `Observed`: A component that writes down the calls it receives.
* `Binding.observedSource`, `Binding.observedSink`: The same for callbacks.
* `Exchange.observed`, `Exchange.noted`: What a transport does in answer, with
  the call to it and its hook calls written down.
* `Radio.observed`: A radio in observed surroundings.

## Theorems

* `Call.handedOver_of_atJunction`, `Call.contributed_of_atJunction`: At a
  junction, packets are neither filled nor handed over.
-/

namespace PacketRadio

/-- One call of a radio or its transport to somebody else, and the answer. -/
inductive Call (ω : Type) where
  -- Between the radio and its transport.
  | lease (granted : Option Packet)
  | transmit (packet : Packet)
  | inbound (packet : Packet)
  -- The one call of a transport that reaches no link.
  | accept (data : List UInt8)
  -- A callback is shown the yield flag, and leaves it as it likes.
  | pull (source : Binding (Source ω)) (offered : List UInt8) (before : Bool) (fill : Fill)
      (after : Bool)
  | deliver (sink : Binding (Sink ω)) (data : List UInt8) (before : Bool) (taken : Nat)
      (after : Bool)
  -- The three questions that a link is asked.
  | send (payload : List UInt8) (answer : Except LinkError Unit)
  | receive (offered : List UInt8) (fill : Fill)
  | poll (answer : Except LinkError Unit)

namespace Call

variable {ω : Type}

/-- The packet that is handed to the transport. -/
@[simp] def packet? : Call ω → Option Packet
  | .transmit packet => some packet
  | _ => none

/-- The payload that is given to the link, and the link's answer. -/
@[simp] def sent? : Call ω → Option (List UInt8 × Except LinkError Unit)
  | .send payload answer => some (payload, answer)
  | _ => none

/-- The bytes a pull brings in: of the offered buffer, as the source left it,
    as many as the source claims and at most the whole buffer. -/
@[simp] def contribution : Call ω → List UInt8
  | .pull _ offered _ fill _ => fill.claimed offered
  | _ => []

/-- The call is one that a junction makes or answers, and not one between a
    radio and its transport or its source. -/
@[simp] def AtJunction : Call ω → Prop
  | .lease _ => False
  | .transmit _ => False
  | .inbound _ => False
  | .accept _ => True
  | .pull _ _ _ _ _ => False
  | .deliver _ _ _ _ _ => True
  | .send _ _ => True
  | .receive _ _ => True
  | .poll _ => True

/-- The packets that were handed to the transport, in their order. -/
def handedOver (calls : List (Call ω)) : List Packet := calls.filterMap packet?

/-- What the link was given, in its order, with the answers. -/
def sends (calls : List (Call ω)) : List (List UInt8 × Except LinkError Unit) :=
  calls.filterMap sent?

/-- The bytes that were brought in by all pulls, one pull after another. -/
def contributed (calls : List (Call ω)) : List UInt8 := calls.flatMap contribution

@[simp] theorem handedOver_nil : handedOver ([] : List (Call ω)) = [] := rfl

@[simp] theorem handedOver_cons (call : Call ω) (calls : List (Call ω)) :
    handedOver (call :: calls) = call.packet?.toList ++ handedOver calls := by
  rw [handedOver, List.filterMap_cons]
  cases call.packet? <;> rfl

@[simp] theorem handedOver_append (first second : List (Call ω)) :
    handedOver (first ++ second) = handedOver first ++ handedOver second :=
  List.filterMap_append

@[simp] theorem sends_nil : sends ([] : List (Call ω)) = [] := rfl

@[simp] theorem sends_cons (call : Call ω) (calls : List (Call ω)) :
    sends (call :: calls) = call.sent?.toList ++ sends calls := by
  rw [sends, List.filterMap_cons]
  cases call.sent? <;> rfl

@[simp] theorem sends_append (first second : List (Call ω)) :
    sends (first ++ second) = sends first ++ sends second :=
  List.filterMap_append

@[simp] theorem contributed_nil : contributed ([] : List (Call ω)) = [] := rfl

@[simp] theorem contributed_cons (call : Call ω) (calls : List (Call ω)) :
    contributed (call :: calls) = call.contribution ++ contributed calls :=
  List.flatMap_cons

@[simp] theorem contributed_append (first second : List (Call ω)) :
    contributed (first ++ second) = contributed first ++ contributed second :=
  List.flatMap_append

theorem handedOver_of_atJunction {calls : List (Call ω)}
    (h : ∀ call ∈ calls, call.AtJunction) : handedOver calls = [] := by
  refine List.filterMap_eq_nil_iff.2 fun call hmem => ?_
  have hjunction := h call hmem
  cases call with
  | transmit packet => exact hjunction.elim
  | _ => rfl

theorem contributed_of_atJunction {calls : List (Call ω)}
    (h : ∀ call ∈ calls, call.AtJunction) : contributed calls = [] := by
  refine List.flatMap_eq_nil_iff.2 fun call hmem => ?_
  have hjunction := h call hmem
  cases call with
  | pull source offered before fill after => exact hjunction.elim
  | _ => rfl

end Call

/-- A world that keeps a record of calls. -/
abbrev Watched (ω : Type) := Recorded (Call ω) ω

/-- A component that writes down the calls it receives. -/
structure Observed (α : Type) where
  inner : α

variable {τ σ ω α : Type}

/-- A source that writes down when it is pulled. -/
def Binding.observedSource (source : Binding (Source ω)) : Binding (Source (Watched ω)) where
  callback context buffer before := do
    let (fill, after) ← Recorded.lift (source.callback context buffer before)
    Recorded.note (.pull ⟨source.callback, context⟩ buffer before fill after)
    return (fill, after)
  context := source.context

/-- A sink that writes down what it is brought. -/
def Binding.observedSink (sink : Binding (Sink ω)) : Binding (Sink (Watched ω)) where
  callback context data before := do
    let (taken, after) ← Recorded.lift (sink.callback context data before)
    Recorded.note (.deliver ⟨sink.callback, context⟩ data before taken after)
    return (taken, after)
  context := sink.context

/-- A link that writes down what it is asked. -/
instance [Link σ ω] : Link (Observed σ) (Watched ω) where
  send link payload := do
    let (answer, inner) ← Recorded.lift (Link.send link.inner payload)
    Recorded.note (.send payload answer)
    return (answer, ⟨inner⟩)
  receive link buffer := do
    let (fill, inner) ← Recorded.lift (Link.receive link.inner buffer)
    Recorded.note (.receive buffer fill)
    return (fill, ⟨inner⟩)
  poll link := do
    let (answer, inner) ← Recorded.lift (Link.poll link.inner)
    Recorded.note (.poll answer)
    return (answer, ⟨inner⟩)

/-- The same course of hook calls in a watched world, which the transport sees
    as the plain one. Bytes it has accepted are written down; what it sends is
    written down by the link. -/
def Exchange.observed : Exchange ω α → Exchange (Watched ω) α
  | .done result => .done result
  | .send packet next => .send packet fun accepted => (next accepted).observed
  | .accept data next =>
    .look fun watched =>
      .put ⟨watched.world, watched.events ++ [.accept data]⟩ (.accept data next.observed)
  | .setBaud rate next => .setBaud rate next.observed
  | .look next => .look fun watched => (next watched.world).observed
  | .put world next => .look fun watched => .put ⟨world, watched.events⟩ next.observed

/-- What an observed transport does when it is asked something: the call is
    written down first. -/
def Exchange.noted (call : Call ω) (exchange : Exchange ω τ) :
    Exchange (Watched ω) (Observed τ) :=
  .look fun watched =>
    .put ⟨watched.world, watched.events ++ [call]⟩ do
      let inner ← exchange.observed
      return ⟨inner⟩

/-- A transport that writes down what it is asked. -/
instance [Transport τ ω] : Transport (Observed τ) (Watched ω) where
  start terms := do
    let inner ← Recorded.lift (Transport.start terms)
    return ⟨inner⟩
  lease transport := do
    let (granted, inner) ← Recorded.lift (Transport.lease transport.inner)
    Recorded.note (.lease granted)
    return (granted, ⟨inner⟩)
  transmit transport packet := (Transport.transmit transport.inner packet).noted (.transmit packet)
  receive transport packet := (Transport.receive transport.inner packet).noted (.inbound packet)

/-- A junction whose link and receiver write down what they are asked. -/
def Junction.observed (junction : Junction σ ω) : Junction (Observed σ) (Watched ω) where
  link := ⟨junction.link⟩
  receiver := junction.receiver.map Binding.observedSink
  yieldPending := junction.yieldPending

/-- A radio whose surroundings write down what they are asked. -/
def Radio.observed (radio : Radio τ σ ω) : Radio (Observed τ) (Observed σ) (Watched ω) where
  tag := radio.tag
  settings := radio.settings
  countdown := radio.countdown
  source := radio.source.map Binding.observedSource
  junction := radio.junction.observed
  transport := ⟨radio.transport⟩
  inFlight := radio.inFlight

/-- A request that brings callbacks which write down what they are asked. -/
def Radio.Request.observed : Radio.Request ω → Radio.Request (Watched ω)
  | .bindReceiver sink => .bindReceiver sink.observedSink
  | .bindSource source => .bindSource source.observedSource
  | .transmitReady available => .transmitReady available
  | .receiveReady available => .receiveReady available
  | .setBaud rate => .setBaud rate
  | .inbound packet => .inbound packet

end PacketRadio
