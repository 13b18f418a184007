import PacketRadio.Proofs.Alongside
import PacketRadio.Proofs.EndToEnd

/-!
# Residue

What an old packet leaves behind in a buffer, and where it goes.

A packet that is leased was used before, as a rule. To start it over clears its
header and leaves the bytes where they are, so what a source is offered is full
of bytes that somebody else once sent. They are all overwritten before they
count. A source that is honest about what it writes claims no byte that it did
not write, and the bytes that count are those that were claimed.

This is shown by comparing two runs in which the leased packets are different.
The packets of the two runs agree in what they declare, all the time
(`Packet.declared`), and in nothing else: behind the declared part there is
residue. What the transports do is compared up to that as well
(`Transport.Heedless`), so they may lend whatever they like and send no more
than what was declared. With that the two scenes go side by side.

## Main definitions

* `Packet.declared`: What a packet says.
* `Binding.Oblivious`: A source that does not look at the buffer it is offered.
* `Transport.Heedless`: Transports that are alike up to the residue of packets.
* `Call.rooms`: How much space sources were offered.

## Theorems

* `Packet.declared_absorb`: Exact sources do not bring residue in.
* `Transport.lawful_heedless`: With heedless transports, alike surroundings stay
  alike.
* `Scene.unsoiled`: Nothing of what was in a leased packet gets any further.
-/

namespace PacketRadio

variable {τ τ' σ ω : Type}

open Call

namespace Packet

/-- What a packet says: its header, and as much of its buffer as that covers. -/
def declared (packet : Packet) : Header × List UInt8 := (packet.header, packet.payload)

variable {packet packet' : Packet}

theorem length_of_declared (h : packet.declared = packet'.declared) :
    packet.length = packet'.length :=
  congrArg (fun said : Header × List UInt8 => said.1.dataSize.toNat) h

theorem length_spare_of_declared (h : packet.declared = packet'.declared) :
    packet.spare.length = packet'.spare.length := by
  rw [length_spare, length_spare, remaining, remaining, length_of_declared h]

/-- Bytes are brought in after what was declared, so the packets agree if the
    bytes do. -/
theorem declared_absorb (h : packet.declared = packet'.declared) {fill : Fill}
    (hclaimed : fill.claimed packet.spare = fill.claimed packet'.spare) :
    (packet.absorb fill).declared = (packet'.absorb fill).declared := by
  have hkind : packet.kind = packet'.kind :=
    congrArg (fun said : Header × List UInt8 => said.1.kind) h
  have hsize : UInt8.ofNat (packet.length + min fill.count packet.remaining) =
      UInt8.ofNat (packet'.length + min fill.count packet'.remaining) := by
    rw [remaining, remaining, length_of_declared h]
  have hpayload : packet.payload = packet'.payload := congrArg Prod.snd h
  unfold declared
  rw [payload_absorb, payload_absorb, hpayload, hclaimed]
  refine congrArg (·, _) ?_
  show Header.mk packet.kind _ = Header.mk packet'.kind _
  rw [hkind]
  exact congrArg _ hsize

/-- Two programs that differ in the residue of packets, and in nothing else. -/
def likeness (ω : Type) : Likeness ω where
  worlds := Eq
  packets packet packet' := packet.declared = packet'.declared
  answers := Eq

end Packet

/-- Buffers of one length are the same to the source, whatever is in them. -/
def Binding.Oblivious (source : Binding (Source ω)) : Prop :=
  ∀ buffer buffer' before, buffer.length = buffer'.length →
    source.pull buffer before = source.pull buffer' before

/-- Two transports, with states that are alike, that do the same with packets
    which say the same. They lend at the same times, but what they lend may be
    any packets. -/
structure Transport.Heedless [Transport τ ω] [Transport τ' ω] (like : τ → τ' → Prop) : Prop where
  start (terms : Terms) (world : ω) :
    let begun := Transport.start (τ := τ) terms world
    let begun' := Transport.start (τ := τ') terms world
    like begun.1 begun'.1 ∧ begun.2 = begun'.2
  lease {transport : τ} {transport' : τ'} (h : like transport transport') (world : ω) :
    let lent := Transport.lease transport world
    let lent' := Transport.lease transport' world
    lent.1.1.isSome = lent'.1.1.isSome ∧ like lent.1.2 lent'.1.2 ∧ lent.2 = lent'.2
  transmit {transport : τ} {transport' : τ'} (h : like transport transport')
    {packet packet' : Packet} (hpacket : packet.declared = packet'.declared) :
    (Transport.transmit transport packet).Alike (Packet.likeness ω) like
      (Transport.transmit transport' packet')
  receive {transport : τ} {transport' : τ'} (h : like transport transport') (packet : Packet) :
    (Transport.receive transport packet).Alike (Packet.likeness ω) like
      (Transport.receive transport' packet)

namespace Call

/-- A call without the residue of packets: what a packet declares that is
    transmitted stands next to it. -/
def rinsed : Call ω → Call ω × Option (Packet.Header × List UInt8)
  | .lease granted => (.lease (granted.map fun _ => Packet.blank), none)
  | .transmit packet => (.transmit Packet.blank, some packet.declared)
  | .pull source offered before fill after =>
    (.pull source (List.replicate offered.length 0) before fill after, none)
  | .receive offered fill =>
    (.receive offered ⟨fill.claimed offered, (fill.claimed offered).length⟩, none)
  | call => (call, none)

/-- How much space a source is offered. -/
def room? : Call ω → Option Nat
  | .pull _ offered _ _ _ => some offered.length
  | _ => none

/-- How much space sources were offered, pull after pull. -/
def rooms (calls : List (Call ω)) : List Nat := calls.filterMap room?

theorem declared_rinsed (call : Call ω) : call.rinsed.2 = call.packet?.map Packet.declared := by
  cases call <;> rfl

theorem room?_rinsed (call : Call ω) : call.rinsed.1.room? = call.room? := by
  cases call with
  | pull source offered before fill after => exact congrArg some List.length_replicate
  | _ => rfl

theorem sent?_rinsed (call : Call ω) : call.rinsed.1.sent? = call.sent? := by
  cases call <;> rfl

end Call

namespace Transport

/-- Radios on the same link, with transports whose states are alike. -/
def heedless (like : τ → τ' → Prop) : Pairing τ τ' σ σ ω :=
  { Packet.likeness ω with links := Eq, transports := like }

variable {like : τ → τ' → Prop}

theorem sees_heedless : Pairing.Sees (heedless like : Pairing τ τ' σ σ ω) Call.rinsed where
  lease {granted granted'} h := by
    cases granted with
    | none =>
        cases granted' with
        | none => rfl
        | some packet' => exact nomatch h
    | some packet =>
        cases granted' with
        | none => exact nomatch h
        | some packet' => rfl
  transmit h := congrArg (fun said => (Call.transmit Packet.blank, some said)) h
  pull {source _ _ before after fill} h :=
    congrArg (fun length => (Call.pull source (List.replicate length 0) before fill after, none))
      (Packet.length_spare_of_declared h)
  send hpacket hanswer := by
    have hpayload := congrArg Prod.snd hpacket
    exact congrArg (·, none) (congrArg₂ Call.send hpayload hanswer)
  receive h :=
    congrArg (fun bytes : List UInt8 =>
      (Call.receive Junction.chunk ⟨bytes, bytes.length⟩, none)) h
  poll h := congrArg (fun answer => (Call.poll answer, none)) h

theorem lawful_heedless [Transport τ ω] [Transport τ' ω] [Link σ ω]
    (hheedless : Heedless (ω := ω) like) : (heedless like : Pairing τ τ' σ σ ω).Lawful where
  length_eq h := Packet.length_of_declared h
  send {_ _ packet packet' _ _} hlink hpacket hworlds := by
    have hpayload : packet.payload = packet'.payload := congrArg Prod.snd hpacket
    cases hlink
    cases hworlds
    rw [hpayload]
    exact ⟨⟨rfl, rfl⟩, rfl⟩
  poll hlink hworlds := by
    cases hlink
    cases hworlds
    exact ⟨⟨rfl, rfl⟩, rfl⟩
  read hlink hworlds _ := by
    cases hlink
    cases hworlds
    exact ⟨rfl, rfl⟩
  start terms {world _} hworlds := by
    cases hworlds
    exact hheedless.start terms world
  lease {transport transport' world _} h hworlds := by
    cases hworlds
    rcases hheedless.lease h world with ⟨hgranted, hlike, hworld⟩
    refine ⟨⟨?_, hlike⟩, hworld⟩
    -- Whatever was lent, it is started over and says nothing.
    cases hlent : (Transport.lease transport world).1.1 with
    | none =>
        cases hlent' : (Transport.lease transport' world).1.1 with
        | none => exact .none
        | some packet' => rw [hlent, hlent'] at hgranted; exact nomatch hgranted
    | some packet =>
        cases hlent' : (Transport.lease transport' world).1.1 with
        | none => rw [hlent, hlent'] at hgranted; exact nomatch hgranted
        | some packet' =>
            refine .some ?_
            show (_, (packet.reset .data).payload) = (_, (packet'.reset .data).payload)
            rw [Packet.payload_reset, Packet.payload_reset]
            rfl
  transmit h hpacket := hheedless.transmit h hpacket
  receive packet h := hheedless.receive h packet

/-- An exact source that does not look at its buffer brings no residue in. -/
theorem steady_heedless {turn : Turn ω}
    (h : ∀ source, turn = .request (.bindSource source) → source.Oblivious ∧ source.Exact) :
    (heedless like : Pairing τ τ' σ σ ω).SteadyTurn turn := by
  cases turn with
  | tick => trivial
  | request asked =>
      cases asked with
      | bindReceiver sink =>
          intro data before world world' hworlds
          cases hworlds
          exact ⟨rfl, rfl⟩
      | bindSource source =>
          rcases h source rfl with ⟨hoblivious, hexact⟩
          intro packet packet' hpacket world world' hworlds
          cases hworlds
          have hpull := hoblivious packet.spare packet'.spare false
            (Packet.length_spare_of_declared hpacket)
          have hclaimed := hexact.claimed_eq
            (Possible.result (source.pull packet.spare false) world)
          have hclaimed' := hexact.claimed_eq
            (Possible.result (source.pull packet'.spare false) world)
          rw [← hpull] at hclaimed' ⊢
          exact ⟨⟨rfl, Packet.declared_absorb hpacket (hclaimed.trans hclaimed'.symm)⟩, rfl⟩
      | transmitReady available => trivial
      | receiveReady available => trivial
      | setBaud rate => trivial
      | inbound packet => trivial

end Transport

theorem Radio.pendingLength_eq (radio : Radio τ σ ω) :
    radio.pendingLength =
      (radio.inFlight.map Packet.declared).elim 0 fun said => said.1.dataSize.toNat := by
  unfold pendingLength
  cases radio.inFlight <;> rfl

namespace Scene

variable [Transport τ ω] [Transport τ' ω] [Link σ ω]

/-- Nothing of what was in a leased packet gets any further.

    Two radios are built alike, in the same world and on the same link, and take
    the same turns. Their transports do the same with packets that say the same,
    and lend at the same times, but they need not lend packets that agree in
    anything. All sources that are bound report exactly the bytes they write, and
    write what they write whatever they find in the buffer. Then after every turn
    the packets that were handed over say the same on both sides, the sources
    were offered the same amount of space, and the link was given the same
    payloads and gave the same answers. The radios have the same countdown, and
    packets in flight that say the same. -/
theorem unsoiled {like : τ → τ' → Prop} (hheedless : Transport.Heedless (ω := ω) like)
    (settings : Settings) (period : Period) (link : σ) (world : ω) (turns : List (Turn ω))
    (hsources : ∀ source, .request (.bindSource source) ∈ turns →
      source.Oblivious ∧ source.Exact) :
    let first : Scene τ σ ω := start settings period link world
    let second : Scene τ' σ ω := start settings period link world
    ∀ earlier, earlier <+: turns →
      let radio := (first.after earlier).radio
      let radio' := (second.after earlier).radio
      (handedOver (first.calls earlier)).map Packet.declared =
          (handedOver (second.calls earlier)).map Packet.declared ∧
        rooms (first.calls earlier) = rooms (second.calls earlier) ∧
        sends (first.calls earlier) = sends (second.calls earlier) ∧
        first.wishes earlier = second.wishes earlier ∧
        radio.countdown = radio'.countdown ∧
        radio.pendingLength = radio'.pendingLength ∧
        radio.inFlight.map Packet.declared = radio'.inFlight.map Packet.declared := by
  intro first second earlier hearlier radio radio'
  have hlawful : (Transport.heedless like : Pairing τ τ' σ σ ω).Lawful :=
    Transport.lawful_heedless hheedless
  have hsees : (Transport.heedless like : Pairing τ τ' σ σ ω).Sees Call.rinsed :=
    Transport.sees_heedless
  have hstart : Alongside (Transport.heedless like) Call.rinsed first second [] :=
    .start hlawful settings period rfl rfl
  have halong : Alongside (Transport.heedless like) Call.rinsed first second earlier := by
    refine .run hlawful hsees hstart (fun turn hmem => Transport.steady_heedless
      fun source hturn => hsources source (hturn ▸ hearlier.subset hmem))
      fun before _ hside _ => ?_
    -- The links are in the same state, and so is the world.
    have hlink : (first.after before).radio.junction.link =
        (second.after before).radio.junction.link := hside.radios.junction.link
    have hworld : (first.after before).world = (second.after before).world := hside.worlds
    rw [hworld]
    exact Junction.intake_congr hlink _
  have hpackets : (handedOver (first.calls earlier)).map Packet.declared =
      (handedOver (second.calls earlier)).map Packet.declared := by
    unfold handedOver
    rw [List.map_filterMap, List.map_filterMap]
    exact halong.filterMap_eq Prod.snd declared_rinsed
  have hinFlight : radio.inFlight.map Packet.declared = radio'.inFlight.map Packet.declared :=
    Pairing.map_eq_of_rel halong.radios.inFlight
  have hpending : radio.pendingLength = radio'.pendingLength := by
    rw [Radio.pendingLength_eq, Radio.pendingLength_eq, hinFlight]
  exact ⟨hpackets, halong.filterMap_eq (fun seen => seen.1.room?) room?_rinsed,
    halong.filterMap_eq (fun seen => seen.1.sent?) sent?_rinsed, halong.wishes_eq,
    halong.radios.countdown_eq, hpending, hinFlight⟩

end Scene

/-- A transport that does what the immediate one does, but lends the packet that
    it was handed last, as it is. -/
structure Recycling where
  inner : Immediate
  -- The packet to be lent next.
  shelf : Packet

namespace Recycling

/-- What is on the shelf in the beginning: a packet with every byte declared. -/
def soiled : Packet := .ofPayload .nack (List.replicate maxPayload 0xaa)

instance : Transport Recycling ω where
  start terms := pure ⟨.ofTerms terms, soiled⟩
  lease transport :=
    pure (transport.inner.lease.1.map fun _ => transport.shelf,
      { transport with inner := transport.inner.lease.2 })
  transmit transport packet := do
    let inner ← transport.inner.transmit packet
    return ⟨inner, packet⟩
  receive transport packet := do
    let inner ← transport.inner.receive packet
    return { transport with inner }

theorem heedless : Transport.Heedless (ω := ω)
    fun (transport : Immediate) (recycling : Recycling) => transport = recycling.inner where
  start _ _ := ⟨rfl, rfl⟩
  lease {transport recycling} h world := by
    cases h
    exact ⟨(Option.isSome_map ..).symm, rfl, rfl⟩
  transmit h _ _ hpacket := by
    cases h
    exact .send hpacket fun answer answer' hanswer => by
      cases hanswer
      exact .done rfl
  receive {transport recycling} h packet := by
    cases h
    show (recycling.inner.receive packet).Alike _ _ (recycling.inner.receive packet >>= _)
    unfold Immediate.receive
    split
    · exact .accept (.done rfl)
    · exact .done rfl

end Recycling

namespace Scene

/-- A packet that was lent for the first time says what a soiled one says, and is
    still another packet. -/
theorem unsoiled_recycling :
    let source : Binding (Source UInt8) :=
      ⟨fun _ buffer wish next =>
        let written := [next].take buffer.length
        ((⟨written, written.length⟩, wish), next + 1), 0⟩
    let turns : List (Turn UInt8) :=
      .request (.bindSource source) :: List.replicate 5 (.request (.transmitReady 16))
    let first : Scene Immediate (SerialLink ScriptedChannel) UInt8 :=
      start ⟨100, 2, 1, 1, 0⟩ Period.standard (.ofChannel ⟨[some 2, some 2], []⟩) 1
    let second : Scene Recycling (SerialLink ScriptedChannel) UInt8 :=
      start ⟨100, 2, 1, 1, 0⟩ Period.standard (.ofChannel ⟨[some 2, some 2], []⟩) 1
    let radio := (first.after turns).radio
    let radio' := (second.after turns).radio
    (handedOver (first.calls turns)).map Packet.payload = [[1, 2], [3, 4]] ∧
      radio.inFlight.map Packet.payload = some [5] ∧
      radio.inFlight ≠ radio'.inFlight ∧
      (handedOver (first.calls turns)).map Packet.declared =
        (handedOver (second.calls turns)).map Packet.declared ∧
      rooms (first.calls turns) = rooms (second.calls turns) ∧
      sends (first.calls turns) = sends (second.calls turns) ∧
      radio.inFlight.map Packet.declared = radio'.inFlight.map Packet.declared := by
  intro source turns first second radio radio'
  have hpayloads : (handedOver (first.calls turns)).map Packet.payload = [[1, 2], [3, 4]] := by
    decide +kernel
  have hpending : radio.inFlight.map Packet.payload = some [5] := by decide +kernel
  have hresidue : radio.inFlight ≠ radio'.inFlight := by decide +kernel
  have hoblivious : source.Oblivious := by
    intro buffer buffer' before hlength
    show source.callback 0 buffer before = source.callback 0 buffer' before
    simp only [source, hlength]
  have hexact : source.Exact := by
    rintro buffer before fill after ⟨world, h⟩
    have hfill : (source.pull buffer before world).1.1 = fill := congrArg Prod.fst h
    rw [← hfill]
    exact ⟨rfl, List.length_take_le _ _⟩
  have hsources : ∀ bound, .request (.bindSource bound) ∈ turns →
      bound.Oblivious ∧ bound.Exact := by
    intro bound hmem
    simp only [turns, List.replicate, List.mem_cons, Turn.request.injEq,
      Radio.Request.bindSource.injEq, reduceCtorEq, List.not_mem_nil, or_false] at hmem
    rw [hmem]
    exact ⟨hoblivious, hexact⟩
  -- What the turns are has been used, and would only be computed again.
  clear_value turns
  rcases unsoiled (σ := SerialLink ScriptedChannel) Recycling.heedless _ _ _ _ turns hsources
    turns List.prefix_rfl with ⟨hpackets, hrooms, hsends, -, -, -, hinFlight⟩
  exact ⟨hpayloads, hpending, hresidue, hpackets, hrooms, hsends, hinFlight⟩

end Scene

end PacketRadio
