import PacketRadio.Proofs.Record
import PacketRadio.Proofs.Serial.Pump

/-!
# Inlets

Where received bytes wait until somebody reads them.

An `Inlet` of a link is the account of what has arrived on it and was not read
yet. Bytes are fed to it from the far side at any time. A read takes them from
the front, as many as it claims, and the other questions a link is asked leave
them alone. How many bytes a read claims is up to the link: it may claim none
although some have arrived.

A serial link has an inlet if its channel has one. It reads from the channel
only where the channel says that it is ready, and a fault of the channel is a
read that claims nothing. What it does to send, and to pump out its backlog,
concerns the other direction.

## Main definitions

* `Link.Inlet`, `Channel.Inlet`: What has arrived on a link, or on a channel.
* `SerialLink.inlet`: The inlet of a serial link.
* `FedChannel`: A channel that is only read, by a script.

## Theorems

* `SerialLink.Pumped.queue_eq`, `SerialLink.Sent.queue_eq`: Output does not
  touch what has arrived.
* `SerialLink.receive_moves`: A read takes what it claims.
-/

namespace PacketRadio

variable {σ κ ω : Type}

/-- What arrives on a link, and how it is read. -/
structure Link.Inlet (σ ω : Type) [Link σ ω] where
  /-- The bytes that have arrived and were not read. -/
  queue : σ → List UInt8
  /-- The link when more bytes have arrived. -/
  feed : σ → List UInt8 → σ
  queue_feed (link : σ) (bytes : List UInt8) : queue (feed link bytes) = queue link ++ bytes
  receive {link after : σ} {buffer : List UInt8} {fill : Fill}
    (h : Possible (Link.receive (ω := ω) link buffer) (fill, after)) :
    fill.count ≤ buffer.length ∧ fill.claimed buffer = (queue link).take fill.count ∧
      queue after = (queue link).drop fill.count
  send {link after : σ} {payload : List UInt8} {answer : Except LinkError Unit}
    (h : Possible (Link.send (ω := ω) link payload) (answer, after)) : queue after = queue link
  poll {link after : σ} {answer : Except LinkError Unit}
    (h : Possible (Link.poll (ω := ω) link) (answer, after)) : queue after = queue link

/-- What arrives on a channel, and how it is read. A read that faults takes
    nothing. -/
structure Channel.Inlet (κ ω : Type) [Channel κ ω] where
  queue : κ → List UInt8
  feed : κ → List UInt8 → κ
  queue_feed (channel : κ) (bytes : List UInt8) :
    queue (feed channel bytes) = queue channel ++ bytes
  read_some {channel after : κ} {buffer : List UInt8} {fill : Fill}
    (h : Possible (Channel.read (ω := ω) channel buffer) (some fill, after)) :
    fill.count ≤ buffer.length ∧ fill.claimed buffer = (queue channel).take fill.count ∧
      queue after = (queue channel).drop fill.count
  read_none {channel after : κ} {buffer : List UInt8}
    (h : Possible (Channel.read (ω := ω) channel buffer) (none, after)) :
    queue after = queue channel
  readReady {channel after : κ} {ready : Option Bool}
    (h : Possible (Channel.readReady (ω := ω) channel) (ready, after)) :
    queue after = queue channel
  -- Output does not touch what has arrived.
  writeReady {channel after : κ} {ready : Option Bool}
    (h : Possible (Channel.writeReady (ω := ω) channel) (ready, after)) :
    queue after = queue channel
  write {channel after : κ} {data : List UInt8} {taken : Option Nat}
    (h : Possible (Channel.write (ω := ω) channel data) (taken, after)) :
    queue after = queue channel

namespace SerialLink

variable [Channel κ ω]

theorem Pumped.queue_eq (inlet : Channel.Inlet κ ω) {channel : κ}
    {backlog : RingBuffer UInt8 maxPayload} {world last : ω} {result : Except LinkError Unit}
    {link : SerialLink κ} (h : Pumped channel backlog world result link last) :
    inlet.queue link.channel = inlet.queue channel := by
  induction h with
  | finished _ => rfl
  | unknown _ hready => exact inlet.writeReady (.of_eq hready)
  | unready _ hready => exact inlet.writeReady (.of_eq hready)
  | faulted _ hready hwrite =>
      rw [inlet.write (.of_eq hwrite), inlet.writeReady (.of_eq hready)]
  | stuck _ hready hwrite =>
      rw [inlet.write (.of_eq hwrite), inlet.writeReady (.of_eq hready)]
  | round _ hready hwrite _ ih =>
      rw [ih, inlet.write (.of_eq hwrite), inlet.writeReady (.of_eq hready)]

theorem Sent.queue_eq (inlet : Channel.Inlet κ ω) {link after : SerialLink κ}
    {payload : List UInt8} {world last : ω} {answer : Except LinkError Unit}
    (h : Sent link payload world answer after last) :
    inlet.queue after.channel = inlet.queue link.channel := by
  cases h with
  | blocked hfirst => exact hfirst.queue_eq inlet
  | refused hfirst _ => exact hfirst.queue_eq inlet
  | broken hfirst _ hsecond => exact (hsecond.queue_eq inlet).trans (hfirst.queue_eq inlet)
  | accepted hfirst _ hsecond => exact (hsecond.queue_eq inlet).trans (hfirst.queue_eq inlet)

/-- Reading from a serial link is reading from its channel, or nothing. -/
theorem receive_moves (inlet : Channel.Inlet κ ω) {link after : SerialLink κ}
    {buffer : List UInt8} {fill : Fill} {world last : ω}
    (h : link.receive buffer world = ((fill, after), last)) :
    fill.count ≤ buffer.length ∧
      fill.claimed buffer = (inlet.queue link.channel).take fill.count ∧
      inlet.queue after.channel = (inlet.queue link.channel).drop fill.count := by
  rcases hready : Channel.readReady link.channel world with ⟨⟨ready, channel⟩, world'⟩
  have hsame := inlet.readReady (.of_eq hready)
  simp only [receive, bind, StateT.bind, hready] at h
  rcases ready with _ | _ | _
  · cases h
    exact ⟨Nat.zero_le _, rfl, hsame⟩
  · cases h
    exact ⟨Nat.zero_le _, rfl, hsame⟩
  · rcases hread : Channel.read channel buffer world' with ⟨⟨answer, channel'⟩, last'⟩
    simp only [StateT.bind, hread] at h
    cases answer with
    | none =>
        cases h
        exact ⟨Nat.zero_le _, rfl, (inlet.read_none (.of_eq hread)).trans hsame⟩
    | some fill =>
        cases h
        have hfill := inlet.read_some (.of_eq hread)
        rw [hsame] at hfill
        exact hfill

/-- What has arrived on the channel of a serial link has arrived on the link. -/
def inlet (inlet : Channel.Inlet κ ω) : Link.Inlet (SerialLink κ) ω where
  queue link := inlet.queue link.channel
  feed link bytes := { link with channel := inlet.feed link.channel bytes }
  queue_feed link bytes := inlet.queue_feed link.channel bytes
  receive {link after buffer fill} h := by
    rcases h with ⟨world, hrun⟩
    have hreceive : (link.receive buffer world).1 = (fill, after) := hrun
    exact receive_moves inlet (Prod.ext hreceive rfl)
  send {link after payload answer} h := by
    rcases h with ⟨world, hrun⟩
    have hsent := link.send_sent payload world
    have hresult : (link.send payload world).1 = (answer, after) := hrun
    rw [hresult] at hsent
    exact hsent.queue_eq inlet
  poll {link after answer} h := by
    rcases h with ⟨world, hrun⟩
    have hpumped := link.pump_pumped world
    have hresult : (link.pump world).1 = (answer, after) := hrun
    rw [hresult] at hpumped
    exact hpumped.queue_eq inlet

end SerialLink

/-- A channel whose reads follow a script: how many bytes each may hand over, or
    `none` for a fault. When the script is over, all that fits is handed over. -/
structure FedChannel where
  script : List (Option Nat)
  -- What has arrived is part of the channel.
  arrived : List UInt8

namespace FedChannel

/-- Hand over as many bytes as there are, as fit, and as are allowed. -/
def take (channel : FedChannel) (rest : List (Option Nat)) (room : Nat) : Fill × FedChannel :=
  let count := min room channel.arrived.length
  (⟨channel.arrived.take count, count⟩, ⟨rest, channel.arrived.drop count⟩)

-- A fed channel is never ready to be written to.
instance {ω : Type} : Channel FedChannel ω where
  writeReady channel := pure (some false, channel)
  write channel _ := pure (some 0, channel)
  readReady channel := pure (some true, channel)
  read channel buffer := pure <|
    match channel.script with
    | [] =>
      let (fill, channel) := channel.take [] buffer.length
      (some fill, channel)
    | none :: rest => (none, { channel with script := rest })
    | some room :: rest =>
      let (fill, channel) := channel.take rest (min room buffer.length)
      (some fill, channel)

theorem take_moves {channel : FedChannel} {rest : List (Option Nat)} {room : Nat}
    {buffer : List UInt8} (h : room ≤ buffer.length) :
    let (fill, after) := channel.take rest room
    fill.count ≤ buffer.length ∧ fill.claimed buffer = channel.arrived.take fill.count ∧
      after.arrived = channel.arrived.drop fill.count := by
  let count := min room channel.arrived.length
  have hroom : count ≤ buffer.length := Nat.le_trans (Nat.min_le_left _ _) h
  have hlen : count ≤ (channel.arrived.take count).length := by
    rw [List.length_take]
    exact Nat.le_min.2 ⟨Nat.le_refl _, Nat.min_le_right _ _⟩
  -- What was written reads back as it was.
  have hwritten : (overlay buffer (channel.arrived.take count)).take count =
      channel.arrived.take count := by
    rw [take_overlay _ _ hlen hroom, List.take_take, Nat.min_self]
  exact ⟨hroom, hwritten, rfl⟩

/-- What has arrived on a fed channel. -/
def inlet {ω : Type} : Channel.Inlet FedChannel ω where
  queue channel := channel.arrived
  feed channel bytes := { channel with arrived := channel.arrived ++ bytes }
  queue_feed _ _ := rfl
  read_some {channel after buffer fill} h := by
    rcases h with ⟨world, hrun⟩
    rcases channel with ⟨_ | ⟨_ | room, rest⟩, arrived⟩
    · cases hrun
      exact take_moves (Nat.le_refl _)
    · cases hrun
    · cases hrun
      exact take_moves (Nat.min_le_right _ _)
  read_none {channel after buffer} h := by
    rcases h with ⟨world, hrun⟩
    rcases channel with ⟨_ | ⟨_ | room, rest⟩, arrived⟩ <;> cases hrun
    rfl
  readReady h := by
    rcases h with ⟨world, hrun⟩
    cases hrun
    rfl
  writeReady h := by
    rcases h with ⟨world, hrun⟩
    cases hrun
    rfl
  write h := by
    rcases h with ⟨world, hrun⟩
    cases hrun
    rfl

end FedChannel

end PacketRadio
