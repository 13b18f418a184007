import PacketRadio.Proofs.Custody
import PacketRadio.Proofs.Deadline

/-!
# The Threshold of a Packet

How long a packet has to be before it leaves, and how long it can get.

The settings ask for a least length, which may be zero and may be more than a
packet can hold. A full packet leaves in any case, so the length that counts is
the smaller of the two, the `threshold`. The packet in flight is always below it
(`Radio.Short`): a packet is put back into flight only after it was found too
short to leave. What goes out is on one side of the threshold or the other,
according to who sends it. A request that fills a packet hands it over when the
threshold is reached and not before, and a tick has nothing but short packets to
force out.

A source is pulled only into a packet that is in flight or was just started
over, so it is always offered some room. How much it claims to have put there
decides about this packet and about no other.

## Main definitions

* `Settings.threshold`: The length at which a packet leaves at once.
* `Radio.Short`: A packet in flight is below the threshold.

## Theorems

* `Radio.isDue_iff_threshold_le`: A packet is due from the threshold on.
* `Radio.Filled.of_pull`: What becomes of the packet that a source was offered.
* `Radio.Filled.of_handedOver`, `Radio.Ticked.of_handedOver`: Which packets leave.
* `Radio.Turned.short`: A turn keeps packets in flight short.
* `Scene.packetisation`: When packets leave, and how long they are.
-/

namespace PacketRadio

variable {τ σ ω : Type}

open Call

namespace Settings

/-- The length at which a packet leaves at once. It is the one that is asked for,
    unless a packet is full before it has got there. -/
def threshold (settings : Settings) : Nat := min settings.minPacketSize.toNat maxPayload

theorem threshold_le (settings : Settings) : settings.threshold ≤ maxPayload :=
  Nat.min_le_right _ _

end Settings

theorem Call.mem_pulls {calls : List (Call ω)} {source : Binding (Source ω)}
    {offered : List UInt8} {before : Bool} {fill : Fill} {wish : Bool}
    (h : .pull source offered before fill wish ∈ calls) : source ∈ pulls calls := by
  have hmem : (source, fill) ∈ calls.filterMap pull? := List.mem_filterMap.2 ⟨_, h, rfl⟩
  exact List.mem_map_of_mem hmem

namespace Radio

theorem isDue_iff_threshold_le (settings : Settings) (packet : Packet) :
    isDue settings packet = true ↔ settings.threshold ≤ packet.length := by
  have hle := packet.length_le
  rw [isDue_eq_true_iff]
  unfold Settings.threshold
  omega

theorem isDue_eq_false_iff (settings : Settings) (packet : Packet) :
    isDue settings packet = false ↔ packet.length < settings.threshold := by
  rw [← Bool.not_eq_true, isDue_iff_threshold_le, Nat.not_le]

/-- A packet in flight is not long enough to leave. -/
def Short (radio : Radio τ σ ω) : Prop :=
  ∀ packet, radio.inFlight = some packet → packet.length < radio.settings.threshold

section

variable [Transport τ ω] {radio after : Radio τ σ ω} {calls : List (Call ω)} {packet : Packet}

/-- A packet that is got hold of has what was pending, and it has room. -/
theorem Fetched.length_eq {transport : τ} (hshort : radio.Short)
    (h : radio.Fetched calls (some packet) transport) :
    packet.length = radio.pendingLength ∧ packet.length < maxPayload := by
  have hle := radio.settings.threshold_le
  unfold pendingLength
  cases h with
  | held hslot =>
      have hlt := hshort packet hslot
      rw [hslot]
      exact ⟨rfl, by omega⟩
  | leased hslot _ =>
      rw [hslot, Packet.length_reset]
      exact ⟨rfl, maxPayload_pos⟩

/-- A packet that is got hold of was in flight, or it was asked for. -/
theorem Fetched.held_or_leased {transport : τ}
    (h : radio.Fetched calls (some packet) transport) :
    radio.inFlight = some packet ∨
      radio.inFlight = none ∧ ∃ granted, .lease (some granted) ∈ calls := by
  cases h with
  | held hslot => exact .inl hslot
  | leased hslot _ => exact .inr ⟨hslot, _, List.mem_cons_self⟩

variable [Link σ ω]

/-- A source is pulled into the packet that was got hold of. Either that leaves
    then, because it is due, or it is in flight afterwards, and no other
    packet leaves. -/
theorem Filled.of_pull (h : radio.Filled calls after) {source : Binding (Source ω)}
    {offered : List UInt8} {before : Bool} {fill : Fill} {wish : Bool}
    (hpull : .pull source offered before fill wish ∈ calls) :
    radio.source = some source ∧
      ∃ earlier packet transport, radio.Fetched earlier (some packet) transport ∧
        offered = packet.spare ∧
        (isDue radio.settings (packet.absorb fill) = true ∧
            handedOver calls = [packet.absorb fill] ∧ after.inFlight = none ∨
          isDue radio.settings (packet.absorb fill) = false ∧
            handedOver calls = [] ∧ after.inFlight = some (packet.absorb fill)) := by
  -- No pull is among the calls that got hold of the packet.
  have hfirst {earlier : List (Call ω)} {fetched : Option Packet} {transport : τ}
      (hfetch : radio.Fetched earlier fetched transport) :
      .pull source offered before fill wish ∉ earlier := by
    intro hmem
    have hpulls := mem_pulls hmem
    rw [hfetch.leases.2.1] at hpulls
    exact nomatch hpulls
  cases h with
  | unsourced _ => exact nomatch hpull
  | unfetched _ hfetch => exact absurd hpull (hfirst hfetch)
  | kept hsource hfetch _ hsmall =>
      rcases List.mem_append.1 hpull with hearlier | hlast
      · exact absurd hearlier (hfirst hfetch)
      · cases List.mem_singleton.1 hlast
        refine ⟨hsource, _, _, _, hfetch, rfl, .inr ⟨hsmall, ?_, rfl⟩⟩
        simp [hfetch.stream.1]
  | sent hsource hfetch _ hdue hover =>
      rcases hover.stream with ⟨hpacket, -, hslot⟩
      rcases List.mem_append.1 hpull with hearlier | hlater
      · exact absurd hearlier (hfirst hfetch)
      · rcases List.mem_cons.1 hlater with heq | hleft
        · cases heq
          refine ⟨hsource, _, _, _, hfetch, rfl, .inl ⟨hdue, ?_, hslot⟩⟩
          simp [hfetch.stream.1, hpacket]
        · -- Whoever gets the packet does not pull.
          have hpulls := mem_pulls hleft
          rw [hover.leases.2] at hpulls
          exact nomatch hpulls

/-- What leaves when there was room to transmit has reached the threshold. -/
theorem Filled.of_handedOver (h : radio.Filled calls after)
    (hover : packet ∈ handedOver calls) :
    radio.settings.threshold ≤ packet.length ∧
      ((∃ held, radio.inFlight = some held) ∨
        radio.inFlight = none ∧ ∃ granted, .lease (some granted) ∈ calls) := by
  cases h with
  | unsourced _ => exact nomatch hover
  | unfetched _ hfetch =>
      rw [hfetch.stream.1] at hover
      exact nomatch hover
  | kept _ hfetch _ _ =>
      simp [hfetch.stream.1] at hover
  | sent _ hfetch _ hdue hleft =>
      simp only [handedOver_append, hfetch.stream.1, handedOver_cons, hleft.stream.1, packet?,
        Option.toList_none, List.nil_append, List.mem_singleton] at hover
      rw [hover, ← isDue_iff_threshold_le]
      refine ⟨hdue, ?_⟩
      rcases hfetch.held_or_leased with hslot | ⟨hslot, granted, hmem⟩
      · exact .inl ⟨_, hslot⟩
      · exact .inr ⟨hslot, granted, List.mem_append_left _ hmem⟩

/-- What a tick forces out is what was in flight. -/
theorem Ticked.of_handedOver {wish : Bool} (h : radio.Ticked calls wish after)
    (hover : packet ∈ handedOver calls) : radio.inFlight = some packet := by
  cases h with
  | waiting hservice _ =>
      rw [hservice.quiet.1] at hover
      exact nomatch hover
  | empty hservice _ _ =>
      rw [hservice.quiet.1] at hover
      exact nomatch hover
  | flushed hservice _ hslot hleft =>
      rw [handedOver_append, hservice.quiet.1, hleft.stream.1, List.nil_append,
        List.mem_singleton] at hover
      rw [hover]
      exact hslot

variable {turn : Turn ω} {wish : Bool}

/-- A turn keeps packets in flight short. -/
theorem Turned.short (h : radio.Turned turn calls wish after) (hshort : radio.Short) :
    after.Short := by
  cases h with
  | bindReceiver => exact hshort
  | bindSource => exact hshort
  | receiveReady => exact hshort
  | setBaud => exact hshort
  | inbound _ => exact hshort
  | transmitReady hfill =>
      cases hfill with
      | unsourced _ => exact hshort
      | unfetched _ _ => exact nofun
      | kept _ _ _ hsmall =>
          intro held hheld
          rw [← Option.some.inj hheld, ← isDue_eq_false_iff]
          exact hsmall
      | sent _ _ _ _ hover =>
          intro held hheld
          have hempty := hover.stream.2.2
          exact nomatch hempty.symm.trans hheld
  | tick htick =>
      cases htick with
      | waiting _ _ => exact hshort
      | empty _ _ _ => exact hshort
      | flushed _ _ _ hover =>
          intro held hheld
          have hempty := hover.stream.2.2
          exact nomatch hempty.symm.trans hheld

/-- Sources are pulled where there is room to transmit, and nowhere else. -/
theorem Turned.of_pull (h : radio.Turned turn calls wish after) {source : Binding (Source ω)}
    {offered : List UInt8} {before : Bool} {fill : Fill} {flag : Bool}
    (hpull : .pull source offered before fill flag ∈ calls) :
    (∃ available, turn = .request (.transmitReady available)) ∧ radio.Filled calls after := by
  have hpulls := mem_pulls hpull
  cases h with
  | bindReceiver => exact nomatch hpull
  | bindSource => exact nomatch hpull
  | receiveReady => exact nomatch hpull
  | setBaud => exact nomatch hpull
  | transmitReady hfill => exact ⟨⟨_, rfl⟩, hfill⟩
  | @inbound packet more _ _ hcourse =>
      have hquiet : pulls (.inbound packet :: more) = [] :=
        (leases_of_atJunction hcourse.atJunction).2
      rw [hquiet] at hpulls
      exact nomatch hpulls
  | tick htick =>
      rw [htick.leases.2] at hpulls
      exact nomatch hpulls

/-- Packets leave when there was room to transmit and on ticks. -/
theorem Turned.of_handedOver (h : radio.Turned turn calls wish after)
    (hover : packet ∈ handedOver calls) :
    (turn = .tick ∧ radio.Ticked calls wish after) ∨
      (∃ available, turn = .request (.transmitReady available)) ∧ radio.Filled calls after := by
  cases h with
  | bindReceiver => exact nomatch hover
  | bindSource => exact nomatch hover
  | receiveReady => exact nomatch hover
  | setBaud => exact nomatch hover
  | transmitReady hfill => exact .inr ⟨⟨_, rfl⟩, hfill⟩
  | inbound hcourse =>
      simp [hcourse.quiet.1] at hover
  | tick htick => exact .inl ⟨rfl, htick⟩

end

end Radio

namespace Scene

variable [Transport τ ω] [Link σ ω]

theorem short (scene : Scene τ σ ω) (hshort : scene.radio.Short) (turns : List (Turn ω)) :
    (scene.after turns).radio.Short := by
  induction turns using List.reverseRecOn with
  | nil => exact hshort
  | append_singleton turns turn ih =>
      rw [after_append]
      exact ((scene.after turns).turned turn).short ih

/-- When packets leave, and how long they are.

    From a new radio on, and for any transport, a packet in flight is a data
    packet below the threshold; there is none if the threshold is zero. Packets
    leave on ticks and when there was room to transmit. On a tick it is the one
    in flight, so it is below the threshold. When there was room to transmit it
    has reached the threshold, and before that it was in flight below the
    threshold, unless it was only leased then. If a source was pulled, the packet
    has what was pending and what the source claims, as far as that fits: it
    leaves in this turn if that reaches the threshold, and is in flight
    afterwards if not. -/
theorem packetisation (settings : Settings) (period : Period) (link : σ) (world : ω)
    (turns : List (Turn ω)) :
    let fresh : Scene τ σ ω := start settings period link world
    let radio := (fresh.after turns).radio
    let least := min settings.minPacketSize.toNat 248
    (∀ packet, radio.inFlight = some packet → packet.kind = .data ∧ packet.length < least) ∧
      ∀ turn,
        let next := (fresh.after turns).calls [turn]
        let after := (fresh.after (turns ++ [turn])).radio
        (∀ packet ∈ handedOver next,
          (turn = .tick ∧ radio.inFlight = some packet ∧ packet.length < least) ∨
          (∃ available, turn = .request (.transmitReady available)) ∧
            least ≤ packet.length ∧ packet.length ≤ 248 ∧
            ((∃ held, radio.inFlight = some held ∧ held.length < least) ∨
              radio.inFlight = none ∧ ∃ granted, .lease (some granted) ∈ next)) ∧
        ∀ source offered before fill wish, .pull source offered before fill wish ∈ next →
          let reached := radio.pendingLength + min fill.count offered.length
          ∃ packet, packet.kind = .data ∧ packet.length = reached ∧
            packet.payload = radio.pending ++ fill.claimed offered ∧
            (least ≤ reached → handedOver next = [packet] ∧ after.inFlight = none) ∧
            (reached < least → handedOver next = [] ∧ after.inFlight = some packet) := by
  intro fresh radio least
  have hsettings : radio.settings = settings := (fresh.unaltered turns).2
  have hleast : radio.settings.threshold = least := by
    rw [hsettings]
    rfl
  have hshort : radio.Short := fresh.short nofun turns
  have hdata : radio.HoldsData := (fresh.holdsData nofun turns).1
  have hbelow (packet : Packet) (hslot : radio.inFlight = some packet) : packet.length < least :=
    hleast ▸ hshort packet hslot
  refine ⟨fun packet hslot => ⟨hdata packet hslot, hbelow packet hslot⟩, fun turn => ?_⟩
  intro next after
  have hturned := (fresh.after turns).turned turn
  rw [← after_append] at hturned
  refine ⟨fun packet hover => ?_, fun source offered before fill wish hpull => ?_⟩
  · rcases hturned.of_handedOver hover with ⟨hturn, htick⟩ | ⟨hturn, hfill⟩
    · have hslot := htick.of_handedOver hover
      exact .inl ⟨hturn, hslot, hbelow packet hslot⟩
    · rcases hfill.of_handedOver hover with ⟨hlong, hwas⟩
      refine .inr ⟨hturn, hleast ▸ hlong, packet.length_le, ?_⟩
      rcases hwas with ⟨held, hslot⟩ | hleased
      · exact .inl ⟨held, hslot, hbelow held hslot⟩
      · exact .inr hleased
  · intro reached
    rcases (hturned.of_pull hpull).2.of_pull hpull with
      ⟨-, earlier, packet, transport, hfetch, rfl, hfate⟩
    have hlength : (packet.absorb fill).length = reached := by
      rw [Packet.length_absorb, (hfetch.length_eq hshort).1]
      simp only [reached, Packet.length_spare]
    have hpayload : (packet.absorb fill).payload = radio.pending ++ fill.claimed packet.spare := by
      rw [Packet.payload_absorb, hfetch.stream.2.2]
      rfl
    refine ⟨packet.absorb fill, (packet.kind_absorb fill).trans (hfetch.kind hdata), hlength,
      hpayload, ?_⟩
    rw [← hlength, ← hleast, ← Radio.isDue_iff_threshold_le, ← Radio.isDue_eq_false_iff]
    rcases hfate with ⟨hdue, hleft⟩ | ⟨hsmall, hkept⟩
    · refine ⟨fun _ => hleft, fun hsmall => ?_⟩
      rw [hdue] at hsmall
      exact nomatch hsmall
    · refine ⟨fun hdue => ?_, fun _ => hkept⟩
      rw [hsmall] at hdue
      exact nomatch hdue

/-- Pulls of two bytes and a threshold of three: a packet of two waits, one of
    four leaves at once, and one of two is forced out by a tick. -/
theorem packetisation_of_pairs :
    let source : Binding (Source Unit) := ⟨fun _ _ wish => pure (⟨[7, 8], 2⟩, wish), 0⟩
    let fresh : Scene Immediate (SerialLink ScriptedChannel) Unit :=
      start ⟨1, 3, 1, 1, 0⟩ ⟨1000, by decide⟩ (.ofChannel ⟨[], []⟩) ()
    let ready : Turn Unit := .request (.transmitReady 1)
    let turns := [.request (.bindSource source), ready]
    (∃ packet, (fresh.after turns).radio.inFlight = some packet ∧ packet.kind = .data ∧
        packet.length = 2 ∧ packet.length < 3) ∧
      (∃ packet, handedOver ((fresh.after turns).calls [ready]) = [packet] ∧
        packet.payload = [7, 8, 7, 8] ∧ 3 ≤ packet.length) ∧
      ∃ packet, handedOver ((fresh.after turns).calls [.tick]) = [packet] ∧
        packet.payload = [7, 8] ∧ packet.length < 3 := by
  intro source fresh ready turns
  have hslot : (fresh.after turns).radio.inFlight.map Packet.length = some 2 := by decide +kernel
  have hready : (handedOver ((fresh.after turns).calls [ready])).map Packet.payload =
      [[7, 8, 7, 8]] := by
    decide +kernel
  have htick : (handedOver ((fresh.after turns).calls [.tick])).map Packet.payload = [[7, 8]] := by
    decide +kernel
  rcases Option.map_eq_some_iff.1 hslot with ⟨held, hheld, hlength⟩
  rcases List.map_eq_singleton_iff.1 hready with ⟨long, hlong, hfull⟩
  rcases List.map_eq_singleton_iff.1 htick with ⟨short, hshort, hrest⟩
  rcases @packetisation Immediate (SerialLink ScriptedChannel) Unit _ _ ⟨1, 3, 1, 1, 0⟩
    ⟨1000, by decide⟩ (.ofChannel ⟨[], []⟩) () turns with ⟨hbelow, hnext⟩
  rcases hbelow held hheld with ⟨hkind, hlt⟩
  refine ⟨⟨held, hheld, hkind, hlength, hlt⟩, ⟨long, hlong, hfull, ?_⟩, short, hshort, hrest, ?_⟩
  · rcases (hnext ready).1 long (hlong ▸ List.mem_singleton_self long) with
      ⟨hturn, -⟩ | ⟨-, hleast, -⟩
    · exact nomatch hturn
    · exact hleast
  · rcases (hnext .tick).1 short (hshort ▸ List.mem_singleton_self short) with
      ⟨-, -, hleast⟩ | ⟨⟨available, hturn⟩, -⟩
    · exact hleast
    · exact nomatch hturn

end Scene

end PacketRadio
