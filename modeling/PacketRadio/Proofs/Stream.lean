import Mathlib.Data.List.Induction
import PacketRadio.Proofs.Scene

/-!
# The Transmitted Stream

What goes into a radio through its sources comes out of it in packets, in the
same order, with nothing lost and nothing added.

A radio holds at most one packet, the one in flight, and its payload is all
that is on its way. So at any time the payloads of the packets that were
handed over, and the payload in flight behind them, are what the sources have
contributed so far (`Scene.payloads_append_pending`). How the bytes fall into
pulls and packets does not matter: a packet may be filled by many pulls and by
sources that replaced one another, and it may leave because it is large enough
or because its time is up. A source may claim more bytes than it was offered,
and a leased packet may hold anything. Neither is seen, since the one is worth
the buffer and the other is started over.

## Main definitions

* `Radio.pending`: The payload of the packet in flight.
* `Radio.HoldsData`: A packet in flight is a data packet.

## Theorems

* `Radio.Turned.stream`, `Radio.Turned.holdsData`: One turn keeps the stream
  together.
* `Scene.payloads_append_pending`: So does every run of a radio.
-/

namespace PacketRadio

variable {τ σ ω : Type}

open Call

namespace Radio

/-- The payload of the packet in flight, if there is one. -/
def pending (radio : Radio τ σ ω) : List UInt8 :=
  (radio.inFlight.map Packet.payload).getD []

/-- A packet in flight is a data packet. -/
def HoldsData (radio : Radio τ σ ω) : Prop :=
  ∀ packet, radio.inFlight = some packet → packet.kind = .data

section

variable [Transport τ ω] {radio after : Radio τ σ ω} {calls : List (Call ω)}

theorem Fetched.stream {fetched : Option Packet} {transport : τ}
    (h : radio.Fetched calls fetched transport) :
    handedOver calls = [] ∧ contributed calls = [] ∧
      radio.pending = (fetched.map Packet.payload).getD [] := by
  cases h with
  | held hslot => exact ⟨rfl, rfl, by rw [pending, hslot]⟩
  | leased hslot _ => exact ⟨rfl, rfl, by rw [pending, hslot]; rfl⟩
  | refused hslot _ => exact ⟨rfl, rfl, by rw [pending, hslot]⟩

theorem Fetched.kind {packet : Packet} {transport : τ} (hdata : radio.HoldsData)
    (h : radio.Fetched calls (some packet) transport) : packet.kind = .data := by
  cases h with
  | held hslot => exact hdata packet hslot
  | leased _ _ => rfl

variable [Link σ ω]

/-- Handing a packet over takes that packet and nothing else out of the
    radio. -/
theorem HandedOver.stream {packet : Packet} (h : radio.HandedOver packet calls after) :
    handedOver calls = [packet] ∧ contributed calls = [] ∧ after.inFlight = radio.inFlight := by
  rcases h with ⟨hcourse⟩
  rcases hcourse.quiet with ⟨hover, hin⟩
  refine ⟨?_, ?_, rfl⟩
  · simp [hover]
  · simp [hin]

theorem Filled.stream (h : radio.Filled calls after) :
    radio.pending ++ contributed calls =
      (handedOver calls).flatMap Packet.payload ++ after.pending := by
  cases h with
  | unsourced _ => simp
  | unfetched _ hfetch =>
      rcases hfetch.stream with ⟨hover, hin, hpending⟩
      rw [hover, hin, hpending]
      rfl
  | @kept source calls packet transport fill wish _ hfetch _ _ =>
      rcases hfetch.stream with ⟨hover, hin, hpending⟩
      -- What the pull brings in goes behind what the packet holds.
      have hheld : pending { radio with transport, inFlight := some (packet.absorb fill) } =
          packet.payload ++ fill.claimed packet.spare := packet.payload_absorb fill
      rw [hheld, hpending]
      simp [hover, hin]
  | @sent source calls more packet transport fill wish after _ hfetch _ _ hover =>
      rcases hfetch.stream with ⟨hnone, hin, hpending⟩
      rcases hover.stream with ⟨hpacket, hmore, hslot⟩
      -- The packet leaves with everything that was pending.
      have hempty : pending { after with countdown := after.countdown.rearm } = [] := by
        rw [pending, hslot]
        rfl
      rw [hempty, hpending]
      simp [hnone, hin, hpacket, hmore]

theorem Ticked.stream {wish : Bool} (h : radio.Ticked calls wish after) :
    contributed calls = [] ∧
      radio.pending = (handedOver calls).flatMap Packet.payload ++ after.pending := by
  cases h with
  | waiting hservice _ =>
      rcases hservice.quiet with ⟨hnone, hin⟩
      simp [hnone, hin, pending]
  | empty hservice _ _ =>
      rcases hservice.quiet with ⟨hnone, hin⟩
      simp [hnone, hin, pending]
  | flushed hservice _ hslot hover =>
      rcases hservice.quiet with ⟨hnone, hin⟩
      rcases hover.stream with ⟨hpacket, hmore, hempty⟩
      simp [hnone, hin, hpacket, hmore, hempty, hslot, pending]

/-- One turn keeps the stream together: what was pending and what comes in is
    what goes out and what is pending then. -/
theorem Turned.stream {turn : Turn ω} {wish : Bool} (h : radio.Turned turn calls wish after) :
    radio.pending ++ contributed calls =
      (handedOver calls).flatMap Packet.payload ++ after.pending := by
  cases h with
  | bindReceiver => exact List.append_nil _
  | bindSource => exact List.append_nil _
  | transmitReady hfill => exact hfill.stream
  | receiveReady => exact List.append_nil _
  | setBaud => exact List.append_nil _
  | inbound hcourse =>
      rcases hcourse.quiet with ⟨hnone, hin⟩
      simp [hnone, hin, pending]
  | tick htick =>
      rcases htick.stream with ⟨hin, hpending⟩
      rw [hin, List.append_nil, hpending]

/-- One turn keeps a data packet in flight, and hands data packets over. -/
theorem Turned.holdsData {turn : Turn ω} {wish : Bool} (h : radio.Turned turn calls wish after)
    (hdata : radio.HoldsData) :
    after.HoldsData ∧ ∀ packet ∈ handedOver calls, packet.kind = .data := by
  cases h with
  | bindReceiver => exact ⟨hdata, nofun⟩
  | bindSource => exact ⟨hdata, nofun⟩
  | receiveReady => exact ⟨hdata, nofun⟩
  | setBaud => exact ⟨hdata, nofun⟩
  | inbound hcourse =>
      refine ⟨hdata, ?_⟩
      simp [hcourse.quiet.1]
  | transmitReady hfill =>
      cases hfill with
      | unsourced _ => exact ⟨hdata, nofun⟩
      | unfetched _ hfetch =>
          refine ⟨nofun, ?_⟩
          simp [hfetch.stream.1]
      | @kept source calls packet transport fill wish _ hfetch _ _ =>
          have hkind := hfetch.kind hdata
          refine ⟨fun held hheld => ?_, ?_⟩
          · rw [← Option.some.inj hheld, Packet.kind_absorb, hkind]
          · simp [hfetch.stream.1]
      | sent _ hfetch _ _ hover =>
          have hkind := hfetch.kind hdata
          rcases hover.stream with ⟨hpacket, _, hslot⟩
          refine ⟨fun held hheld => ?_, ?_⟩
          · exact nomatch hslot.symm.trans hheld
          · simp [hfetch.stream.1, hpacket, hkind]
  | tick htick =>
      cases htick with
      | waiting hservice _ =>
          refine ⟨hdata, ?_⟩
          simp [hservice.quiet.1]
      | empty hservice _ _ =>
          refine ⟨hdata, ?_⟩
          simp [hservice.quiet.1]
      | flushed hservice _ hslot hover =>
          rcases hover.stream with ⟨hpacket, _, hnone⟩
          refine ⟨fun held hheld => ?_, ?_⟩
          · exact nomatch hnone.symm.trans hheld
          · simp [hservice.quiet.1, hpacket, hdata _ hslot]

end

end Radio

namespace Scene

variable [Transport τ ω] [Link σ ω]

/-- The payloads that were handed over in a run, and the payload in flight
    behind them, are what was in flight before and what the sources
    contributed in the run. -/
theorem stream (scene : Scene τ σ ω) (turns : List (Turn ω)) :
    scene.radio.pending ++ contributed (scene.calls turns) =
      (handedOver (scene.calls turns)).flatMap Packet.payload ++
        (scene.after turns).radio.pending := by
  induction turns using List.reverseRecOn with
  | nil => simp
  | append_singleton turns turn ih =>
      -- The last turn takes over what is pending after the turns before.
      have hstep := ((scene.after turns).turned turn).stream
      rw [after_append, calls_append, contributed_append, handedOver_append, List.flatMap_append,
        ← List.append_assoc, ih, List.append_assoc, hstep, List.append_assoc]

theorem holdsData (scene : Scene τ σ ω) (hdata : scene.radio.HoldsData)
    (turns : List (Turn ω)) :
    (scene.after turns).radio.HoldsData ∧
      ∀ packet ∈ handedOver (scene.calls turns), packet.kind = .data := by
  induction turns using List.reverseRecOn with
  | nil => exact ⟨hdata, nofun⟩
  | append_singleton turns turn ih =>
      rcases ((scene.after turns).turned turn).holdsData ih.1 with ⟨hafter, hkind⟩
      rw [after_append, calls_append, handedOver_append]
      exact ⟨hafter, List.forall_mem_append.2 ⟨ih.2, hkind⟩⟩

/-- From a new radio on, the payloads that were handed over, and the payload in
    flight behind them, are what the sources contributed, and what was handed
    over are data packets that declare no more than a payload. -/
theorem payloads_append_pending (settings : Settings) (period : Period) (link : σ) (world : ω)
    (turns : List (Turn ω)) :
    let scene : Scene τ σ ω := start settings period link world
    (handedOver (scene.calls turns)).flatMap Packet.payload ++
        (scene.after turns).radio.pending = contributed (scene.calls turns) ∧
      ∀ packet ∈ handedOver (scene.calls turns),
        packet.kind = .data ∧ packet.length ≤ maxPayload := by
  intro scene
  have hdata : scene.radio.HoldsData := nofun
  refine ⟨(scene.stream turns).symm, fun packet hmem => ?_⟩
  exact ⟨(scene.holdsData hdata turns).2 packet hmem, packet.length_le⟩

end Scene

end PacketRadio
