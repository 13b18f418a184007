import Mathlib.Data.List.Induction
import PacketRadio.Proofs.Stream

/-!
# The Custody of Packets

Who has a packet, from its lease to its end.

A packet belongs to the transport until it is granted and again from the moment
it is handed over, and in between it is the packet in flight. A radio has room
for one, so the calls of a radio follow a simple pattern. Where nothing is in
flight a packet may be asked for; where one is in flight it may be filled, and
it may be handed over, after which nothing is in flight. `Custody` is this
pattern. It speaks of every call that concerns a packet, and every rule of
`Conduct` obeys it.

What is said about leases follows from the pattern alone. Each of the packets
that were granted was handed over once, in the order in which they were
granted, except that the last one may still be in flight (`Custody.batches`).
Every pull went into the packet that was in flight then. The packet that is
handed over is the one that was granted, started over and filled by its pulls,
so nobody else has touched it, and no later pull can.

## Main definitions

* `Call.leases`, `Call.granted`: What the transport answered when it was asked
  for packets, and the packets among these answers.
* `Call.pulls`, `Call.fills`: Who was asked for bytes, and what came of it.
* `Turn.announces`: The turns that say that there is room to transmit.
* `Packet.absorbAll`: A packet after several pulls.
* `Custody`: Packets are lent, filled and handed over one at a time.

## Theorems

* `Custody.batches`, `Custody.length_granted`: Every packet that was granted is
  handed over once and in its order, or is in flight.
* `Radio.Turned.custody`: A turn obeys the pattern.
* `Radio.Turned.length_leases`: When a packet is asked for.
* `Radio.Turned.length_handedOver_le`: A turn hands over one packet at most.
* `Radio.Turned.of_refused`: A refusal changes nothing.
* `Scene.lease_conservation`: All of this, for every run of a new radio.
-/

namespace PacketRadio

variable {τ σ ω : Type}

namespace Call

/-- The answer of a transport that is asked for a packet. -/
@[simp] def lease? : Call ω → Option (Option Packet)
  | .lease answer => some answer
  | _ => none

/-- The source that is asked for bytes, and what it did. -/
@[simp] def pull? : Call ω → Option (Binding (Source ω) × Fill)
  | .pull source _ _ fill _ => some (source, fill)
  | _ => none

/-- The answers to all requests for packets. -/
def leases (calls : List (Call ω)) : List (Option Packet) := calls.filterMap lease?

/-- The packets that were granted. -/
def granted (calls : List (Call ω)) : List Packet := (leases calls).filterMap id

/-- Who was asked for bytes. -/
def pulls (calls : List (Call ω)) : List (Binding (Source ω)) :=
  (calls.filterMap pull?).map Prod.fst

/-- What the sources did when they were asked. -/
def fills (calls : List (Call ω)) : List Fill := (calls.filterMap pull?).map Prod.snd

section

variable (first second : List (Call ω))

theorem leases_append : leases (first ++ second) = leases first ++ leases second :=
  List.filterMap_append

theorem pulls_append : pulls (first ++ second) = pulls first ++ pulls second := by
  rw [pulls, List.filterMap_append, List.map_append]
  rfl

end

/-- At a junction nobody asks for packets or for bytes. -/
theorem leases_of_atJunction {calls : List (Call ω)} (h : ∀ call ∈ calls, call.AtJunction) :
    leases calls = [] ∧ pulls calls = [] := by
  have hlease : calls.filterMap lease? = [] := by
    refine List.filterMap_eq_nil_iff.2 fun call hmem => ?_
    have hjunction := h call hmem
    cases call with
    | lease answer => exact hjunction.elim
    | _ => rfl
  have hpull : calls.filterMap pull? = [] := by
    refine List.filterMap_eq_nil_iff.2 fun call hmem => ?_
    have hjunction := h call hmem
    cases call with
    | pull source offered before fill after => exact hjunction.elim
    | _ => rfl
  exact ⟨hlease, by rw [pulls, hpull]; rfl⟩

end Call

open Call

/-- The turn says that there is room to transmit. -/
def Turn.announces : Turn ω → Bool
  | .request (.transmitReady _) => true
  | _ => false

/-- A packet after several pulls, of which each left something in its spare. -/
def Packet.absorbAll (packet : Packet) (fills : List Fill) : Packet := fills.foldl absorb packet

/-- Through some calls, packets change hands one at a time. The packet in flight
    before the calls is given, and the one in flight after them. -/
inductive Custody : Option Packet → List (Call ω) → Option Packet → Prop where
  | nil {slot : Option Packet} : Custody slot [] slot
  | refused {calls : List (Call ω)} {after : Option Packet} (rest : Custody none calls after) :
      Custody none (.lease none :: calls) after
  -- Whatever the transport left in the packet, it is started over.
  | lent {packet : Packet} {calls : List (Call ω)} {after : Option Packet}
      (rest : Custody (some (packet.reset .data)) calls after) :
      Custody none (.lease (some packet) :: calls) after
  -- A source is offered the spare of the packet in flight.
  | filled {source : Binding (Source ω)} {packet : Packet} {fill : Fill} {wish : Bool}
      {calls : List (Call ω)} {after : Option Packet}
      (rest : Custody (some (packet.absorb fill)) calls after) :
      Custody (some packet) (.pull source packet.spare false fill wish :: calls) after
  | left {packet : Packet} {calls : List (Call ω)} {after : Option Packet}
      (rest : Custody none calls after) :
      Custody (some packet) (.transmit packet :: calls) after
  | inbound {slot : Option Packet} {packet : Packet} {calls : List (Call ω)}
      {after : Option Packet} (rest : Custody slot calls after) :
      Custody slot (.inbound packet :: calls) after
  | atJunction {slot : Option Packet} {call : Call ω} {calls : List (Call ω)}
      {after : Option Packet} (hcall : call.AtJunction) (rest : Custody slot calls after) :
      Custody slot (call :: calls) after

namespace Custody

variable {slot middle after : Option Packet} {calls : List (Call ω)}

theorem append {more : List (Call ω)} (h : Custody slot calls middle)
    (hmore : Custody middle more after) : Custody slot (calls ++ more) after := by
  induction h with
  | nil => exact hmore
  | refused _ ih => exact .refused (ih hmore)
  | lent _ ih => exact .lent (ih hmore)
  | filled _ ih => exact .filled (ih hmore)
  | left _ ih => exact .left (ih hmore)
  | inbound _ ih => exact .inbound (ih hmore)
  | atJunction hcall _ ih => exact .atJunction hcall (ih hmore)

theorem of_atJunction (h : ∀ call ∈ calls, call.AtJunction) : Custody slot calls slot := by
  induction calls with
  | nil => exact .nil
  | cons call rest ih =>
      rcases List.forall_mem_cons.1 h with ⟨hcall, hrest⟩
      exact .atJunction hcall (ih hrest)

/-- The pulls fall into batches, one for each packet, and a packet that was
    handed over is the granted one with its batch. The last batch may belong
    to a packet that is still in flight. -/
theorem batches (h : Custody slot calls after) :
    ∃ batches, batches.flatten = fills calls ∧
      batches.length = slot.toList.length + (granted calls).length ∧
      handedOver calls ++ after.toList =
        List.zipWith Packet.absorbAll
          (slot.toList ++ (granted calls).map fun packet => packet.reset .data) batches := by
  induction h with
  | @nil slot =>
      cases slot with
      | none => exact ⟨[], rfl, rfl, rfl⟩
      | some packet => exact ⟨[[]], rfl, rfl, rfl⟩
  | refused _ ih => exact ih
  | @lent _ calls _ _ ih =>
      -- The slot takes the packet, so it moves from one list to the other.
      rcases ih with ⟨batches, hfills, hlength, hpackets⟩
      refine ⟨batches, hfills, hlength.trans ?_, hpackets⟩
      show 1 + (granted calls).length = 0 + ((granted calls).length + 1)
      omega
  | filled _ ih =>
      rcases ih with ⟨_ | ⟨batch, batches⟩, hfills, hlength, hpackets⟩
      · rw [List.length_nil, Option.toList_some, List.length_singleton] at hlength
        omega
      · exact ⟨(_ :: batch) :: batches, congrArg _ hfills, hlength, hpackets⟩
  | @left _ calls _ _ ih =>
      rcases ih with ⟨batches, hfills, hlength, hpackets⟩
      refine ⟨[] :: batches, hfills, ?_, congrArg _ hpackets⟩
      rw [List.length_cons, hlength]
      show 0 + (granted calls).length + 1 = 1 + (granted calls).length
      omega
  | inbound _ ih => exact ih
  | @atJunction _ call _ _ hcall _ ih =>
      cases call with
      | lease _ => exact hcall.elim
      | transmit _ => exact hcall.elim
      | inbound _ => exact hcall.elim
      | pull _ _ _ _ _ => exact hcall.elim
      | accept _ => exact ih
      | deliver _ _ _ _ _ => exact ih
      | send _ _ => exact ih
      | receive _ _ => exact ih
      | poll _ => exact ih

theorem length_granted (h : Custody slot calls after) :
    slot.toList.length + (granted calls).length =
      (handedOver calls).length + after.toList.length := by
  rcases h.batches with ⟨batches, -, hlength, hpackets⟩
  have hcount := congrArg List.length hpackets
  rw [List.length_append, List.length_zipWith, List.length_append, List.length_map] at hcount
  omega

end Custody

namespace Radio

variable [Transport τ ω] {radio after : Radio τ σ ω} {calls : List (Call ω)}

theorem Fetched.custody {fetched : Option Packet} {transport : τ}
    (h : radio.Fetched calls fetched transport) : Custody radio.inFlight calls fetched := by
  cases h with
  | held hslot => exact hslot ▸ .nil
  | leased hslot _ => exact hslot ▸ .lent .nil
  | refused hslot _ => exact hslot ▸ .refused .nil

variable [Link σ ω]

theorem HandedOver.custody {packet : Packet} (h : radio.HandedOver packet calls after) :
    Custody (some packet) calls none := by
  rcases h with ⟨hcourse⟩
  exact .left (.of_atJunction hcourse.atJunction)

theorem Filled.custody (h : radio.Filled calls after) :
    Custody radio.inFlight calls after.inFlight := by
  cases h with
  | unsourced _ => exact .nil
  | unfetched _ hfetch => exact hfetch.custody
  | kept _ hfetch _ _ => exact hfetch.custody.append (.filled .nil)
  | @sent _ _ _ _ _ _ _ handed _ hfetch _ _ hover =>
      have hempty : handed.inFlight = none := hover.stream.2.2
      exact hempty ▸ hfetch.custody.append (.filled hover.custody)

theorem Ticked.custody {wish : Bool} (h : radio.Ticked calls wish after) :
    Custody radio.inFlight calls after.inFlight := by
  cases h with
  | waiting hservice _ => exact .of_atJunction hservice.atJunction
  | empty hservice _ _ => exact .of_atJunction hservice.atJunction
  | flushed hservice _ hslot hover =>
      rw [hslot, hover.stream.2.2]
      exact (Custody.of_atJunction hservice.atJunction).append hover.custody

/-- A turn obeys the pattern. -/
theorem Turned.custody {turn : Turn ω} {wish : Bool} (h : radio.Turned turn calls wish after) :
    Custody radio.inFlight calls after.inFlight := by
  cases h with
  | bindReceiver => exact .nil
  | bindSource => exact .nil
  | receiveReady => exact .nil
  | setBaud => exact .nil
  | transmitReady hfill => exact hfill.custody
  | inbound hcourse => exact .inbound (.of_atJunction hcourse.atJunction)
  | tick htick => exact htick.custody

omit [Link σ ω] in
theorem Fetched.leases {fetched : Option Packet} {transport : τ}
    (h : radio.Fetched calls fetched transport) :
    (leases calls).length = (if radio.inFlight.isNone then 1 else 0) ∧ pulls calls = [] ∧
      (fetched ≠ none → none ∉ leases calls) := by
  cases h with
  | held hslot => rw [hslot]; exact ⟨rfl, rfl, fun _ => nofun⟩
  | leased hslot _ => rw [hslot]; exact ⟨rfl, rfl, fun _ => nofun⟩
  | refused hslot _ => rw [hslot]; exact ⟨rfl, rfl, fun hsome => absurd rfl hsome⟩

theorem HandedOver.leases {packet : Packet} (h : radio.HandedOver packet calls after) :
    leases calls = [] ∧ pulls calls = [] := by
  rcases h with ⟨hcourse⟩
  have hquiet := leases_of_atJunction hcourse.atJunction
  exact hquiet

theorem Ticked.leases {wish : Bool} (h : radio.Ticked calls wish after) :
    leases calls = [] ∧ pulls calls = [] := by
  cases h with
  | waiting hservice _ => exact leases_of_atJunction hservice.atJunction
  | empty hservice _ _ => exact leases_of_atJunction hservice.atJunction
  | flushed hservice _ _ hover =>
      rw [leases_append, pulls_append, (leases_of_atJunction hservice.atJunction).1,
        (leases_of_atJunction hservice.atJunction).2]
      exact hover.leases

/-- With a source bound and nothing in flight, one packet is asked for. -/
theorem Filled.length_leases (h : radio.Filled calls after) :
    (leases calls).length = if radio.source.isSome && radio.inFlight.isNone then 1 else 0 := by
  cases h with
  | unsourced hsource => rw [hsource]; rfl
  | unfetched hsource hfetch => rw [hsource]; exact hfetch.leases.1
  | kept hsource hfetch _ _ =>
      rw [hsource, leases_append]
      exact (congrArg List.length (List.append_nil _)).trans hfetch.leases.1
  | sent hsource hfetch _ _ hover =>
      have hleft := hover.leases.1
      rw [hsource, leases_append]
      refine (congrArg List.length ?_).trans hfetch.leases.1
      exact (congrArg _ hleft).trans (List.append_nil _)

/-- When a packet is asked for, and how often. -/
theorem Turned.length_leases {turn : Turn ω} {wish : Bool}
    (h : radio.Turned turn calls wish after) :
    (leases calls).length =
      if turn.announces && radio.source.isSome && radio.inFlight.isNone then 1 else 0 := by
  cases h with
  | bindReceiver => rfl
  | bindSource => rfl
  | receiveReady => rfl
  | setBaud => rfl
  | transmitReady hfill => exact hfill.length_leases
  | inbound hcourse => exact congrArg List.length (leases_of_atJunction hcourse.atJunction).1
  | tick htick => exact congrArg List.length htick.leases.1

/-- A turn hands over one packet at most. -/
theorem Turned.length_handedOver_le {turn : Turn ω} {wish : Bool}
    (h : radio.Turned turn calls wish after) : (handedOver calls).length ≤ 1 := by
  cases h with
  | bindReceiver => exact Nat.zero_le 1
  | bindSource => exact Nat.zero_le 1
  | receiveReady => exact Nat.zero_le 1
  | setBaud => exact Nat.zero_le 1
  | inbound hcourse =>
      have hnone := hcourse.quiet.1
      simp [hnone]
  | transmitReady hfill =>
      cases hfill with
      | unsourced _ => exact Nat.zero_le 1
      | unfetched _ hfetch => simp [hfetch.stream.1]
      | kept _ hfetch _ _ => simp [hfetch.stream.1]
      | sent _ hfetch _ _ hover => simp [hfetch.stream.1, hover.stream.1]
  | tick htick =>
      cases htick with
      | waiting hservice _ => simp [hservice.quiet.1]
      | empty hservice _ _ => simp [hservice.quiet.1]
      | flushed hservice _ _ hover => simp [hservice.quiet.1, hover.stream.1]

/-- Where no packet is granted, that was the only call, and the radio is as it
    was. -/
theorem Turned.of_refused {turn : Turn ω} {wish : Bool} (h : radio.Turned turn calls wish after)
    (hrefused : none ∈ leases calls) :
    calls = [.lease none] ∧ ∃ transport, after = { radio with transport } := by
  cases h with
  | bindReceiver => exact nomatch hrefused
  | bindSource => exact nomatch hrefused
  | receiveReady => exact nomatch hrefused
  | setBaud => exact nomatch hrefused
  | @inbound _ calls _ _ hcourse =>
      have hasked : none ∈ leases calls := hrefused
      rw [(leases_of_atJunction hcourse.atJunction).1] at hasked
      exact nomatch hasked
  | tick htick =>
      rw [htick.leases.1] at hrefused
      exact nomatch hrefused
  | transmitReady hfill =>
      cases hfill with
      | unsourced _ => exact nomatch hrefused
      | @unfetched _ _ transport _ hfetch =>
          cases hfetch with
          | refused hslot _ => exact ⟨rfl, transport, hslot ▸ rfl⟩
      | kept _ hfetch _ _ =>
          rw [leases_append, List.mem_append] at hrefused
          rcases hrefused with hfetched | hpulled
          · exact absurd hfetched (hfetch.leases.2.2 nofun)
          · exact nomatch hpulled
      | @sent _ _ more _ _ _ _ _ _ hfetch _ _ hover =>
          rw [leases_append, List.mem_append] at hrefused
          rcases hrefused with hfetched | hleft
          · exact absurd hfetched (hfetch.leases.2.2 nofun)
          · have hasked : none ∈ leases more := hleft
            rw [hover.leases.1] at hasked
            exact nomatch hasked

end Radio

namespace Scene

variable [Transport τ ω] [Link σ ω]

theorem custody (scene : Scene τ σ ω) (turns : List (Turn ω)) :
    Custody scene.radio.inFlight (scene.calls turns) (scene.after turns).radio.inFlight := by
  induction turns using List.reverseRecOn with
  | nil => exact .nil
  | append_singleton turns turn ih =>
      rw [after_append, calls_append]
      exact ih.append ((scene.after turns).turned turn).custody

/-- Packets are leased, filled and handed over one at a time.

    From a new radio on, and for any transport, the calls follow the pattern of
    custody. As many packets were granted as were handed over or are in flight,
    and those are the granted ones in their order, each with its batch of the
    pulls. A turn asks for a packet once, if there is room to transmit, a source
    and nothing in flight, and not at all otherwise; it hands over one at most.
    If no packet is granted, the radio calls nobody else in that turn, and it
    keeps everything but the state of its transport, which is not its own. -/
theorem lease_conservation (settings : Settings) (period : Period) (link : σ) (world : ω)
    (turns : List (Turn ω)) :
    let fresh : Scene τ σ ω := start settings period link world
    let calls := fresh.calls turns
    let radio := (fresh.after turns).radio
    Custody none calls radio.inFlight ∧
      (granted calls).length = (handedOver calls).length + radio.inFlight.toList.length ∧
      (∃ batches, batches.flatten = fills calls ∧ batches.length = (granted calls).length ∧
        handedOver calls ++ radio.inFlight.toList =
          List.zipWith Packet.absorbAll ((granted calls).map fun packet => packet.reset .data)
            batches) ∧
      ∀ turn,
        let next := (fresh.after turns).calls [turn]
        (leases next).length =
            (if turn.announces && radio.source.isSome && radio.inFlight.isNone then 1 else 0) ∧
          (handedOver next).length ≤ 1 ∧
          (none ∈ leases next → next = [.lease none] ∧
            ∃ transport, (fresh.after (turns ++ [turn])).radio = { radio with transport }) := by
  intro fresh calls radio
  have hcustody : Custody none calls radio.inFlight := fresh.custody turns
  have hcount := hcustody.length_granted
  rcases hcustody.batches with ⟨batches, hfills, hlength, hpackets⟩
  rw [Option.toList_none, List.length_nil, Nat.zero_add] at hcount hlength
  refine ⟨hcustody, hcount, ⟨batches, hfills, hlength, hpackets⟩, fun turn => ?_⟩
  have hturned := (fresh.after turns).turned turn
  refine ⟨hturned.length_leases, hturned.length_handedOver_le, fun hrefused => ?_⟩
  rw [after_append]
  exact hturned.of_refused hrefused

end Scene

end PacketRadio
