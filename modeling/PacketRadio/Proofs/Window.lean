import PacketRadio.Proofs.Custody
import PacketRadio.Proofs.EndToEnd
import PacketRadio.Proofs.Journal

/-!
# The Window of the Immediate Transport

The immediate transport never keeps its radio waiting.

A transport may refuse a packet, and then a radio that has room to transmit
and a source to pull from does nothing at all. The immediate transport refuses
when its window is used up, so whether it ever does is a matter of its count of
leases. A radio asks for a packet only where it holds none, and it gives every
packet back. As long as the count is one while a packet is in flight and zero
while none is (`Radio.Balanced`), a radio that asks finds the window empty, and
a window has room for one packet whatever the settings say.

That the count is right is an invariant of single turns. It rests on a lease
being over also when the link refuses the packet, and on the count being taken
back once only. The counts of packets sent and failed go by the answers of the
link, of which there is one for each packet (`Immediate.Accounts`), so in words
that wrap they add up to the packets handed over.

All of this is true of every radio of every station, whoever else is in it,
since a radio that is found under a handle has lived through turns and nothing
else (`Radio.Lived`).

## Main definitions

* `Radio.Balanced`: The transport counts one lease for a packet in flight.

## Theorems

* `Radio.Fetched.lends`, `Radio.HandedOver.ends`: A lease begins and ends.
* `Radio.Turned.balanced`, `Radio.Turned.pulls_eq`: Turns keep the balance, and
  then nothing is refused.
* `Radio.Lived.balanced`, `Radio.Lived.accounts`: What follows for a radio at
  any time.
* `Station.never_starved`: No radio of a station is kept waiting.
-/

namespace PacketRadio

variable {σ ω : Type}

open Call

namespace Immediate

variable {transport after : Immediate} {granted : Option Packet}

/-- Where nothing is lent, a packet is lent. -/
theorem lends_of_leased_eq_zero (hzero : transport.leased = 0)
    (h : Possible (Transport.lease (ω := ω) transport) (granted, after)) :
    granted = some Packet.blank ∧ after.leased = 1 := by
  rcases h with ⟨world, hrun⟩
  have hlease : transport.lease = (granted, after) := hrun
  have hroom : transport.leased < transport.window := by
    rw [UInt8.lt_iff_toNat_lt, hzero]
    exact transport.one_le_window
  rw [lease_of_lt_window hroom, hzero] at hlease
  cases hlease
  exact ⟨rfl, rfl⟩

theorem leased_record (transport : Immediate) (accepted : Bool) :
    (transport.record accepted).leased = transport.leased := by
  cases accepted <;> rfl

/-- The only lease ends once, and it ends. -/
theorem leased_endLease (hone : transport.leased = 1) : transport.endLease.leased = 0 := by
  have hne : transport.leased ≠ 0 := by
    rw [hone]
    decide
  rw [endLease, if_neg hne, hone]
  rfl

end Immediate

namespace Radio

variable {radio after : Radio Immediate σ ω} {calls : List (Call ω)}

/-- The transport counts one lease if a packet is in flight, and none if none is. -/
def Balanced (radio : Radio Immediate σ ω) : Prop :=
  radio.transport.leased = if radio.inFlight.isSome then 1 else 0

/-- A packet is got hold of, and it is the only one that is lent. -/
theorem Fetched.lends {fetched : Option Packet} {transport : Immediate}
    (hbalanced : radio.Balanced) (h : radio.Fetched calls fetched transport) :
    fetched ≠ none ∧ transport.leased = 1 := by
  rw [Balanced] at hbalanced
  cases h with
  | held hslot =>
      rw [hslot] at hbalanced
      exact ⟨nofun, hbalanced⟩
  | leased hslot hlease =>
      rw [hslot] at hbalanced
      exact ⟨nofun, (Immediate.lends_of_leased_eq_zero hbalanced hlease).2⟩
  | refused hslot hlease =>
      rw [hslot] at hbalanced
      exact nomatch (Immediate.lends_of_leased_eq_zero hbalanced hlease).1

variable [Link σ ω]

/-- A packet that is handed over is not lent any longer, whether or not the link
    took it. -/
theorem HandedOver.ends {packet : Packet} (h : radio.HandedOver packet calls after)
    (hone : radio.transport.leased = 1) : after.transport.leased = 0 := by
  rcases h with ⟨hcourse⟩
  rcases Immediate.course_transmit hcourse with ⟨answer, -, rfl⟩
  rw [Immediate.leased_record]
  exact Immediate.leased_endLease hone

theorem Filled.balanced (hbalanced : radio.Balanced) (h : radio.Filled calls after) :
    after.Balanced := by
  cases h with
  | unsourced _ => exact hbalanced
  | unfetched _ hfetch => exact absurd rfl (hfetch.lends hbalanced).1
  | kept _ hfetch _ _ => exact (hfetch.lends hbalanced).2
  | @sent _ _ _ _ _ _ _ left _ hfetch _ _ hover =>
      have hempty : left.inFlight = none := hover.stream.2.2
      have hended : left.transport.leased = 0 := hover.ends (hfetch.lends hbalanced).2
      rw [Balanced, hended, hempty]
      rfl

theorem Ticked.balanced {wish : Bool} (hbalanced : radio.Balanced)
    (h : radio.Ticked calls wish after) : after.Balanced := by
  cases h with
  | waiting _ _ => exact hbalanced
  | empty _ _ _ => exact hbalanced
  | flushed _ _ hslot hover =>
      have hone : radio.transport.leased = 1 := by
        rw [Balanced, hslot] at hbalanced
        exact hbalanced
      have hempty : after.inFlight = none := hover.stream.2.2
      have hended : after.transport.leased = 0 := hover.ends hone
      rw [Balanced, hended, hempty]
      rfl

/-- A turn keeps the balance. -/
theorem Turned.balanced {turn : Turn ω} {wish : Bool} (hbalanced : radio.Balanced)
    (h : radio.Turned turn calls wish after) : after.Balanced := by
  cases h with
  | bindReceiver => exact hbalanced
  | bindSource => exact hbalanced
  | receiveReady => exact hbalanced
  | setBaud => exact hbalanced
  | transmitReady hfill => exact hfill.balanced hbalanced
  | inbound hcourse =>
      -- What comes in is no matter of leases.
      rcases Immediate.course_receive hcourse with ⟨-, rfl⟩
      exact hbalanced
  | tick htick => exact htick.balanced hbalanced

/-- Where there is room to transmit, the source is pulled, and once. -/
theorem Filled.pulls_eq (hbalanced : radio.Balanced) (h : radio.Filled calls after) :
    pulls calls = radio.source.toList ∧ none ∉ leases calls := by
  cases h with
  | unsourced hsource =>
      rw [hsource]
      exact ⟨rfl, nofun⟩
  | unfetched _ hfetch => exact absurd rfl (hfetch.lends hbalanced).1
  | kept hsource hfetch _ _ =>
      rcases hfetch.leases with ⟨-, hquiet, hgranted⟩
      rw [hsource, pulls_append, hquiet, leases_append]
      refine ⟨rfl, fun hrefused => ?_⟩
      rcases List.mem_append.1 hrefused with hfetched | hpulled
      · exact hgranted nofun hfetched
      · exact nomatch hpulled
  | @sent source calls more packet _ fill wish _ hsource hfetch _ _ hover =>
      rcases hfetch.leases with ⟨-, hquiet, hgranted⟩
      have hpulls : pulls (.pull source packet.spare false fill wish :: more) = [source] := by
        show source :: pulls more = [source]
        rw [hover.leases.2]
      have hleases : leases (.pull source packet.spare false fill wish :: more) = [] := by
        show leases more = []
        rw [hover.leases.1]
      rw [hsource, pulls_append, leases_append, hquiet, hpulls, hleases, List.append_nil]
      exact ⟨rfl, hgranted nofun⟩

/-- Whatever turn is taken, no packet is refused. -/
theorem Turned.none_not_mem_leases {turn : Turn ω} {wish : Bool} (hbalanced : radio.Balanced)
    (h : radio.Turned turn calls wish after) : none ∉ leases calls := by
  intro hrefused
  cases h with
  | bindReceiver => exact nomatch hrefused
  | bindSource => exact nomatch hrefused
  | receiveReady => exact nomatch hrefused
  | setBaud => exact nomatch hrefused
  | transmitReady hfill => exact (hfill.pulls_eq hbalanced).2 hrefused
  | @inbound _ calls _ _ hcourse =>
      have hasked : none ∈ leases calls := hrefused
      rw [(leases_of_atJunction hcourse.atJunction).1] at hasked
      exact nomatch hasked
  | tick htick =>
      rw [htick.leases.1] at hrefused
      exact nomatch hrefused

/-- A radio is in balance at any time, and it was never refused a packet. -/
theorem Lived.balanced (h : radio.Lived calls) : radio.Balanced ∧ none ∉ leases calls := by
  induction h with
  | started hstart =>
      rcases hstart with ⟨world, hrun⟩
      cases hrun
      exact ⟨rfl, nofun⟩
  | turned _ hturned ih =>
      rcases ih with ⟨hbalanced, hgranted⟩
      refine ⟨hturned.balanced hbalanced, ?_⟩
      rw [leases_append, List.mem_append]
      exact fun hrefused => hrefused.elim hgranted (hturned.none_not_mem_leases hbalanced)

/-- The counts of a radio are those of all that it ever handed over. -/
theorem Lived.accounts (h : radio.Lived calls) :
    ∃ terms, (Immediate.ofTerms terms).Accounts calls radio.transport := by
  induction h with
  | @started settings _ _ _ hstart =>
      rcases hstart with ⟨world, hrun⟩
      cases hrun
      exact ⟨terms settings, .of_quiet rfl rfl rfl rfl⟩
  | turned _ hturned ih =>
      rcases ih with ⟨terms, haccounts⟩
      exact ⟨terms, haccounts.append hturned.accounts⟩

end Radio

namespace Immediate

/-- Every packet that was handed over was counted once, as sent or as failed. -/
theorem Accounts.sent_add_failed {terms : Terms} {calls : List (Call ω)} {after : Immediate}
    (h : (ofTerms terms).Accounts calls after) :
    (after.sent.toNat + after.failed.toNat) % 2 ^ 32 = (handedOver calls).length % 2 ^ 32 := by
  have hsent : after.sent.toNat = accepted calls % 2 ^ 32 := by
    rw [h.sent_eq]
    exact congrArg UInt32.toNat (UInt32.zero_add _)
  have hfailed : after.failed.toNat = rejected calls % 2 ^ 32 := by
    rw [h.failed_eq]
    exact congrArg UInt32.toNat (UInt32.zero_add _)
  -- An answer is a success or it is not.
  have hall : accepted calls + rejected calls = (sends calls).length := by
    rw [List.length_eq_countP_add_countP fun sent : _ × Except LinkError Unit => sent.2.toBool]
    simp [accepted, rejected]
  have hsends : (sends calls).length = (handedOver calls).length := by
    rw [← List.length_map Prod.fst, h.payloads_eq, List.length_map]
  rw [hsent, hfailed, ← hsends, ← hall]
  omega

end Immediate

namespace Station

variable [Link σ ω] {tables capacity : Nat}

/-- A radio with the immediate transport is never kept waiting.

    Whatever happens to a station, every radio that is found under a handle
    afterwards has a transport that counts one lease if a packet is in flight
    and none otherwise. No request for a packet has ever been refused to it,
    and none is in its next turn either. If that turn says that there is room
    to transmit, the bound source is pulled once. The packets sent and those
    that failed add up to those the radio has handed over, in words that
    wrap. -/
theorem never_starved (timers : Vector (TickTable (Subscriber ω)) tables)
    (commands : List (Command tables σ ω)) (world : ω) (handle : Handle)
    (radio : Radio Immediate σ ω) :
    let fresh : Station tables capacity Immediate σ ω := ofTimers timers
    let calls := callsOf handle (fresh.journal commands world)
    (leaving (fresh.run commands) world).1.pool.radio? handle = some radio →
      radio.transport.leased = (if radio.inFlight.isSome then 1 else 0) ∧
      none ∉ leases calls ∧
      (∀ available world,
        let next := Scene.calls ⟨radio, world⟩ [.request (.transmitReady available)]
        none ∉ leases next ∧ pulls next = radio.source.toList) ∧
      (radio.transport.sent.toNat + radio.transport.failed.toNat) % 2 ^ 32 =
        (handedOver calls).length % 2 ^ 32 := by
  intro fresh calls hfound
  have hfresh : fresh.pool.Attested [] := Pool.attested_empty
  have hattested := attested_run hfresh commands world
  have hlived : radio.Lived calls :=
    hattested.lived handle radio (Pool.radio?_eq_some_iff.1 hfound).1
  rcases hlived.balanced with ⟨hbalanced, hgranted⟩
  rcases hlived.accounts with ⟨terms, haccounts⟩
  refine ⟨hbalanced, hgranted, ?_, haccounts.sent_add_failed⟩
  intro available world next
  have hturned := Scene.turned ⟨radio, world⟩ (.request (.transmitReady available))
  cases hturned with
  | transmitReady hfill =>
      rcases hfill.pulls_eq hbalanced with ⟨hpulls, hnext⟩
      exact ⟨hnext, hpulls⟩

/-- The link refuses the second packet, and the window is a window of zero. -/
theorem never_starved_refused :
    let source : Binding (Source UInt8) :=
      ⟨fun _ _ wish next => ((⟨[next], 1⟩, wish), next + 1), 0⟩
    let fresh : Station 1 1 Immediate (SerialLink ScriptedChannel) UInt8 :=
      ofTimers (Vector.replicate 1 TickTable.standard)
    let commands : List (Command 1 (SerialLink ScriptedChannel) UInt8) :=
      .start 0 ⟨100, 2, 0, 1, 0⟩ (.ofChannel ⟨[some 1, some 1, none], []⟩) ::
        .request ⟨0⟩ (.bindSource source) ::
        List.replicate 5 (.request ⟨0⟩ (.transmitReady 16))
    let calls := callsOf ⟨0⟩ (fresh.journal commands 1)
    ∃ radio, (leaving (fresh.run commands) 1).1.pool.radio? ⟨0⟩ = some radio ∧
      radio.transport = ⟨⟨0, 1, 0, false⟩, 1, 1, 1⟩ ∧
      (handedOver calls).map Packet.payload = [[1, 2], [3, 4]] ∧
      radio.transport.leased = (if radio.inFlight.isSome then 1 else 0) ∧
      none ∉ leases calls ∧
      (∀ available world,
        let next := Scene.calls ⟨radio, world⟩ [.request (.transmitReady available)]
        none ∉ leases next ∧ pulls next = radio.source.toList) ∧
      (radio.transport.sent.toNat + radio.transport.failed.toNat) % 2 ^ 32 =
        (handedOver calls).length % 2 ^ 32 := by
  intro source fresh commands calls
  have hview : ((leaving (fresh.run commands) 1).1.pool.radio? ⟨0⟩).map
      (fun radio => radio.transport) = some ⟨⟨0, 1, 0, false⟩, 1, 1, 1⟩ := by
    decide +kernel
  have hpayloads : (handedOver calls).map Packet.payload = [[1, 2], [3, 4]] := by
    decide +kernel
  -- What the commands are has been used, and would only be computed again.
  clear_value commands
  rcases Option.map_eq_some_iff.1 hview with ⟨radio, hfound, htransport⟩
  exact ⟨radio, hfound, htransport, hpayloads, never_starved _ commands 1 ⟨0⟩ radio hfound⟩

end Station

end PacketRadio
