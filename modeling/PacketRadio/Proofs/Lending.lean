import Mathlib.Data.Finset.Card
import Mathlib.Data.Finset.Range
import Mathlib.Data.List.Induction
import PacketRadio.Proofs.Window

/-!
# Lending without a Radio

What the immediate transport's count of leases means to a client who is no radio.

A radio holds one packet at a time, so the window hardly matters to it. Another client
may keep as many packets as it is granted, give them back in any order, and hand in
packets that were never lent. The transport does not know one packet from another. It
counts up when it lends and down when a packet is given back, and stops at zero.

The client is a desk to which dealings are brought. What is said about the count
alone holds for any dealings. What the count means is a matter between the packets
and their loans, of which the transport sees nothing: each loan has a number, and a
packet that is given back is told by the number of its loan, if it ever was lent. As
long as every packet that is given back is out on loan (`Faithful`), the count is the
number of packets out. It is the guard of the lease that keeps the count from going
round, and it is faithfulness that keeps it from stopping at zero.

## Main definitions

* `HookCall`, `Hooks.recorded`: Calls of hooks, and hooks that write them down.
* `Desk`, `Dealing`, `Desk.run`: A client of the transport, and what it does.
* `Dealt`: What was done, and what came of it.
* `verdicts`: What the send hook said to each packet.
* `lent`, `outstanding`: Loans, and the ones that are still out.
* `Faithful`: Whatever was given back was out on loan.

## Theorems

* `Immediate.lease_eq`, `Immediate.toNat_leased_endLease`: The count as a number.
* `Desk.deal_transmit`: The send hook is called once.
* `outstanding_lend`, `outstanding_return`: A loan begins and ends.
* `Desk.Balances.kept`, `Desk.Balances.transmit`: The books of a desk, where nothing
  is given back and where a packet is.
* `Desk.Balances.deal`, `Desk.balances_run`: So they balance whatever is done.
* `Desk.lending`: What the count of leases means.
-/

namespace PacketRadio

variable {π ω : Type}

/-- A call of a hook. To send a packet has an answer. -/
inductive HookCall where
  | send (packet : Packet) (accepted : Bool)
  | accept (data : List UInt8)
  | setBaud (rate : UInt32)
deriving DecidableEq

/-- The answer of the send hook. -/
def HookCall.verdict? : HookCall → Option Bool
  | .send _ accepted => some accepted
  | _ => none

/-- Hooks that write down how they are called. -/
def Hooks.recorded (hooks : Hooks π ω) : Hooks π (Recorded HookCall ω) where
  send place packet := do
    let (accepted, place) ← Recorded.lift (hooks.send place packet)
    Recorded.note (.send packet accepted)
    return (accepted, place)
  accept place data := do
    let place ← Recorded.lift (hooks.accept place data)
    Recorded.note (.accept data)
    return place
  setBaud := hooks.setBaud.map fun change place rate => do
    let place ← Recorded.lift (change place rate)
    Recorded.note (.setBaud rate)
    return place

namespace Immediate

theorem toNat_window (transport : Immediate) :
    transport.window.toNat = max 1 transport.terms.window.toNat := by
  unfold window
  split
  · rename_i hzero
    rw [hzero]
    rfl
  · rename_i hzero
    have hpos : transport.terms.window.toNat ≠ 0 := fun h => hzero (UInt8.toNat.inj h)
    omega

/-- Whether a packet is lent, and how far the count goes up. -/
theorem lease_eq (transport : Immediate) :
    transport.lease.1 =
        (if transport.leased.toNat < transport.window.toNat then some Packet.blank else none) ∧
      transport.lease.2 = { transport with leased := transport.lease.2.leased } ∧
      transport.lease.2.leased.toNat =
        transport.leased.toNat + transport.lease.1.toList.length := by
  by_cases hroom : transport.leased < transport.window
  · have hlt := UInt8.lt_iff_toNat_lt.1 hroom
    -- The window is a byte, so below it the count has room for one more.
    have hword := transport.window.toNat_lt
    rw [lease_of_lt_window hroom, if_pos hlt]
    refine ⟨rfl, rfl, ?_⟩
    show (transport.leased + 1).toNat = transport.leased.toNat + 1
    rw [UInt8.toNat_add, UInt8.toNat_one]
    omega
  · have hfull := UInt8.not_lt.1 hroom
    rw [lease_of_window_le hfull, if_neg (Nat.not_lt.2 (UInt8.le_iff_toNat_le.1 hfull))]
    exact ⟨rfl, rfl, rfl⟩

/-- The count goes down by one, and not below zero. -/
theorem toNat_leased_endLease (transport : Immediate) :
    transport.endLease.leased.toNat = transport.leased.toNat - 1 := by
  unfold endLease
  split
  · rename_i hzero
    rw [hzero]
    rfl
  · rename_i hzero
    have hpos : transport.leased.toNat ≠ 0 := fun h => hzero (UInt8.toNat.inj h)
    have hle : (1 : UInt8) ≤ transport.leased := UInt8.le_iff_toNat_le.2 (Nat.pos_of_ne_zero hpos)
    exact UInt8.toNat_sub_of_le _ _ hle

/-- A packet that is given back is counted as sent or as failed. -/
theorem record_endLease (transport : Immediate) (accepted : Bool) :
    let after := transport.endLease.record accepted
    after.terms = transport.terms ∧
      after.sent.toNat = (transport.sent.toNat + [accepted].count true) % 2 ^ 32 ∧
      after.failed.toNat = (transport.failed.toNat + [accepted].count false) % 2 ^ 32 := by
  have hsent := transport.sent.toNat_lt
  have hfailed := transport.failed.toNat_lt
  have hend : transport.endLease = { transport with leased := transport.endLease.leased } := by
    unfold endLease
    split <;> rfl
  rw [hend]
  cases accepted with
  | true => exact ⟨rfl, UInt32.toNat_add _ _, (Nat.mod_eq_of_lt hfailed).symm⟩
  | false => exact ⟨rfl, (Nat.mod_eq_of_lt hsent).symm, UInt32.toNat_add _ _⟩

end Immediate

/-- What can be brought to a desk. -/
inductive Dealing where
  | lease
  /-- Give a packet back. It is told by the number of its loan, if it was lent. -/
  | transmit (loan : Option Nat) (packet : Packet)
  | receive (packet : Packet)
deriving DecidableEq

/-- The loan that a dealing ends. -/
def Dealing.loan? : Dealing → Option Nat
  | .transmit loan _ => loan
  | _ => none

/-- The dealing gives a packet back. -/
def Dealing.gives : Dealing → Bool
  | .transmit _ _ => true
  | _ => false

/-- What was done at a desk, and what came of it. -/
structure Dealt where
  dealing : Dealing
  granted : Option Packet
  /-- The calls of hooks on the way. -/
  hooked : List HookCall
deriving DecidableEq

/-- A client of the immediate transport, and the place where its hooks lead to. -/
structure Desk (π ω : Type) where
  transport : Immediate
  place : π
  world : ω

namespace Desk

/-- A desk with a new transport. -/
def opened (terms : Terms) (place : π) (world : ω) : Desk π ω :=
  let (transport, world) := Transport.start terms world
  ⟨transport, place, world⟩

/-- The hook calls in an exchange: what is recorded if the hooks are. -/
def hooked (desk : Desk π ω) (hooks : Hooks π ω)
    (exchange : Exchange (Recorded HookCall ω) Immediate) : List HookCall :=
  Recorded.record (exchange.run hooks.recorded desk.place) desk.world

/-- The desk after an exchange. -/
def after (desk : Desk π ω) (hooks : Hooks π ω) (exchange : Exchange ω Immediate) : Desk π ω :=
  let ((transport, place), world) := exchange.run hooks desk.place desk.world
  ⟨transport, place, world⟩

/-- Do what is asked at a desk. -/
def deal (hooks : Hooks π ω) (desk : Desk π ω) (dealing : Dealing) : Dealt × Desk π ω :=
  match dealing with
  | .lease =>
    let ((granted, transport), world) := Transport.lease desk.transport desk.world
    (⟨dealing, granted, []⟩, { desk with transport, world })
  | .transmit _ packet =>
    (⟨dealing, none, desk.hooked hooks (Transport.transmit desk.transport packet)⟩,
      desk.after hooks (Transport.transmit desk.transport packet))
  | .receive packet =>
    (⟨dealing, none, desk.hooked hooks (Transport.receive desk.transport packet)⟩,
      desk.after hooks (Transport.receive desk.transport packet))

/-- Do one thing after another. The history comes in its order. -/
def run (hooks : Hooks π ω) (desk : Desk π ω) : List Dealing → List Dealt × Desk π ω
  | [] => ([], desk)
  | dealing :: rest =>
    let (dealt, desk) := desk.deal hooks dealing
    let (history, desk) := desk.run hooks rest
    (dealt :: history, desk)

variable (hooks : Hooks π ω) (desk : Desk π ω)

theorem run_concat (dealings : List Dealing) (dealing : Dealing) :
    desk.run hooks (dealings ++ [dealing]) =
      let (history, desk) := desk.run hooks dealings
      let (dealt, desk) := desk.deal hooks dealing
      (history ++ [dealt], desk) := by
  induction dealings generalizing desk with
  | nil => rfl
  | cons first rest ih =>
      simp only [List.cons_append, run, ih]

/-- A packet that is given back is put before the send hook, once and as it is, and
    its lease is over whatever the hook says. -/
theorem deal_transmit (loan : Option Nat) (packet : Packet) :
    let sent := hooks.send desk.place packet desk.world
    desk.deal hooks (.transmit loan packet) =
      (⟨.transmit loan packet, none, [.send packet sent.1.1]⟩,
        ⟨desk.transport.endLease.record sent.1.1, sent.1.2, sent.2⟩) := rfl

/-- A packet that came in is no matter of leases, and nothing is sent for it. -/
theorem deal_receive (packet : Packet) :
    ∃ calls after, desk.deal hooks (.receive packet) = (⟨.receive packet, none, calls⟩, after) ∧
      calls.filterMap HookCall.verdict? = [] ∧ after.transport = desk.transport := by
  refine ⟨_, _, rfl, ?_⟩
  unfold hooked Desk.after
  simp only [Transport.receive, Immediate.receive]
  -- Data is passed on to the hook for what is accepted, and nothing else is passed on.
  split
  · exact ⟨rfl, rfl⟩
  · exact ⟨rfl, rfl⟩

theorem map_dealing_run (dealings : List Dealing) :
    (desk.run hooks dealings).1.map Dealt.dealing = dealings := by
  induction dealings generalizing desk with
  | nil => rfl
  | cons dealing rest ih =>
      have hfirst : (desk.deal hooks dealing).1.dealing = dealing := by cases dealing <;> rfl
      simp only [run, List.map_cons, hfirst, ih]

end Desk

/-- What the send hook said to each packet, in their order. -/
def verdicts (history : List Dealt) : List Bool :=
  (history.flatMap Dealt.hooked).filterMap HookCall.verdict?

/-- How many packets were lent. -/
def lent (history : List Dealt) : Nat := history.countP fun dealt => dealt.granted.isSome

/-- The loans that were ended. -/
def returned (history : List Dealt) : List Nat :=
  history.filterMap fun dealt => dealt.dealing.loan?

/-- The loans that are still out. They are numbered in their order. -/
def outstanding (history : List Dealt) : Finset Nat :=
  Finset.range (lent history) \ (returned history).toFinset

/-- If the dealing gives a packet back, it is one that is out. -/
def Dealing.Due (out : Finset Nat) : Dealing → Prop
  | .transmit loan _ => ∃ number ∈ out, loan = some number
  | _ => True

instance (out : Finset Nat) (dealing : Dealing) : Decidable (dealing.Due out) :=
  match dealing with
  | .lease => .isTrue trivial
  | .transmit loan _ => inferInstanceAs (Decidable (∃ number ∈ out, loan = some number))
  | .receive _ => .isTrue trivial

/-- Whatever was given back was out at the time. -/
def Faithful (history : List Dealt) : Prop :=
  ∀ time, (h : time < history.length) →
    history[time].dealing.Due (outstanding (history.take time))

instance (history : List Dealt) : Decidable (Faithful history) :=
  inferInstanceAs (Decidable (∀ time, (h : time < history.length) →
    history[time].dealing.Due (outstanding (history.take time))))

section

variable (history : List Dealt) (dealt : Dealt)

theorem faithful_concat :
    Faithful (history ++ [dealt]) ↔
      Faithful history ∧ dealt.dealing.Due (outstanding history) := by
  have hlength : (history ++ [dealt]).length = history.length + 1 := List.length_append
  constructor
  · intro h
    refine ⟨fun time htime => ?_, ?_⟩
    · have hearlier := h time (by omega)
      rw [List.getElem_append_left htime, List.take_append_of_le_length (by omega)] at hearlier
      exact hearlier
    · have hlast := h history.length (by omega)
      rw [List.getElem_concat_length rfl, List.take_left] at hlast
      exact hlast
  · rintro ⟨hearlier, hlast⟩ time htime
    -- It is a time in the history before, or that of the new dealing.
    by_cases hlt : time < history.length
    · rw [List.getElem_append_left hlt, List.take_append_of_le_length (by omega)]
      exact hearlier time hlt
    · have hend : time = history.length := by omega
      subst hend
      rw [List.getElem_concat_length rfl, List.take_left]
      exact hlast

theorem verdicts_concat :
    verdicts (history ++ [dealt]) =
      verdicts history ++ dealt.hooked.filterMap HookCall.verdict? := by
  rw [verdicts, List.flatMap_append, List.filterMap_append, List.flatMap_singleton]
  rfl

theorem lent_concat : lent (history ++ [dealt]) = lent history + dealt.granted.toList.length := by
  rw [lent, List.countP_append, List.countP_singleton]
  cases dealt.granted <;> rfl

theorem returned_concat :
    returned (history ++ [dealt]) = returned history ++ dealt.dealing.loan?.toList := by
  rw [returned, List.filterMap_append, List.filterMap_cons, List.filterMap_nil]
  cases dealt.dealing.loan? <;> rfl

variable {history dealt}

/-- A loan begins. No loan with its number has ended before. -/
theorem outstanding_lend (hold : ∀ number ∈ returned history, number < lent history)
    (hgranted : dealt.granted.isSome = true) (hloan : dealt.dealing.loan? = none) :
    outstanding (history ++ [dealt]) = insert (lent history) (outstanding history) := by
  rcases Option.isSome_iff_exists.1 hgranted with ⟨packet, hpacket⟩
  have hnew : lent history ∉ (returned history).toFinset := fun hmem =>
    Nat.lt_irrefl _ (hold _ (List.mem_toFinset.1 hmem))
  rw [outstanding, lent_concat, returned_concat, hpacket, hloan]
  show Finset.range (lent history + 1) \ (returned history ++ []).toFinset = _
  rw [List.append_nil, Finset.range_add_one, Finset.insert_sdiff_of_notMem _ hnew]
  rfl

/-- A loan ends. -/
theorem outstanding_return {number : Nat} (hgranted : dealt.granted = none)
    (hloan : dealt.dealing.loan? = some number) :
    outstanding (history ++ [dealt]) = (outstanding history).erase number := by
  rw [outstanding, lent_concat, returned_concat, hgranted, hloan]
  ext other
  simp only [outstanding, Option.toList, List.length_nil, Nat.add_zero, Finset.mem_sdiff,
    List.mem_toFinset, List.mem_append, List.mem_singleton, Finset.mem_erase]
  tauto

theorem outstanding_idle (hgranted : dealt.granted = none) (hloan : dealt.dealing.loan? = none) :
    outstanding (history ++ [dealt]) = outstanding history := by
  rw [outstanding, lent_concat, returned_concat, hgranted, hloan]
  show Finset.range (lent history + 0) \ (returned history ++ []).toFinset = _
  rw [List.append_nil]
  rfl

end

namespace Desk

/-- What the counts of a transport have to do with the history at its desk. -/
structure Balances (terms : Terms) (history : List Dealt) (desk : Desk π ω) : Prop where
  terms_eq : desk.transport.terms = terms
  leased_le : desk.transport.leased.toNat ≤ max 1 terms.window.toNat
  sent_eq : desk.transport.sent.toNat = (verdicts history).count true % 2 ^ 32
  failed_eq : desk.transport.failed.toNat = (verdicts history).count false % 2 ^ 32
  verdicts_eq : (verdicts history).length = history.countP fun dealt => dealt.dealing.gives
  -- Without this a number could be used twice.
  returned_lt : Faithful history → ∀ number ∈ returned history, number < lent history
  leased_eq : Faithful history → desk.transport.leased.toNat = (outstanding history).card

variable {terms : Terms} {history : List Dealt} {desk : Desk π ω}

theorem balances_opened (terms : Terms) (place : π) (world : ω) :
    (opened terms place world).Balances terms [] where
  terms_eq := rfl
  leased_le := Nat.zero_le _
  sent_eq := rfl
  failed_eq := rfl
  verdicts_eq := rfl
  returned_lt _ := nofun
  leased_eq _ := rfl

theorem Balances.window_eq (h : desk.Balances terms history) :
    desk.transport.window.toNat = max 1 terms.window.toNat := by
  rw [Immediate.toNat_window, h.terms_eq]

/-- Where nothing is given back, the count goes up by the packet that is lent, if one is. -/
theorem Balances.kept (h : desk.Balances terms history) {dealt : Dealt} {after : Desk π ω}
    (hgives : dealt.dealing.gives = false) (hloan : dealt.dealing.loan? = none)
    (hquiet : dealt.hooked.filterMap HookCall.verdict? = [])
    (hrest : after.transport = { desk.transport with leased := after.transport.leased })
    (hle : after.transport.leased.toNat ≤ max 1 terms.window.toNat)
    (hcount : after.transport.leased.toNat =
      desk.transport.leased.toNat + dealt.granted.toList.length) :
    after.Balances terms (history ++ [dealt]) := by
  have hverdicts : verdicts (history ++ [dealt]) = verdicts history := by
    rw [verdicts_concat, hquiet, List.append_nil]
  refine ⟨?_, hle, ?_, ?_, ?_, fun hfaithful => ?_, fun hfaithful => ?_⟩
  · rw [hrest]
    exact h.terms_eq
  · rw [hverdicts, hrest]
    exact h.sent_eq
  · rw [hverdicts, hrest]
    exact h.failed_eq
  · rw [hverdicts, h.verdicts_eq, List.countP_append, List.countP_singleton, hgives]
    rfl
  · have hearlier := ((faithful_concat _ _).1 hfaithful).1
    rw [returned_concat, lent_concat, hloan, Option.toList_none, List.append_nil]
    exact fun number hmem => Nat.lt_add_right _ (h.returned_lt hearlier number hmem)
  · have hearlier := ((faithful_concat _ _).1 hfaithful).1
    rw [hcount, h.leased_eq hearlier]
    cases hgranted : dealt.granted with
    | none =>
        rw [outstanding_idle hgranted hloan]
        rfl
    | some packet =>
        -- The number of the new loan is the first one that was never given.
        have hnew : lent history ∉ outstanding history := fun hmem =>
          Finset.notMem_range_self (Finset.mem_sdiff.1 hmem).1
        have hsome : dealt.granted.isSome = true := by rw [hgranted]; rfl
        rw [outstanding_lend (h.returned_lt hearlier) hsome hloan,
          Finset.card_insert_of_notMem hnew]
        rfl

theorem Balances.lease (h : desk.Balances terms history) (hooks : Hooks π ω) :
    (desk.deal hooks .lease).2.Balances terms (history ++ [(desk.deal hooks .lease).1]) := by
  rcases desk.transport.lease_eq with ⟨hgranted, hrest, hcount⟩
  refine h.kept rfl rfl rfl hrest ?_ hcount
  show desk.transport.lease.2.leased.toNat ≤ _
  have hle := h.leased_le
  have hwindow := h.window_eq
  -- It is the guard of the lease that keeps the count within the window.
  rw [hcount, hgranted]
  split
  · show desk.transport.leased.toNat + 1 ≤ _
    omega
  · exact hle

theorem Balances.transmit (h : desk.Balances terms history) (hooks : Hooks π ω)
    (loan : Option Nat) (packet : Packet) :
    (desk.deal hooks (.transmit loan packet)).2.Balances terms
      (history ++ [(desk.deal hooks (.transmit loan packet)).1]) := by
  rw [deal_transmit]
  generalize hooks.send desk.place packet desk.world = sent
  have hverdicts : verdicts (history ++ [⟨.transmit loan packet, none, [.send packet sent.1.1]⟩]) =
      verdicts history ++ [sent.1.1] := verdicts_concat _ _
  have hleased : (desk.transport.endLease.record sent.1.1).leased.toNat =
      desk.transport.leased.toNat - 1 := by
    rw [Immediate.leased_record, Immediate.toNat_leased_endLease]
  rcases Immediate.record_endLease desk.transport sent.1.1 with ⟨hterms, hsent, hfailed⟩
  refine ⟨hterms.trans h.terms_eq, ?_, ?_, ?_, ?_, fun hfaithful => ?_, fun hfaithful => ?_⟩
  · have hle := h.leased_le
    rw [hleased]
    omega
  · rw [hverdicts, List.count_append, hsent, h.sent_eq]
    omega
  · rw [hverdicts, List.count_append, hfailed, h.failed_eq]
    omega
  · rw [hverdicts, List.length_append, h.verdicts_eq, List.countP_append]
    rfl
  · rcases (faithful_concat _ _).1 hfaithful with ⟨hearlier, number, hout, hloan⟩
    cases hloan
    rw [returned_concat, lent_concat]
    refine List.forall_mem_append.2 ⟨h.returned_lt hearlier, List.forall_mem_singleton.2 ?_⟩
    exact Finset.mem_range.1 (Finset.mem_sdiff.1 hout).1
  · rcases (faithful_concat _ _).1 hfaithful with ⟨hearlier, number, hout, hloan⟩
    cases hloan
    -- The loan was out, so the count was not at zero, and both go down by one.
    rw [hleased, h.leased_eq hearlier, outstanding_return rfl rfl, Finset.card_erase_of_mem hout]

theorem Balances.receive (h : desk.Balances terms history) (hooks : Hooks π ω) (packet : Packet) :
    (desk.deal hooks (.receive packet)).2.Balances terms
      (history ++ [(desk.deal hooks (.receive packet)).1]) := by
  rcases desk.deal_receive hooks packet with ⟨calls, after, hdeal, hquiet, hsame⟩
  rw [hdeal]
  refine h.kept rfl rfl hquiet ?_ ?_ ?_
  · rw [hsame]
  · rw [hsame]
    exact h.leased_le
  · rw [hsame]
    rfl

/-- Whatever is done at a desk, its books still balance. -/
theorem Balances.deal (h : desk.Balances terms history) (hooks : Hooks π ω) (dealing : Dealing) :
    (desk.deal hooks dealing).2.Balances terms (history ++ [(desk.deal hooks dealing).1]) := by
  cases dealing with
  | lease => exact h.lease hooks
  | transmit loan packet => exact h.transmit hooks loan packet
  | receive packet => exact h.receive hooks packet

theorem balances_run (terms : Terms) (hooks : Hooks π ω) (place : π) (world : ω)
    (dealings : List Dealing) :
    let ended := (opened terms place world).run hooks dealings
    ended.2.Balances terms ended.1 := by
  induction dealings using List.reverseRecOn with
  | nil => exact balances_opened terms place world
  | append_singleton dealings dealing ih =>
      rw [run_concat]
      exact ih.deal hooks dealing

/-- What the count of leases means.

    Take a new transport on any terms, with any hooks, and anything done with it in
    any order. It has lent no more packets than its window, which is one at least, by
    its own count, and it lends another one if the count is below the window and only
    then. Every packet that is given back is put before the send hook once, as it is,
    and the count goes down by one whatever the hook says, or stays at zero if it is
    there. The packets that the hook took and those that it refused are counted, in
    words that wrap, and there are as many as were given back.

    If, moreover, every packet that was given back was out on loan at the time, then
    the count is the number of packets that are still out. So there are no more of them
    than the window holds, and a lease is granted if and only if there are fewer. -/
theorem lending (terms : Terms) (hooks : Hooks π ω) (place : π) (world : ω)
    (dealings : List Dealing) :
    let window := max 1 terms.window.toNat
    let ended := (opened terms place world).run hooks dealings
    let history := ended.1
    let desk := ended.2
    let leased := desk.transport.leased.toNat
    let asked := desk.deal hooks .lease
    leased ≤ window ∧
      asked.1.granted = (if leased < window then some Packet.blank else none) ∧
      asked.2.transport.leased.toNat = leased + asked.1.granted.toList.length ∧
      (∀ loan packet,
        let given := desk.deal hooks (.transmit loan packet)
        (∃ accepted, given.1.hooked = [.send packet accepted]) ∧
          given.2.transport.leased.toNat = leased - 1) ∧
      desk.transport.sent.toNat = (verdicts history).count true % 2 ^ 32 ∧
      desk.transport.failed.toNat = (verdicts history).count false % 2 ^ 32 ∧
      (verdicts history).length = dealings.countP Dealing.gives ∧
      (Faithful history →
        leased = (outstanding history).card ∧
          (outstanding history).card ≤ window ∧
          (asked.1.granted.isSome ↔ (outstanding history).card < window)) := by
  intro window ended history desk leased asked
  have hbalances : desk.Balances terms history := balances_run terms hooks place world dealings
  have hdealings : history.map Dealt.dealing = dealings :=
    (opened terms place world).map_dealing_run hooks dealings
  rcases desk.transport.lease_eq with ⟨hgranted, -, hcount⟩
  rw [hbalances.window_eq] at hgranted
  have hverdicts : (verdicts history).length = dealings.countP Dealing.gives := by
    rw [hbalances.verdicts_eq]
    conv_rhs => rw [← hdealings, List.countP_map]
    rfl
  refine ⟨hbalances.leased_le, hgranted, hcount, fun loan packet => ?_, hbalances.sent_eq,
    hbalances.failed_eq, hverdicts, fun hfaithful => ?_⟩
  · refine ⟨⟨_, rfl⟩, ?_⟩
    rw [deal_transmit, Immediate.leased_record, Immediate.toNat_leased_endLease]
  · have hleased := hbalances.leased_eq hfaithful
    refine ⟨hleased, hleased ▸ hbalances.leased_le, ?_⟩
    have hasked : asked.1.granted = _ := hgranted
    rw [hasked, ← hleased]
    split
    · rename_i hlt
      exact ⟨fun _ => hlt, fun _ => rfl⟩
    · rename_i hfull
      exact ⟨nofun, fun hlt => absurd hlt hfull⟩

/-- Two packets fill the window, the first one to come back is refused by the hook, and
    its place is lent again. They come back in another order than they were lent. -/
theorem lending_refused :
    let terms : Terms := ⟨2, 1, 0, false⟩
    let hooks : Hooks Unit (List Bool) :=
      ⟨fun place _ script => ((script.headD true, place), script.tail), fun place _ => pure place,
        none⟩
    let dealings : List Dealing :=
      [.lease, .lease, .lease, .transmit (some 1) (.ofPayload .data [7]),
        .receive (.ofPayload .data [8]), .lease, .transmit (some 0) Packet.blank]
    let ended := (opened terms () [false]).run hooks dealings
    Faithful ended.1 ∧
      ended.1.map (fun dealt => dealt.granted.isSome) =
        [true, true, false, false, false, true, false] ∧
      verdicts ended.1 = [false, true] ∧
      outstanding ended.1 = {2} ∧
      ended.2.transport.leased.toNat = 1 ∧
      (ended.2.deal hooks .lease).1.granted.isSome := by
  intro terms hooks dealings ended
  have hfaithful : Faithful ended.1 := by decide +kernel
  have hgranted : ended.1.map (fun dealt => dealt.granted.isSome) =
      [true, true, false, false, false, true, false] := by
    decide +kernel
  have hverdicts : verdicts ended.1 = [false, true] := by decide +kernel
  have hout : outstanding ended.1 = {2} := by decide +kernel
  -- What the dealings are has been used, and would only be computed again.
  clear_value dealings
  rcases lending terms hooks () [false] dealings with ⟨-, -, -, -, -, -, -, hmeans⟩
  rcases hmeans hfaithful with ⟨hleased, -, hgrants⟩
  have hcard : (outstanding ended.1).card = 1 := by rw [hout, Finset.card_singleton]
  refine ⟨hfaithful, hgranted, hverdicts, hout, hleased.trans hcard, hgrants.2 ?_⟩
  exact hcard.trans_lt (Nat.lt_succ_self 1)

end Desk

end PacketRadio
