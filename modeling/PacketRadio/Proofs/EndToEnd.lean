import Mathlib.Algebra.Group.Nat.Defs
import PacketRadio.Proofs.Stream
import PacketRadio.Proofs.Wire
import PacketRadio.Transport.Immediate

/-!
# From the Sources to the Wire

What becomes of the bytes that enter a radio with the immediate transport and
a serial link.

Four layers stand between a source and the wire, and each of them has its own
account. The radio puts the bytes of its sources into packets and keeps the
last one for a while (`Scene.stream`). The transport gives every packet to the
link, once and at once, and counts how that went (`Immediate.Accounts`). The
link puts out what it accepts and drops what it refuses (`Scene.grows`). What
is left to show is that the accounts are about the same bytes: every payload
the link is given is the payload of a packet that was handed over, and a source
that writes what it reports has all its bytes taken.

A packet can get lost only where its payload meets the link, and the answer of
the link says so. Nothing is sent twice, and nothing is put in between.

## Main definitions

* `Call.produced`: The bytes that the sources wrote.
* `Call.accepted`, `Call.rejected`: How many payloads the link took and how
  many it did not.
* `Binding.Exact`: A source that writes exactly what it reports.
* `Immediate.Accounts`: What the immediate transport does with packets, and
  counts.

## Theorems

* `Immediate.course_transmit`, `Immediate.course_receive`: The exchanges of the
  immediate transport.
* `Radio.Turned.accounts`, `Scene.accounts`: The accounts of a turn and of a
  run.
* `Scene.produced_eq_contributed`: Exact sources have all their bytes taken.
* `Scene.produced_to_wire`: The accounts put together.
-/

namespace PacketRadio

variable {κ σ ω : Type}

namespace Call

/-- The bytes a source wrote into the buffer it was offered. -/
@[simp] def production : Call ω → List UInt8
  | .pull _ _ _ fill _ => fill.written
  | _ => []

/-- The bytes written by all sources, one pull after another. -/
def produced (calls : List (Call ω)) : List UInt8 := calls.flatMap production

/-- How many payloads the link took. -/
def accepted (calls : List (Call ω)) : Nat :=
  (sends calls).countP fun sent => sent.2.toBool

/-- How many payloads the link did not take. -/
def rejected (calls : List (Call ω)) : Nat :=
  (sends calls).countP fun sent => !sent.2.toBool

theorem produced_append (first second : List (Call ω)) :
    produced (first ++ second) = produced first ++ produced second :=
  List.flatMap_append

theorem accepted_append (first second : List (Call ω)) :
    accepted (first ++ second) = accepted first + accepted second := by
  rw [accepted, sends_append, List.countP_append]
  rfl

theorem rejected_append (first second : List (Call ω)) :
    rejected (first ++ second) = rejected first + rejected second := by
  rw [rejected, sends_append, List.countP_append]
  rfl

theorem production_eq_of_atJunction {call : Call ω} (h : call.AtJunction) :
    call.production = call.contribution := by
  cases call with
  | pull source offered before fill after => exact h.elim
  | _ => rfl

theorem produced_eq_contributed {calls : List (Call ω)}
    (h : ∀ call ∈ calls, call.production = call.contribution) :
    produced calls = contributed calls := by
  induction calls with
  | nil => rfl
  | cons call rest ih =>
      rcases List.forall_mem_cons.1 h with ⟨hcall, hrest⟩
      rw [produced, List.flatMap_cons, contributed_cons, hcall]
      exact congrArg _ (ih hrest)

end Call

open Call

/-- The source writes exactly as many bytes as it reports, and no more than it
    was offered room for. -/
def Binding.Exact (source : Binding (Source ω)) : Prop :=
  ∀ buffer before fill after, Possible (source.pull buffer before) (fill, after) →
    fill.count = fill.written.length ∧ fill.written.length ≤ buffer.length

/-- What an exact source claims is what it wrote. -/
theorem Binding.Exact.claimed_eq {source : Binding (Source ω)} (hexact : source.Exact)
    {buffer : List UInt8} {before after : Bool} {fill : Fill}
    (h : Possible (source.pull buffer before) (fill, after)) :
    fill.claimed buffer = fill.written := by
  rcases hexact buffer before fill after h with ⟨hcount, hroom⟩
  rw [Fill.claimed, Fill.contents, hcount, take_overlay _ _ (Nat.le_refl _) hroom,
    List.take_length]

namespace Immediate

/-- Through some calls, the transport gave every packet it was handed to the
    link, and counted the answers in words that wrap. -/
structure Accounts (transport : Immediate) (calls : List (Call ω)) (after : Immediate) :
    Prop where
  payloads_eq : (sends calls).map Prod.fst = (handedOver calls).map Packet.payload
  sent_eq : after.sent = transport.sent + UInt32.ofNat (accepted calls)
  failed_eq : after.failed = transport.failed + UInt32.ofNat (rejected calls)

variable {transport middle after : Immediate}

theorem Accounts.of_quiet {calls : List (Call ω)} (hover : handedOver calls = [])
    (hsends : sends calls = []) (hsent : after.sent = transport.sent)
    (hfailed : after.failed = transport.failed) : transport.Accounts calls after := by
  refine ⟨?_, ?_, ?_⟩
  · rw [hover, hsends]
    rfl
  · rw [accepted, hsends, hsent]
    exact (UInt32.add_zero _).symm
  · rw [rejected, hsends, hfailed]
    exact (UInt32.add_zero _).symm

theorem Accounts.append {first second : List (Call ω)} (hfirst : transport.Accounts first middle)
    (hsecond : middle.Accounts second after) : transport.Accounts (first ++ second) after := by
  refine ⟨?_, ?_, ?_⟩
  · rw [sends_append, handedOver_append, List.map_append, List.map_append, hfirst.payloads_eq,
      hsecond.payloads_eq]
  · rw [hsecond.sent_eq, hfirst.sent_eq, accepted_append, UInt32.ofNat_add, UInt32.add_assoc]
  · rw [hsecond.failed_eq, hfirst.failed_eq, rejected_append, UInt32.ofNat_add,
      UInt32.add_assoc]

theorem counts_of_lease {granted : Option Packet}
    (h : Possible (Transport.lease (ω := ω) transport) (granted, after)) :
    after.sent = transport.sent ∧ after.failed = transport.failed := by
  rcases h with ⟨world, hrun⟩
  have hlease : transport.lease = (granted, after) := hrun
  rw [lease] at hlease
  split at hlease <;> cases hlease <;> exact ⟨rfl, rfl⟩

theorem counts_endLease (transport : Immediate) :
    transport.endLease.sent = transport.sent ∧ transport.endLease.failed = transport.failed := by
  unfold endLease
  split <;> exact ⟨rfl, rfl⟩

variable [Link σ ω] {junction junction' : Junction σ ω} {calls : List (Call ω)}

/-- A packet that is handed over is sent once, and the answer is counted. -/
theorem course_transmit {packet : Packet}
    (h : (Transport.transmit (ω := ω) transport packet).Course junction calls after junction') :
    ∃ answer, calls = [.send packet.payload answer] ∧
      after = transport.endLease.record answer.toBool := by
  -- The exchange is one question to the link and an end.
  have hcourse : (Exchange.send packet fun accepted =>
      .done (transport.endLease.record accepted)).Course junction calls after junction' := h
  cases hcourse with
  | @send _ _ _ _ answer _ _ _ _ rest =>
      cases rest with
      | done => exact ⟨answer, rfl, rfl⟩

/-- A packet that comes in sends nothing and counts nothing. -/
theorem course_receive {packet : Packet}
    (h : (Transport.receive (ω := ω) transport packet).Course junction calls after junction') :
    sends calls = [] ∧ after = transport := by
  have hcourse : (transport.receive packet : Exchange ω Immediate).Course junction calls after
      junction' := h
  unfold receive at hcourse
  by_cases hpass : (packet.kind = .data && !packet.isEmpty) = true
  · rw [if_pos hpass] at hcourse
    have haccept : (Exchange.accept packet.payload (.done transport)).Course junction calls after
        junction' := hcourse
    cases haccept with
    | accept hdeliver rest =>
        cases rest with
        | done => exact ⟨by simp [hdeliver.link_eq.1], rfl⟩
  · rw [if_neg hpass] at hcourse
    have hdone : (Exchange.done transport).Course junction calls after junction' := hcourse
    cases hdone with
    | done => exact ⟨rfl, rfl⟩

theorem accounts_transmit (transport : Immediate) (packet : Packet)
    (answer : Except LinkError Unit) :
    transport.Accounts [(.transmit packet : Call ω), .send packet.payload answer]
      (transport.endLease.record answer.toBool) := by
  -- Whatever the answer, the lease is over first.
  rcases transport.counts_endLease with ⟨hsent, hfailed⟩
  cases answer with
  | ok _ =>
      refine ⟨rfl, ?_, ?_⟩
      · exact congrArg (· + 1) hsent
      · exact hfailed.trans (UInt32.add_zero _).symm
  | error _ =>
      refine ⟨rfl, ?_, ?_⟩
      · exact hsent.trans (UInt32.add_zero _).symm
      · exact congrArg (· + 1) hfailed

end Immediate

namespace Radio

section

variable {radio after : Radio Immediate σ ω} {calls : List (Call ω)}

theorem Fetched.accounts {fetched : Option Packet} {transport : Immediate}
    (h : radio.Fetched calls fetched transport) : radio.transport.Accounts calls transport := by
  have hcounts : transport.sent = radio.transport.sent ∧
      transport.failed = radio.transport.failed := by
    cases h with
    | held _ => exact ⟨rfl, rfl⟩
    | leased _ hlease => exact Immediate.counts_of_lease hlease
    | refused _ hlease => exact Immediate.counts_of_lease hlease
  exact .of_quiet h.stream.1 h.sends_eq_nil hcounts.1 hcounts.2

variable [Link σ ω]

theorem HandedOver.accounts {packet : Packet} (h : radio.HandedOver packet calls after) :
    radio.transport.Accounts calls after.transport := by
  rcases h with ⟨hcourse⟩
  rcases Immediate.course_transmit hcourse with ⟨answer, rfl, rfl⟩
  exact radio.transport.accounts_transmit packet answer

theorem Filled.accounts (h : radio.Filled calls after) :
    radio.transport.Accounts calls after.transport := by
  cases h with
  | unsourced _ => exact .of_quiet rfl rfl rfl rfl
  | unfetched _ hfetch => exact hfetch.accounts
  | kept _ hfetch _ _ => exact hfetch.accounts.append (.of_quiet rfl rfl rfl rfl)
  | @sent source calls more packet transport fill wish after _ hfetch _ _ hover =>
      have hpulled : transport.Accounts [Call.pull source packet.spare false fill wish]
          transport := .of_quiet rfl rfl rfl rfl
      have hsent := hover.accounts
      exact hfetch.accounts.append (hpulled.append hsent)

theorem Ticked.accounts {wish : Bool} (h : radio.Ticked calls wish after) :
    radio.transport.Accounts calls after.transport := by
  cases h with
  | waiting hservice _ =>
      exact .of_quiet hservice.quiet.1 hservice.sends_eq_nil rfl rfl
  | empty hservice _ _ =>
      exact .of_quiet hservice.quiet.1 hservice.sends_eq_nil rfl rfl
  | @flushed calls _ _ _ _ _ _ hservice _ _ hover =>
      have hserviced : radio.transport.Accounts calls radio.transport :=
        .of_quiet hservice.quiet.1 hservice.sends_eq_nil rfl rfl
      have hsent := hover.accounts
      exact hserviced.append hsent

theorem Turned.accounts {turn : Turn ω} {wish : Bool} (h : radio.Turned turn calls wish after) :
    radio.transport.Accounts calls after.transport := by
  cases h with
  | bindReceiver => exact .of_quiet rfl rfl rfl rfl
  | bindSource => exact .of_quiet rfl rfl rfl rfl
  | receiveReady => exact .of_quiet rfl rfl rfl rfl
  | setBaud => exact .of_quiet rfl rfl rfl rfl
  | transmitReady hfill => exact hfill.accounts
  | inbound hcourse =>
      rcases Immediate.course_receive hcourse with ⟨hsends, rfl⟩
      have hover := hcourse.quiet.1
      exact .of_quiet hover hsends rfl rfl
  | tick htick => exact htick.accounts

end

section

variable {τ : Type} [Transport τ ω] {radio after : Radio τ σ ω} {calls : List (Call ω)}

theorem Fetched.production_eq {fetched : Option Packet} {transport : τ}
    (h : radio.Fetched calls fetched transport) :
    ∀ call ∈ calls, call.production = call.contribution := by
  cases h with
  | held _ => exact nofun
  | leased _ _ => exact List.forall_mem_singleton.2 rfl
  | refused _ _ => exact List.forall_mem_singleton.2 rfl

variable [Link σ ω]

theorem HandedOver.production_eq {packet : Packet} (h : radio.HandedOver packet calls after) :
    ∀ call ∈ calls, call.production = call.contribution := by
  rcases h with ⟨hcourse⟩
  refine List.forall_mem_cons.2 ⟨rfl, fun call hmem => ?_⟩
  exact production_eq_of_atJunction (hcourse.atJunction call hmem)

theorem Filled.production_eq (hexact : ∀ source, radio.source = some source → source.Exact)
    (h : radio.Filled calls after) : ∀ call ∈ calls, call.production = call.contribution := by
  cases h with
  | unsourced _ => exact nofun
  | unfetched _ hfetch => exact hfetch.production_eq
  | kept hsource hfetch hpull _ =>
      -- The source that is pulled is the one that is bound.
      have hclaimed := (hexact _ hsource).claimed_eq hpull
      refine List.forall_mem_append.2 ⟨hfetch.production_eq, ?_⟩
      exact List.forall_mem_singleton.2 hclaimed.symm
  | sent hsource hfetch hpull _ hover =>
      have hclaimed := (hexact _ hsource).claimed_eq hpull
      refine List.forall_mem_append.2 ⟨hfetch.production_eq, ?_⟩
      exact List.forall_mem_cons.2 ⟨hclaimed.symm, hover.production_eq⟩

/-- With an exact source bound, a pull brings in what was written. -/
theorem Turned.production_eq {turn : Turn ω} {wish : Bool}
    (hexact : ∀ source, radio.source = some source → source.Exact)
    (h : radio.Turned turn calls wish after) :
    ∀ call ∈ calls, call.production = call.contribution := by
  cases h with
  | bindReceiver => exact nofun
  | bindSource => exact nofun
  | receiveReady => exact nofun
  | setBaud => exact nofun
  | transmitReady hfill => exact hfill.production_eq hexact
  | inbound hcourse =>
      refine List.forall_mem_cons.2 ⟨rfl, fun call hmem => ?_⟩
      exact production_eq_of_atJunction (hcourse.atJunction call hmem)
  | tick htick =>
      intro call hmem
      cases htick with
      | waiting hservice _ => exact production_eq_of_atJunction (hservice.atJunction call hmem)
      | empty hservice _ _ => exact production_eq_of_atJunction (hservice.atJunction call hmem)
      | flushed hservice _ _ hover =>
          rcases List.mem_append.1 hmem with hserviced | hleft
          · exact production_eq_of_atJunction (hservice.atJunction call hserviced)
          · exact hover.production_eq call hleft

/-- A source is bound by being asked for, and stays bound. -/
theorem Turned.source_eq {turn : Turn ω} {wish : Bool} (h : radio.Turned turn calls wish after)
    {source : Binding (Source ω)} (hsource : after.source = some source) :
    radio.source = some source ∨ turn = .request (.bindSource source) := by
  cases h with
  | bindReceiver => exact .inl hsource
  | bindSource => exact .inr (by rw [← Option.some.inj hsource])
  | receiveReady => exact .inl hsource
  | setBaud => exact .inl hsource
  | inbound _ => exact .inl hsource
  | transmitReady hfill =>
      cases hfill with
      | unsourced _ => exact .inl hsource
      | unfetched _ _ => exact .inl hsource
      | kept _ _ _ _ => exact .inl hsource
      | sent _ _ _ _ hover =>
          cases hover
          exact .inl hsource
  | tick htick =>
      cases htick with
      | waiting _ _ => exact .inl hsource
      | empty _ _ _ => exact .inl hsource
      | flushed _ _ _ hover =>
          cases hover
          exact .inl hsource

end

end Radio

namespace Scene

theorem accounts [Link σ ω] (scene : Scene Immediate σ ω) (turns : List (Turn ω)) :
    scene.radio.transport.Accounts (scene.calls turns) (scene.after turns).radio.transport := by
  induction turns using List.reverseRecOn with
  | nil => exact .of_quiet rfl rfl rfl rfl
  | append_singleton turns turn ih =>
      rw [after_append, calls_append]
      exact ih.append ((scene.after turns).turned turn).accounts

/-- Where only exact sources are bound, all that they write is brought in. -/
theorem produced_eq_contributed {τ : Type} [Transport τ ω] [Link σ ω] (scene : Scene τ σ ω)
    (hbound : ∀ source, scene.radio.source = some source → source.Exact) (turns : List (Turn ω))
    (hturns : ∀ source, .request (.bindSource source) ∈ turns → source.Exact) :
    produced (scene.calls turns) = contributed (scene.calls turns) ∧
      ∀ source, (scene.after turns).radio.source = some source → source.Exact := by
  induction turns using List.reverseRecOn with
  | nil => exact ⟨rfl, hbound⟩
  | append_singleton turns turn ih =>
      rcases ih fun source hmem => hturns source (List.mem_append_left _ hmem) with
        ⟨hsame, hexact⟩
      have hturned := (scene.after turns).turned turn
      refine ⟨?_, fun source hsource => ?_⟩
      · rw [calls_append, produced_append, contributed_append, hsame,
          Call.produced_eq_contributed (hturned.production_eq hexact)]
      · rw [after_append] at hsource
        -- The source was bound before, or in this turn.
        rcases hturned.source_eq hsource with hold | rfl
        · exact hexact source hold
        · exact hturns source (List.mem_append_right _ List.mem_cons_self)

/-- From a new radio on, with the immediate transport, a serial link over any
    honest channel, and sources that write what they report: the link is given
    the payloads of the packets that are handed over; these payloads, and the
    one in flight behind them, are all that the sources wrote; and the wire
    with the backlog behind it has grown by what the link made of each payload,
    which is all of it, or nothing if it was busy, or a front part if it
    faulted. The transport counts the two kinds of answer. -/
theorem produced_to_wire [Channel κ ω] {wire : κ → List UInt8}
    (honest : Channel.Honest fun channel (_ : ω) => wire channel) (settings : Settings)
    (period : Period) (channel : κ) (world : ω) (turns : List (Turn ω))
    (hexact : ∀ source, .request (.bindSource source) ∈ turns → source.Exact) :
    let fresh : Scene Immediate (SerialLink κ) ω :=
      start settings period (.ofChannel channel) world
    let calls := fresh.calls turns
    let radio := (fresh.after turns).radio
    let link := radio.junction.link
    (sends calls).map Prod.fst = (handedOver calls).map Packet.payload ∧
      ((sends calls).map Prod.fst).flatten ++ radio.pending = produced calls ∧
      (∃ parts, List.Forall₂ (fun sent part => SerialLink.Contributes (.send sent.1 sent.2) part)
          (sends calls) parts ∧
        wire link.channel ++ link.backlog.toList = wire channel ++ parts.flatten) ∧
      radio.transport.sent.toNat = accepted calls % 2 ^ 32 ∧
      radio.transport.failed.toNat = rejected calls % 2 ^ 32 := by
  intro fresh calls radio link
  have haccounts := fresh.accounts turns
  have hproduced := (fresh.produced_eq_contributed nofun turns hexact).1
  rcases fresh.grows honest turns with ⟨parts, hparts, hwire⟩
  refine ⟨haccounts.payloads_eq, ?_, ⟨parts, hparts, ?_⟩, ?_, ?_⟩
  · -- What was given to the link is what was handed over, so the stream of the
    -- radio is the stream of the link.
    rw [haccounts.payloads_eq, ← List.flatMap_def, hproduced]
    exact (fresh.stream turns).symm
  · -- A new link owes its channel nothing.
    have hnew : fresh.radio.junction.link.outgoing wire = wire channel := List.append_nil _
    rw [hnew] at hwire
    exact hwire
  · have hsent : radio.transport.sent = UInt32.ofNat (accepted calls) :=
      haccounts.sent_eq.trans (UInt32.zero_add _)
    rw [hsent, UInt32.toNat_ofNat']
  · have hfailed : radio.transport.failed = UInt32.ofNat (rejected calls) :=
      haccounts.failed_eq.trans (UInt32.zero_add _)
    rw [hfailed, UInt32.toNat_ofNat']

/-- Of two packets of two bytes one goes out, and of the other the first byte
    does before the channel faults. A fifth byte is still in flight. -/
theorem produced_to_wire_scripted :
    let source : Binding (Source UInt8) :=
      ⟨fun _ buffer wish next =>
        ((⟨[next].take buffer.length, min 1 buffer.length⟩, wish), next + 1), 0⟩
    let turns : List (Turn UInt8) := .request (.bindSource source) ::
      List.replicate 5 (.request (.transmitReady 16)) ++ [.tick]
    let fresh : Scene Immediate (SerialLink ScriptedChannel) UInt8 :=
      start ⟨100, 2, 1, 1, 0⟩ Period.standard
        (.ofChannel ⟨[some 1, some 0, some 1, some 1, none], []⟩) 1
    let calls := fresh.calls turns
    let radio := (fresh.after turns).radio
    let link := radio.junction.link
    produced calls = [1, 2, 3, 4, 5] ∧
      sends calls = [([1, 2], .ok ()), ([3, 4], .error .io)] ∧ radio.pending = [5] ∧
      link.channel.written = [1, 2, 3] ∧ link.backlog.toList = [] ∧
      (∃ parts, List.Forall₂ (fun sent part => SerialLink.Contributes (.send sent.1 sent.2) part)
          (sends calls) parts ∧
        link.channel.written ++ link.backlog.toList = [] ++ parts.flatten) ∧
      radio.transport.sent.toNat = accepted calls % 2 ^ 32 ∧
      radio.transport.failed.toNat = rejected calls % 2 ^ 32 := by
  intro source turns
  have hexact : source.Exact := by
    rintro buffer before fill after ⟨next, hpull⟩
    cases hpull
    have hlen : ([next].take buffer.length).length = min 1 buffer.length := by
      rw [List.length_take, Nat.min_comm]
      rfl
    exact ⟨hlen.symm, hlen ▸ Nat.min_le_right 1 buffer.length⟩
  have hbound : ∀ bound, .request (.bindSource bound) ∈ turns → bound.Exact := by
    intro bound hmem
    -- Only one turn binds a source.
    have hsame : bound = source := by simpa [turns] using hmem
    exact hsame ▸ hexact
  refine ⟨by decide +kernel, by decide +kernel, by decide +kernel, by decide +kernel,
    by decide +kernel, ?_⟩
  exact (produced_to_wire ScriptedChannel.honest _ _ _ _ turns hbound).2.2

end Scene

end PacketRadio
