import PacketRadio.Proofs.Alongside
import PacketRadio.Proofs.Reception
import PacketRadio.Proofs.Territory

/-!
# Resilience

What a failing link does to a radio.

A link can fail to send and can fail when it is polled. Neither is to be felt
anywhere but in the counts of the transport. To say so, two runs of the same
turns are compared, in which the links receive the same and fail as they like.
The links may be of different kinds, and what they do in the world is free as
far as the callbacks cannot tell (`Link.Spares`).

The two scenes go side by side in a pairing that takes any answer for any other
(`Immediate.regardless`), and the calls are compared up to the answers
(`Call.regardless`). What is left to do is at the ticks. It is known what came
in on the links in the end, and it must have been the same before each tick. As
a tick reads the link once (`Scene.chunks_tick`), that is a matter of counting
chunks, along the part of the run in which the scenes went side by side.

## Main definitions

* `Link.Spares`: Links that leave a part of the world alone.
* `Call.regardless`: A call up to the answer of a link.
* `Call.callbacks`: The calls to callbacks.
* `Immediate.Tallies`: Transports that differ in their counts alone.

## Theorems

* `Scene.chunks_tick`: What a tick drains.
* `Immediate.lawful_regardless`: The immediate transport goes on regardless.
* `Scene.undisturbed`: Failures of a link are felt in the counts of the transport,
  and nowhere else.
-/

namespace PacketRadio

variable {τ σ σ' ω α : Type}

open Call

/-- Whatever the links are asked, they leave a part of the world alone. -/
structure Link.Spares (σ : Type) [Link σ ω] (own : ω → α) : Prop where
  send (link : σ) (payload : List UInt8) (world : ω) :
    own (Link.send link payload world).2 = own world
  receive (link : σ) (buffer : List UInt8) (world : ω) :
    own (Link.receive link buffer world).2 = own world
  poll (link : σ) (world : ω) : own (Link.poll link world).2 = own world

namespace Call

/-- What can be said of a call without the answer of a link, other than the bytes
    that were received. -/
def regardless : Call ω → Call ω
  | .lease granted => .lease (granted.map fun packet => packet.reset .data)
  | .send payload _ => .send payload (.ok ())
  | .receive offered fill =>
    .receive offered ⟨fill.claimed offered, (fill.claimed offered).length⟩
  | .poll _ => .poll (.ok ())
  | call => call

/-- The call, if it is one to a callback. -/
def callback? : Call ω → Option (Call ω)
  | .pull source offered before fill after => some (.pull source offered before fill after)
  | .deliver sink data before taken after => some (.deliver sink data before taken after)
  | _ => none

/-- The calls to callbacks, with what they were told and what they answered. -/
def callbacks (calls : List (Call ω)) : List (Call ω) := calls.filterMap callback?

theorem chunk?_regardless (call : Call ω) : call.regardless.chunk? = call.chunk? := by
  cases call with
  | receive offered fill =>
      have hlength := fill.length_claimed offered
      refine congrArg some ?_
      exact (take_overlay offered _ (Nat.le_refl _) (by omega)).trans List.take_length
  | _ => rfl

theorem callback?_regardless (call : Call ω) : call.regardless.callback? = call.callback? := by
  cases call <;> rfl

/-- The payload that is given to the link, whatever it answers. -/
def payload? (call : Call ω) : Option (List UInt8) := call.sent?.map Prod.fst

theorem payload?_regardless (call : Call ω) : call.regardless.payload? = call.payload? := by
  cases call <;> rfl

end Call

namespace Junction

variable [Link σ ω]

/-- Where somebody receives, a drain begins with a question to the link. -/
theorem mirrors_drain_receive {junction : Junction σ ω} (hreceiver : junction.receiver ≠ none)
    (world : ω) :
    Mirrors (junction.observed.drain) junction.drain (Prod.map id observed) world
      fun _ calls => ∃ more,
        calls = .receive chunk (Link.receive junction.link chunk world).1.1 :: more := by
  have hplain : junction.receiver.isNone = false :=
    Option.isNone_eq_false_iff.2 (Option.isSome_iff_ne_none.2 hreceiver)
  have hobserved : junction.observed.receiver.isNone = false := by
    rw [observed, Option.isNone_map]
    exact hplain
  have hread : Mirrors (Link.receive (ω := Watched ω) (Observed.mk junction.link) chunk)
      (Link.receive junction.link chunk) Observed.answered world
      fun _ calls => calls = [.receive chunk (Link.receive junction.link chunk world).1.1] :=
    ⟨_, fun _ => rfl, rfl⟩
  simp only [drain, hplain, hobserved, Bool.false_eq_true, if_false]
  refine hread.bind fun answer calls hcalls => ?_
  refine (mirrors_deliver { junction with link := answer.2 } _ _).bind fun taken more _ => ?_
  refine Mirrors.pure (Prod.map id observed) (_, taken.2) ⟨more ++ [], ?_⟩
  rw [hcalls, List.singleton_append]

end Junction

namespace Radio

variable [Transport τ ω] [Link σ ω]

/-- Where somebody receives, the first chunk of a tick is what the link has. -/
theorem mirrors_tick_receive {radio : Radio τ σ ω} (hreceiver : radio.junction.receiver ≠ none)
    (world : ω) :
    Mirrors radio.observed.tick radio.tick (Prod.map id observed) world
      fun _ calls => ∃ more, chunks calls = radio.junction.intake world :: more := by
  rcases radio.junction.mirrors_poll world with ⟨polls, hpoll, answer, link, rfl, -, hpolled⟩
  have hpolled : Mirrors radio.observed.junction.poll radio.junction.poll Junction.observed world
      fun after calls => after = (radio.junction.poll world).1 ∧ calls = [.poll answer] :=
    ⟨_, hpoll, rfl, rfl⟩
  refine hpolled.bind fun polled first h => ?_
  rcases h with ⟨rfl, rfl⟩
  -- To be polled does not bind or unbind a receiver.
  have hstill : (radio.junction.poll world).1.receiver ≠ none := hreceiver
  refine (Junction.mirrors_drain_receive hstill _).bind fun drained calls h => ?_
  rcases h with ⟨more, rfl⟩
  rcases hcount : radio.countdown.tick with ⟨expired, countdown⟩
  have hobserved : radio.observed.countdown.tick = (expired, countdown) := hcount
  rw [hobserved]
  cases expired with
  | false =>
      refine Mirrors.pure (Prod.map id observed) (drained.2.takeYield.1,
        { radio with junction := drained.2.takeYield.2, countdown }) ?_
      exact ⟨chunks (more ++ []), rfl⟩
  | true =>
      refine (mirrors_flush { radio with junction := drained.2.takeYield.2, countdown } _).bind
        fun after last _ => ?_
      refine Mirrors.pure (Prod.map id observed) (drained.2.takeYield.1, after) ?_
      exact ⟨chunks (more ++ (last ++ [])), rfl⟩

end Radio

/-- Where somebody receives, a tick drains what the link has, and nothing else. -/
theorem Scene.chunks_tick [Transport τ ω] [Link σ ω] {scene : Scene τ σ ω}
    (hreceiver : scene.radio.junction.receiver ≠ none) :
    chunks (scene.calls [.tick]) = [scene.radio.junction.intake scene.world] := by
  rcases Radio.mirrors_tick_receive hreceiver scene.world with ⟨events, hrun, more, hchunks⟩
  have hcalls : scene.calls [.tick] = events := by
    show (scene.radio.observed.tick ⟨scene.world, []⟩).2.events = events
    rw [hrun []]
    rfl
  have hlength := (scene.turned .tick).reads.1
  rw [hcalls, hchunks, Option.isSome_iff_ne_none.2 hreceiver] at hlength
  rw [hcalls, hchunks, List.length_eq_zero_iff.1 (Nat.succ.inj hlength)]

namespace Immediate

theorem eq_of_rel {held held' : Option Packet} (h : Option.Rel Eq held held') : held = held' := by
  have hsame : held.map id = held'.map id := Pairing.map_eq_of_rel h
  rw [Option.map_id] at hsame
  exact hsame

/-- Two transports that were used alike, with links that answered differently. -/
structure Tallies (transport transport' : Immediate) : Prop where
  terms_eq : transport.terms = transport'.terms
  leased_eq : transport.leased = transport'.leased
  -- The words wrap, and so does their sum.
  total_eq : transport.sent + transport.failed = transport'.sent + transport'.failed

theorem total_record (transport : Immediate) (accepted : Bool) :
    (transport.record accepted).sent + (transport.record accepted).failed =
      transport.sent + transport.failed + 1 := by
  cases accepted with
  | true =>
      show transport.sent + 1 + transport.failed = _
      rw [UInt32.add_assoc, UInt32.add_comm 1, UInt32.add_assoc]
  | false => exact (UInt32.add_assoc _ _ _).symm

theorem Tallies.record {transport transport' : Immediate} (h : transport.Tallies transport')
    (accepted accepted' : Bool) :
    (transport.endLease.record accepted).Tallies (transport'.endLease.record accepted') := by
  have hended : transport.endLease.Tallies transport'.endLease := by
    unfold endLease
    rw [← h.leased_eq]
    split
    · exact h
    · exact { h with leased_eq := rfl }
  refine ⟨?_, ?_, ?_⟩
  · cases accepted <;> cases accepted' <;> exact hended.terms_eq
  · cases accepted <;> cases accepted' <;> exact hended.leased_eq
  · rw [total_record, total_record, hended.total_eq]

/-- Radios with the immediate transport, on links that may answer anything. -/
def regardless (own : ω → α) : Pairing Immediate Immediate σ σ' ω where
  worlds world world' := own world = own world'
  links _ _ := True
  transports := Tallies
  packets := Eq
  answers _ _ := True

variable {own : ω → α}

theorem sees_regardless :
    Pairing.Sees (regardless own : Pairing Immediate Immediate σ σ' ω) Call.regardless where
  lease h := congrArg Call.lease (eq_of_rel h)
  transmit h := congrArg Call.transmit h
  pull {source _ _ before after fill} h :=
    congrArg (fun packet : Packet => Call.pull source packet.spare before fill after) h
  send h _ := congrArg (fun packet : Packet => Call.send packet.payload (.ok ())) h
  receive h :=
    congrArg (fun bytes : List UInt8 => Call.receive Junction.chunk ⟨bytes, bytes.length⟩) h
  poll _ := rfl

theorem lawful_regardless [Link σ ω] [Link σ' ω] (hspares : Link.Spares σ own)
    (hspares' : Link.Spares σ' own) :
    (regardless own : Pairing Immediate Immediate σ σ' ω).Lawful where
  length_eq h := congrArg Packet.length h
  send _ _ hworlds := ⟨⟨trivial, trivial⟩,
    (hspares.send _ _ _).trans (Eq.trans hworlds (hspares'.send _ _ _).symm)⟩
  poll _ hworlds := ⟨⟨trivial, trivial⟩,
    (hspares.poll _ _).trans (Eq.trans hworlds (hspares'.poll _ _).symm)⟩
  read _ hworlds _ := ⟨trivial,
    (hspares.receive _ _ _).trans (Eq.trans hworlds (hspares'.receive _ _ _).symm)⟩
  start _ _ _ hworlds := ⟨⟨rfl, rfl, rfl⟩, hworlds⟩
  lease {transport transport' _ _} htransport hworlds := by
    refine ⟨?_, hworlds⟩
    have hwindow : transport'.window = transport.window := by
      unfold window
      rw [htransport.terms_eq]
    show Option.Rel Eq (transport.lease.1.map _) (transport'.lease.1.map _) ∧
      transport.lease.2.Tallies transport'.lease.2
    unfold Immediate.lease
    rw [hwindow, ← htransport.leased_eq]
    split
    · exact ⟨.some rfl, { htransport with leased_eq := rfl }⟩
    · exact ⟨.none, htransport⟩
  transmit htransport hpacket :=
    .send hpacket fun answer answer' _ => .done (htransport.record answer.toBool answer'.toBool)
  receive {transport transport'} packet htransport := by
    show (transport.receive packet).Alike _ _ (transport'.receive packet)
    unfold Immediate.receive
    split
    · exact .accept (.done htransport)
    · exact .done htransport

theorem steady_regardless {turn : Turn ω} (h : turn.Within own fun _ => ()) :
    (regardless own : Pairing Immediate Immediate σ σ' ω).SteadyTurn turn := by
  cases turn with
  | tick => trivial
  | request asked =>
      cases asked with
      | bindReceiver sink => exact fun data before {world world'} hworlds =>
          (h data before).alike hworlds
      | bindSource source =>
          intro packet packet' hpacket world world' hworlds
          rw [← show packet = packet' from hpacket]
          rcases (h packet.spare false).alike hworlds with ⟨hanswer, hown⟩
          exact ⟨⟨hanswer, rfl⟩, hown⟩
      | transmitReady available => trivial
      | receiveReady available => trivial
      | setBaud rate => trivial
      | inbound packet => trivial

end Immediate

namespace Scene

variable [Link σ ω] [Link σ' ω] {own : ω → α}

/-- Failures of a link are felt in the counts of the transport, and nowhere else.

    Two radios with the immediate transport are built alike and take the same
    turns. Their links may be of different kinds, and may answer as they like
    when they are asked to send or are polled, but call by call they have
    received the same. In the world they leave alone what the callbacks depend
    on, and what that is was the same to begin with. Then after every turn, the
    links have been given the same payloads, the callbacks have been called in
    the same way and with the same outcome, and the same yields were asked for.
    The radios do not differ in anything but their links and the counts of
    packets sent and of packets failed, and these have the same sum, in words
    that wrap. -/
theorem undisturbed (hspares : Link.Spares σ own) (hspares' : Link.Spares σ' own)
    (settings : Settings) (period : Period) (link : σ) (link' : σ') {world world' : ω}
    (hworld : own world = own world') (turns : List (Turn ω))
    (hwithin : ∀ turn ∈ turns, turn.Within own fun _ => ()) :
    let first : Scene Immediate σ ω := start settings period link world
    let second : Scene Immediate σ' ω := start settings period link' world'
    chunks (first.calls turns) = chunks (second.calls turns) →
      ∀ earlier, earlier <+: turns →
        let radio := (first.after earlier).radio
        let radio' := (second.after earlier).radio
        (sends (first.calls earlier)).map Prod.fst = (sends (second.calls earlier)).map Prod.fst ∧
        callbacks (first.calls earlier) = callbacks (second.calls earlier) ∧
        first.wishes earlier = second.wishes earlier ∧
        radio.tag = radio'.tag ∧ radio.settings = radio'.settings ∧
        radio.countdown = radio'.countdown ∧ radio.inFlight = radio'.inFlight ∧
        radio.source = radio'.source ∧ radio.junction.receiver = radio'.junction.receiver ∧
        radio.junction.yieldPending = radio'.junction.yieldPending ∧
        radio.transport.terms = radio'.transport.terms ∧
        radio.transport.leased = radio'.transport.leased ∧
        radio.transport.sent + radio.transport.failed =
          radio'.transport.sent + radio'.transport.failed := by
  intro first second hchunks earlier hearlier radio radio'
  have hlawful : (Immediate.regardless own : Pairing _ _ σ σ' ω).Lawful :=
    Immediate.lawful_regardless hspares hspares'
  have hsees : (Immediate.regardless own : Pairing _ _ σ σ' ω).Sees Call.regardless :=
    Immediate.sees_regardless
  have hstart : Alongside (Immediate.regardless own) Call.regardless first second [] :=
    .start hlawful settings period trivial hworld
  have halong : Alongside (Immediate.regardless own) Call.regardless first second earlier := by
    refine .run hlawful hsees hstart
      (fun turn hmem => Immediate.steady_regardless (hwithin turn (hearlier.subset hmem)))
      fun before hbefore hside hreceiver => ?_
    -- The chunks so far are the same, and the tick drains the next ones.
    rcases hbefore.trans hearlier with ⟨later, rfl⟩
    have hsofar : chunks (first.calls before) = chunks (second.calls before) :=
      hside.filterMap_eq Call.chunk? chunk?_regardless
    have hreceiver' : (second.after before).radio.junction.receiver ≠ none :=
      hside.bindings_eq.2 ▸ hreceiver
    rw [List.append_assoc, calls_append, calls_append, calls_append, calls_append, chunks_append,
      chunks_append, chunks_append, chunks_append, hsofar, chunks_tick hreceiver,
      chunks_tick hreceiver'] at hchunks
    exact (List.cons.inj (List.append_cancel_left hchunks)).1
  have hpayloads : (sends (first.calls earlier)).map Prod.fst =
      (sends (second.calls earlier)).map Prod.fst := by
    unfold sends
    rw [List.map_filterMap, List.map_filterMap]
    exact halong.filterMap_eq payload? payload?_regardless
  have hradios := halong.radios
  rcases halong.bindings_eq with ⟨hsource, hreceiver⟩
  exact ⟨hpayloads, halong.filterMap_eq callback? callback?_regardless, halong.wishes_eq,
    hradios.tag_eq, hradios.settings_eq, hradios.countdown_eq,
    Immediate.eq_of_rel hradios.inFlight, hsource, hreceiver, hradios.junction.yieldPending_eq,
    hradios.transport.terms_eq, hradios.transport.leased_eq, hradios.transport.total_eq⟩

end Scene

/-- A link whose answers follow a script. When the script is over it succeeds. -/
structure ScriptedLink where
  answers : List (Except LinkError Unit)
  -- What it receives, chunk by chunk.
  arrivals : List (List UInt8)

namespace ScriptedLink

/-- The next answer of the script. -/
def answer (link : ScriptedLink) : Except LinkError Unit × ScriptedLink :=
  (link.answers.headD (.ok ()), { link with answers := link.answers.tail })

instance {ω : Type} : Link ScriptedLink ω where
  send link _ := pure link.answer
  receive link _ :=
    let data := link.arrivals.headD []
    pure (⟨data, data.length⟩, { link with arrivals := link.arrivals.tail })
  poll link := pure link.answer

theorem spares (own : ω → α) : Link.Spares ScriptedLink own where
  send _ _ _ := rfl
  receive _ _ _ := rfl
  poll _ _ := rfl

end ScriptedLink

namespace Scene

/-- Two packets leave, one by its size and one by its deadline. The first link
    takes both, and the second takes none and fails when it is polled. -/
theorem undisturbed_scripted :
    let source : Binding (Source (List UInt8)) :=
      ⟨fun _ _ wish heard => ((⟨[UInt8.ofNat heard.length], 1⟩, wish), heard), 0⟩
    let sink : Binding (Sink (List UInt8)) :=
      ⟨fun _ data _ heard => ((data.length, true), heard ++ data), 0⟩
    let turns : List (Turn (List UInt8)) :=
      [.request (.bindSource source), .request (.bindReceiver sink),
        .request (.transmitReady 16), .tick, .request (.transmitReady 16),
        .request (.transmitReady 16), .tick, .tick]
    let first : Scene Immediate ScriptedLink (List UInt8) :=
      start ⟨2, 2, 1, 1, 0⟩ ⟨1000, by decide⟩ ⟨[], [[5], [6, 7]]⟩ []
    let second : Scene Immediate ScriptedLink (List UInt8) :=
      start ⟨2, 2, 1, 1, 0⟩ ⟨1000, by decide⟩
        ⟨[.error .io, .error .busy, .error .io, .ok (), .error .io], [[5], [6, 7]]⟩ []
    let radio := (first.after turns).radio
    let radio' := (second.after turns).radio
    chunks (first.calls turns) = [[5], [6, 7], []] ∧
      (radio.transport.sent, radio.transport.failed) = (2, 0) ∧
      (radio'.transport.sent, radio'.transport.failed) = (0, 2) ∧
      (sends (first.calls turns)).map Prod.fst = (sends (second.calls turns)).map Prod.fst ∧
      callbacks (first.calls turns) = callbacks (second.calls turns) ∧
      first.wishes turns = second.wishes turns ∧
      radio.countdown = radio'.countdown ∧ radio.inFlight = radio'.inFlight := by
  intro source sink turns first second radio radio'
  have hfirst : chunks (first.calls turns) = [[5], [6, 7], []] := by decide +kernel
  have hsecond : chunks (second.calls turns) = [[5], [6, 7], []] := by decide +kernel
  have hcounts : (radio.transport.sent, radio.transport.failed) = (2, 0) := by decide +kernel
  have hcounts' : (radio'.transport.sent, radio'.transport.failed) = (0, 2) := by decide +kernel
  -- What the turns are has been used, and would only be computed again.
  clear_value turns
  have hwithin : ∀ turn ∈ turns, turn.Within id fun _ => () := fun turn _ =>
    turn.within_anywhere
  rcases undisturbed (ScriptedLink.spares id) (ScriptedLink.spares id) _ _ _ _ rfl turns hwithin
    (hfirst.trans hsecond.symm) turns List.prefix_rfl with
    ⟨hpayloads, hcallbacks, hwishes, -, -, hcountdown, hinFlight, -⟩
  exact ⟨hfirst, hcounts, hcounts', hpayloads, hcallbacks, hwishes, hcountdown, hinFlight⟩

end Scene

end PacketRadio
