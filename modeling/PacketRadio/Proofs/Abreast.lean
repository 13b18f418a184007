import PacketRadio.Proofs.Conduct

/-!
# Two Radios Side by Side

What two radios have in common that are asked the same things, in surroundings
that differ.

A `Pairing` says which surroundings count as alike: which worlds, links and
transports, which packets, and which answers a link may give to the same
question. The two sides may be of different types. What has to be true of alike
surroundings is that they stay alike, whatever they are asked (`Pairing.Lawful`).
From that it follows that radios in them do. The walks through the programs are
the ones of `Proofs.Confined`, only that two programs are followed at once, in
two worlds; and as these need not agree on any part, the judgement `Abreast` is
about a pair of worlds, and not about all.

Two things are not asked of the surroundings. What a transport does may depend
on what it is answered, so it is compared as a tree of calls (`Exchange.Alike`):
the walk through the tree is an induction, and is made once. And links need not
receive the same. That they did is a condition of the tick, in terms of
`Junction.intake`, for the one moment at which the tick comes.

## Main definitions

* `Abreast`: Two actions that lead from two worlds to matching results.
* `Likeness`, `Pairing`: Which surroundings are alike.
* `Pairing.SteadySink`, `Pairing.SteadySource`: Callbacks that do the same in
  alike worlds.
* `Pairing.Junctions`, `Pairing.Radios`: Junctions and radios that are alike.
* `Exchange.Alike`: Exchanges that make alike calls as long as the answers are.
* `Pairing.Lawful`: Surroundings that stay alike.
* `Junction.intake`: What the link has for a tick.

## Theorems

* `Abreast.bind`: Two programs line by line.
* `Pairing.abreast_run`: Alike exchanges on alike junctions.
* `Pairing.abreast_turn`: Alike radios take the same turn in the same way.
-/

namespace PacketRadio

variable {τ τ' σ σ' ω α β γ γ' δ δ' : Type}

/-- From these worlds the two actions lead to matching results, and to matching
    worlds. -/
def Abreast (worlds : ω → ω → Prop) (act : StateM ω γ) (act' : StateM ω γ')
    (results : γ → γ' → Prop) (world world' : ω) : Prop :=
  results (act world).1 (act' world').1 ∧ worlds (act world).2 (act' world').2

namespace Abreast

variable {worlds : ω → ω → Prop} {world world' : ω} {results : γ → γ' → Prop}

theorem pure {value : γ} {value' : γ'} (h : results value value')
    (hworlds : worlds world world') :
    Abreast worlds (pure value) (pure value') results world world' :=
  ⟨h, hworlds⟩

/-- The lines behind a first one, from where that one led. -/
theorem bind_at {first : StateM ω δ} {first' : StateM ω δ'} {next : δ → StateM ω γ}
    {next' : δ' → StateM ω γ'}
    (hnext : Abreast worlds (next (first world).1) (next' (first' world').1) results
      (first world).2 (first' world').2) :
    Abreast worlds (first >>= next) (first' >>= next') results world world' :=
  hnext

theorem bind {first : StateM ω δ} {first' : StateM ω δ'} {next : δ → StateM ω γ}
    {next' : δ' → StateM ω γ'} {middle : δ → δ' → Prop}
    (hfirst : Abreast worlds first first' middle world world')
    (hnext : ∀ value value' world world', middle value value' → worlds world world' →
      Abreast worlds (next value) (next' value') results world world') :
    Abreast worlds (first >>= next) (first' >>= next') results world world' :=
  bind_at (hnext _ _ _ _ hfirst.1 hfirst.2)

end Abreast

/-- What two programs may differ in and still be alike. -/
structure Likeness (ω : Type) where
  worlds : ω → ω → Prop
  packets : Packet → Packet → Prop
  /-- What links may answer to the same question. -/
  answers : Except LinkError Unit → Except LinkError Unit → Prop

/-- Which surroundings of two radios are alike. -/
structure Pairing (τ τ' σ σ' ω : Type) extends Likeness ω where
  links : σ → σ' → Prop
  transports : τ → τ' → Prop

/-- Two exchanges make alike calls as long as they get alike answers, and have
    alike results. -/
inductive Exchange.Alike (likeness : Likeness ω) (results : α → β → Prop) :
    Exchange ω α → Exchange ω β → Prop where
  | done {result : α} {result' : β} (hresult : results result result') :
      Alike likeness results (.done result) (.done result')
  | send {packet packet' : Packet} {next : Bool → Exchange ω α} {next' : Bool → Exchange ω β}
      (hpacket : likeness.packets packet packet')
      (rest : ∀ answer answer', likeness.answers answer answer' →
        Alike likeness results (next answer.toBool) (next' answer'.toBool)) :
      Alike likeness results (.send packet next) (.send packet' next')
  | accept {data : List UInt8} {next : Exchange ω α} {next' : Exchange ω β}
      (rest : Alike likeness results next next') :
      Alike likeness results (.accept data next) (.accept data next')
  | setBaud {rate : UInt32} {next : Exchange ω α} {next' : Exchange ω β}
      (rest : Alike likeness results next next') :
      Alike likeness results (.setBaud rate next) (.setBaud rate next')
  | look {next : ω → Exchange ω α} {next' : ω → Exchange ω β}
      (rest : ∀ world world', likeness.worlds world world' →
        Alike likeness results (next world) (next' world')) :
      Alike likeness results (.look next) (.look next')
  | put {world world' : ω} {next : Exchange ω α} {next' : Exchange ω β}
      (hworlds : likeness.worlds world world') (rest : Alike likeness results next next') :
      Alike likeness results (.put world next) (.put world' next')

/-- The bytes that the link has for a tick, when it has been polled. -/
def Junction.intake [Link σ ω] (junction : Junction σ ω) (world : ω) : List UInt8 :=
  let (polled, world) := junction.poll world
  (Link.receive polled.link chunk world).1.1.claimed chunk

/-- It depends on the link alone. -/
theorem Junction.intake_congr [Link σ ω] {junction junction' : Junction σ ω}
    (h : junction.link = junction'.link) (world : ω) :
    junction.intake world = junction'.intake world := by
  unfold intake poll
  rw [h]
  rfl

namespace Pairing

variable (pairing : Pairing τ τ' σ σ' ω)

/-- In alike worlds the sink does the same. -/
def SteadySink (sink : Binding (Sink ω)) : Prop :=
  ∀ data before {world world'}, pairing.worlds world world' →
    Abreast pairing.worlds (sink.deliver data before) (sink.deliver data before) Eq world world'

/-- In alike worlds the source does the same with alike packets, and they are
    still alike with what it brings in. -/
def SteadySource (source : Binding (Source ω)) : Prop :=
  ∀ {packet packet'}, pairing.packets packet packet' →
    ∀ {world world'}, pairing.worlds world world' →
      Abreast pairing.worlds (source.pull packet.spare false) (source.pull packet'.spare false)
        (fun answer answer' => answer = answer' ∧
          pairing.packets (packet.absorb answer.1) (packet'.absorb answer.1)) world world'

/-- A turn that brings no callback but a steady one. -/
def SteadyTurn : Turn ω → Prop
  | .request (.bindReceiver sink) => pairing.SteadySink sink
  | .request (.bindSource source) => pairing.SteadySource source
  | _ => True

/-- Junctions of alike links, with one receiver. -/
structure Junctions (junction : Junction σ ω) (junction' : Junction σ' ω) : Prop where
  link : pairing.links junction.link junction'.link
  receiver_eq : junction.receiver = junction'.receiver
  steady (sink : Binding (Sink ω)) : junction.receiver = some sink → pairing.SteadySink sink
  yieldPending_eq : junction.yieldPending = junction'.yieldPending

/-- Radios that differ only in their surroundings, which are alike. -/
structure Radios (radio : Radio τ σ ω) (radio' : Radio τ' σ' ω) : Prop where
  tag_eq : radio.tag = radio'.tag
  settings_eq : radio.settings = radio'.settings
  countdown_eq : radio.countdown = radio'.countdown
  source_eq : radio.source = radio'.source
  steady (source : Binding (Source ω)) : radio.source = some source → pairing.SteadySource source
  junction : pairing.Junctions radio.junction radio'.junction
  transport : pairing.transports radio.transport radio'.transport
  inFlight : Option.Rel pairing.packets radio.inFlight radio'.inFlight

/-- Surroundings that are alike stay alike. -/
structure Lawful [Transport τ ω] [Transport τ' ω] [Link σ ω] [Link σ' ω] : Prop where
  length_eq {packet packet' : Packet} :
    pairing.packets packet packet' → packet.length = packet'.length
  send {link : σ} {link' : σ'} {packet packet' : Packet} {world world' : ω} :
    pairing.links link link' → pairing.packets packet packet' → pairing.worlds world world' →
      Abreast pairing.worlds (Link.send link packet.payload) (Link.send link' packet'.payload)
        (fun answer answer' => pairing.answers answer.1 answer'.1 ∧
          pairing.links answer.2 answer'.2) world world'
  poll {link : σ} {link' : σ'} {world world' : ω} :
    pairing.links link link' → pairing.worlds world world' →
      Abreast pairing.worlds (Link.poll link) (Link.poll link')
        (fun answer answer' => pairing.answers answer.1 answer'.1 ∧
          pairing.links answer.2 answer'.2) world world'
  -- Links need not have received the same, and nothing is said if they have not.
  read {link : σ} {link' : σ'} {world world' : ω} :
    pairing.links link link' → pairing.worlds world world' →
    (Link.receive link Junction.chunk world).1.1.claimed Junction.chunk =
        (Link.receive link' Junction.chunk world').1.1.claimed Junction.chunk →
      Abreast pairing.worlds (Link.receive link Junction.chunk)
        (Link.receive link' Junction.chunk)
        (fun answer answer' => pairing.links answer.2 answer'.2) world world'
  start (terms : Terms) {world world' : ω} : pairing.worlds world world' →
    Abreast pairing.worlds (Transport.start terms) (Transport.start terms) pairing.transports
      world world'
  -- A leased packet is compared when it has been started over.
  lease {transport : τ} {transport' : τ'} {world world' : ω} :
    pairing.transports transport transport' → pairing.worlds world world' →
      Abreast pairing.worlds (Transport.lease transport) (Transport.lease transport')
        (fun answer answer' => Option.Rel pairing.packets
            (answer.1.map fun packet => packet.reset .data)
            (answer'.1.map fun packet => packet.reset .data) ∧
          pairing.transports answer.2 answer'.2) world world'
  transmit {transport : τ} {transport' : τ'} {packet packet' : Packet} :
    pairing.transports transport transport' → pairing.packets packet packet' →
      (Transport.transmit (ω := ω) transport packet).Alike pairing.toLikeness pairing.transports
        (Transport.transmit transport' packet')
  receive {transport : τ} {transport' : τ'} (packet : Packet) :
    pairing.transports transport transport' →
      (Transport.receive (ω := ω) transport packet).Alike pairing.toLikeness pairing.transports
        (Transport.receive transport' packet)

variable {pairing} {junction : Junction σ ω} {junction' : Junction σ' ω} {world world' : ω}

theorem map_eq_of_rel {view : Packet → α} {held held' : Option Packet}
    (h : Option.Rel (fun packet packet' => view packet = view packet') held held') :
    held.map view = held'.map view := by
  cases h with
  | some hpacket => exact congrArg some hpacket
  | none => rfl

theorem Junctions.withLink (h : pairing.Junctions junction junction') {link : σ} {link' : σ'}
    (hlink : pairing.links link link') :
    pairing.Junctions { junction with link } { junction' with link := link' } :=
  ⟨hlink, h.receiver_eq, h.steady, h.yieldPending_eq⟩

theorem Junctions.withYield (h : pairing.Junctions junction junction') (yieldPending : Bool) :
    pairing.Junctions { junction with yieldPending } { junction' with yieldPending } :=
  ⟨h.link, h.receiver_eq, h.steady, rfl⟩

theorem Junctions.takeYield (h : pairing.Junctions junction junction') :
    junction.takeYield.1 = junction'.takeYield.1 ∧
      pairing.Junctions junction.takeYield.2 junction'.takeYield.2 :=
  ⟨h.yieldPending_eq, h.withYield false⟩

theorem abreast_deliver (h : pairing.Junctions junction junction') (data : List UInt8)
    (hworlds : pairing.worlds world world') :
    Abreast pairing.worlds (junction.deliver data) (junction'.deliver data)
      (fun answer answer' => pairing.Junctions answer.2 answer'.2) world world' := by
  cases hreceiver : junction.receiver with
  | none =>
      have hreceiver' : junction'.receiver = none := h.receiver_eq.symm.trans hreceiver
      rw [Junction.deliver_of_receiver_eq_none hreceiver,
        Junction.deliver_of_receiver_eq_none hreceiver']
      exact .pure h hworlds
  | some sink =>
      have hreceiver' : junction'.receiver = some sink := h.receiver_eq.symm.trans hreceiver
      by_cases hdata : data = []
      · rw [hdata, Junction.deliver_nil, Junction.deliver_nil]
        exact .pure h hworlds
      · rw [Junction.deliver_of_receiver_eq_some hreceiver hdata,
          Junction.deliver_of_receiver_eq_some hreceiver' hdata, h.yieldPending_eq]
        refine (h.steady sink hreceiver data _ hworlds).bind
          fun answer answer' world world' hsame hworlds => ?_
        rw [← hsame]
        exact .pure (h.withYield answer.2) hworlds

variable [Transport τ ω] [Transport τ' ω] [Link σ ω] [Link σ' ω] (hlawful : pairing.Lawful)

include hlawful

theorem abreast_poll (h : pairing.Junctions junction junction')
    (hworlds : pairing.worlds world world') :
    Abreast pairing.worlds junction.poll junction'.poll pairing.Junctions world world' := by
  refine (hlawful.poll h.link hworlds).bind fun answer answer' world world' hanswer hworlds => ?_
  exact .pure (h.withLink hanswer.2) hworlds

/-- If the links have received the same, so do the receivers. -/
theorem abreast_drain (h : pairing.Junctions junction junction')
    (hworlds : pairing.worlds world world')
    (hread : junction.receiver ≠ none →
      (Link.receive junction.link Junction.chunk world).1.1.claimed Junction.chunk =
        (Link.receive junction'.link Junction.chunk world').1.1.claimed Junction.chunk) :
    Abreast pairing.worlds junction.drain junction'.drain
      (fun answer answer' => pairing.Junctions answer.2 answer'.2) world world' := by
  cases hreceiver : junction.receiver with
  | none =>
      have hreceiver' : junction'.receiver = none := h.receiver_eq.symm.trans hreceiver
      rw [Junction.drain_of_receiver_eq_none hreceiver,
        Junction.drain_of_receiver_eq_none hreceiver']
      exact .pure h hworlds
  | some sink =>
      have hbound : junction.receiver.isNone = false := by rw [hreceiver]; rfl
      have hbound' : junction'.receiver.isNone = false := by rw [← h.receiver_eq]; exact hbound
      have hsame := hread (by rw [hreceiver]; exact nofun)
      rcases hlawful.read h.link hworlds hsame with ⟨hlink, hnow⟩
      simp only [Junction.drain, hbound, hbound', Bool.false_eq_true, if_false]
      refine .bind_at ?_
      rw [hsame]
      refine (abreast_deliver (h.withLink hlink) _ hnow).bind
        fun answer answer' world world' hanswer hworlds => ?_
      exact .pure hanswer hworlds

/-- Alike exchanges do alike things on alike junctions. -/
theorem abreast_run {results : α → β → Prop} {exchange : Exchange ω α} {exchange' : Exchange ω β}
    (halike : exchange.Alike pairing.toLikeness results exchange')
    (h : pairing.Junctions junction junction') (hworlds : pairing.worlds world world') :
    Abreast pairing.worlds (exchange.run Junction.hooks junction)
      (exchange'.run Junction.hooks junction')
      (fun answer answer' => results answer.1 answer'.1 ∧
        pairing.Junctions answer.2 answer'.2) world world' := by
  induction halike generalizing junction junction' world world' with
  | done hresult => exact .pure ⟨hresult, h⟩ hworlds
  | send hpacket _ ih =>
      rcases hlawful.send h.link hpacket hworlds with ⟨⟨hanswer, hlink⟩, hnow⟩
      exact .bind_at (ih _ _ hanswer (h.withLink hlink) hnow)
  | accept _ ih =>
      rcases abreast_deliver h _ hworlds with ⟨hjunction, hnow⟩
      exact .bind_at (ih hjunction hnow)
  | setBaud _ ih => exact ih h hworlds
  | look _ ih => exact ih _ _ hworlds h hworlds
  | put hleft _ ih => exact ih h hleft

variable {radio : Radio τ σ ω} {radio' : Radio τ' σ' ω} {packet packet' : Packet}

theorem abreast_handOver (h : pairing.Radios radio radio') (hworlds : pairing.worlds world world')
    (hpacket : pairing.packets packet packet') :
    Abreast pairing.worlds (radio.handOver packet) (radio'.handOver packet') pairing.Radios
      world world' := by
  refine (abreast_run hlawful (hlawful.transmit h.transport hpacket) h.junction hworlds).bind
    fun answer answer' world world' hanswer hworlds => ?_
  exact .pure { h with transport := hanswer.1, junction := hanswer.2 } hworlds

theorem abreast_current (h : pairing.Radios radio radio')
    (hworlds : pairing.worlds world world') :
    Abreast pairing.worlds radio.current radio'.current
      (fun answer answer' => Option.Rel pairing.packets answer.1 answer'.1 ∧
        pairing.Radios answer.2 answer'.2) world world' := by
  have hinFlight := h.inFlight
  unfold Radio.current
  cases hslot : radio.inFlight with
  | some packet =>
      rw [hslot] at hinFlight
      cases hslot' : radio'.inFlight with
      | none => rw [hslot'] at hinFlight; exact nomatch hinFlight
      | some packet' =>
          rw [hslot'] at hinFlight
          exact .pure ⟨hinFlight, { h with inFlight := .none }⟩ hworlds
  | none =>
      rw [hslot] at hinFlight
      cases hslot' : radio'.inFlight with
      | some packet' => rw [hslot'] at hinFlight; exact nomatch hinFlight
      | none =>
          refine (hlawful.lease h.transport hworlds).bind
            fun answer answer' world world' hanswer hworlds => ?_
          exact .pure ⟨hanswer.1, { h with transport := hanswer.2, inFlight := .none }⟩ hworlds

theorem abreast_settle (h : pairing.Radios radio radio') (hworlds : pairing.worlds world world')
    (hpacket : pairing.packets packet packet') :
    Abreast pairing.worlds (radio.settle packet) (radio'.settle packet') pairing.Radios
      world world' := by
  -- A packet is due by its length, so both are or neither is.
  have hdue : Radio.isDue radio'.settings packet' = Radio.isDue radio.settings packet := by
    unfold Radio.isDue Packet.isFull
    rw [h.settings_eq, hlawful.length_eq hpacket]
  unfold Radio.settle
  rw [hdue]
  split
  · refine (abreast_handOver hlawful h hworlds hpacket).bind
      fun handed handed' world world' hhanded hworlds => ?_
    refine .pure { hhanded with countdown_eq := ?_ } hworlds
    exact congrArg Countdown.rearm hhanded.countdown_eq
  · exact .pure { h with inFlight := .some hpacket } hworlds

theorem abreast_transmitReady (h : pairing.Radios radio radio')
    (hworlds : pairing.worlds world world') :
    Abreast pairing.worlds radio.transmitReady radio'.transmitReady pairing.Radios
      world world' := by
  unfold Radio.transmitReady
  rw [← h.source_eq]
  cases hsource : radio.source with
  | none => exact .pure h hworlds
  | some source =>
      refine (abreast_current hlawful h hworlds).bind
        fun answer answer' world world' hanswer hworlds => ?_
      rcases answer with ⟨fetched, middle⟩
      rcases answer' with ⟨fetched', middle'⟩
      rcases hanswer with ⟨hfetched, hmiddle⟩
      cases hfetched with
      | none => exact .pure hmiddle hworlds
      | some hpacket =>
          refine (h.steady source hsource hpacket hworlds).bind
            fun pulled pulled' world world' hpulled hworlds => ?_
          rw [← hpulled.1]
          exact abreast_settle hlawful hmiddle hworlds hpulled.2

theorem abreast_flush (h : pairing.Radios radio radio') (hworlds : pairing.worlds world world') :
    Abreast pairing.worlds radio.flush radio'.flush pairing.Radios world world' := by
  have hinFlight := h.inFlight
  unfold Radio.flush
  cases hslot : radio.inFlight with
  | none =>
      rw [hslot] at hinFlight
      cases hslot' : radio'.inFlight with
      | some packet' => rw [hslot'] at hinFlight; exact nomatch hinFlight
      | none => exact .pure h hworlds
  | some packet =>
      rw [hslot] at hinFlight
      cases hslot' : radio'.inFlight with
      | none => rw [hslot'] at hinFlight; exact nomatch hinFlight
      | some packet' =>
          rw [hslot'] at hinFlight
          cases hinFlight with
          | some hpacket =>
              exact abreast_handOver hlawful { h with inFlight := .none } hworlds hpacket

theorem abreast_tick (h : pairing.Radios radio radio') (hworlds : pairing.worlds world world')
    (hintake : radio.junction.receiver ≠ none →
      radio.junction.intake world = radio'.junction.intake world') :
    Abreast pairing.worlds radio.tick radio'.tick
      (fun answer answer' => answer.1 = answer'.1 ∧ pairing.Radios answer.2 answer'.2)
      world world' := by
  rcases abreast_poll hlawful h.junction hworlds with ⟨hpolled, hnow⟩
  refine .bind_at ((abreast_drain hlawful hpolled hnow hintake).bind
    fun drained drained' world world' hdrained hworlds => ?_)
  rcases hdrained.takeYield with ⟨hwish, hjunction⟩
  simp only [← h.countdown_eq]
  rcases hcount : radio.countdown.tick with ⟨expired, countdown⟩
  have hticked : pairing.Radios
      { radio with junction := drained.2.takeYield.2, countdown }
      { radio' with junction := drained'.2.takeYield.2, countdown } :=
    { h with junction := hjunction, countdown_eq := rfl }
  cases expired with
  | false => exact .pure ⟨hwish, hticked⟩ hworlds
  | true =>
      refine (abreast_flush hlawful hticked hworlds).bind
        fun after after' world world' hafter hworlds => ?_
      exact .pure ⟨hwish, hafter⟩ hworlds

theorem abreast_inbound (h : pairing.Radios radio radio') (hworlds : pairing.worlds world world')
    (packet : Packet) :
    Abreast pairing.worlds (radio.inbound packet) (radio'.inbound packet)
      (fun answer answer' => answer.1 = answer'.1 ∧ pairing.Radios answer.2 answer'.2)
      world world' := by
  refine (abreast_run hlawful (hlawful.receive packet h.transport) h.junction hworlds).bind
    fun answer answer' world world' hanswer hworlds => ?_
  rcases hanswer.2.takeYield with ⟨hwish, hjunction⟩
  exact .pure ⟨hwish, { h with transport := hanswer.1, junction := hjunction }⟩ hworlds

/-- Alike radios take the same turn in the same way. -/
theorem abreast_turn (h : pairing.Radios radio radio') (hworlds : pairing.worlds world world')
    {turn : Turn ω} (hsteady : pairing.SteadyTurn turn)
    (hintake : turn = .tick → radio.junction.receiver ≠ none →
      radio.junction.intake world = radio'.junction.intake world') :
    Abreast pairing.worlds (radio.turn turn) (radio'.turn turn)
      (fun answer answer' => answer.1 = answer'.1 ∧ pairing.Radios answer.2 answer'.2)
      world world' := by
  cases turn with
  | tick => exact abreast_tick hlawful h hworlds (hintake rfl)
  | request asked =>
      cases asked with
      | bindReceiver sink =>
          have hjunction : pairing.Junctions (radio.junction.bindReceiver sink)
              (radio'.junction.bindReceiver sink) :=
            ⟨h.junction.link, rfl, fun bound hbound => Option.some.inj hbound ▸ hsteady,
              h.junction.yieldPending_eq⟩
          exact .pure ⟨rfl, { h with junction := hjunction }⟩ hworlds
      | bindSource source =>
          refine .pure ⟨rfl, { h with source_eq := rfl, steady := fun bound hbound => ?_ }⟩ hworlds
          exact Option.some.inj hbound ▸ hsteady
      | transmitReady available =>
          refine (abreast_transmitReady hlawful h hworlds).bind
            fun after after' world world' hafter hworlds => ?_
          exact .pure ⟨rfl, hafter⟩ hworlds
      | receiveReady available => exact .pure ⟨rfl, h⟩ hworlds
      | setBaud rate => exact .pure ⟨rfl, h⟩ hworlds
      | inbound packet => exact abreast_inbound hlawful h hworlds packet

end Pairing

end PacketRadio
