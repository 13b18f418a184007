import PacketRadio.Proofs.Conduct

/-!
# Programs Follow the Rules

Every program of a radio, taken at observed surroundings, mirrors itself taken
at plain ones, and what it records is what the rules of `Proofs.Conduct` allow.

The two halves are shown together. `Mirrors` demands that a program in a
watched world gives the plain result and leaves the plain world behind, so
nothing of what is later said about calls depends on somebody watching. Its
last argument carries the rule along, so one walk through each program serves
for both. The walks follow the programs line by line and use the mirrors of
the parts; only `Exchange.mirrors_run` is an induction, over the hook calls a
transport makes.

## Main definitions

* `Observed.answered`: What an observed component answers.

## Theorems

* `Exchange.mirrors_run`: An exchange follows its course.
* `Radio.mirrors_transmitReady`, `Radio.mirrors_tick`, `Radio.mirrors_inbound`:
  The activities of a radio.
* `Radio.mirrors_turn`: A turn follows the rules.
-/

namespace PacketRadio

variable {τ σ ω α : Type}

namespace Binding

theorem mirrors_pull (source : Binding (Source ω)) (buffer : List UInt8) (before : Bool)
    (world : ω) :
    Mirrors (source.observedSource.pull buffer before) (source.pull buffer before) id world
      fun answered calls => calls = [.pull source buffer before answered.1 answered.2] ∧
        Possible (source.pull buffer before) answered :=
  ⟨_, fun _ => rfl, rfl, Possible.result _ _⟩

theorem mirrors_deliver (sink : Binding (Sink ω)) (data : List UInt8) (before : Bool)
    (world : ω) :
    Mirrors (sink.observedSink.deliver data before) (sink.deliver data before) id world
      fun answered calls => calls = [.deliver sink data before answered.1 answered.2] ∧
        Possible (sink.deliver data before) answered :=
  ⟨_, fun _ => rfl, rfl, Possible.result _ _⟩

end Binding

namespace Observed

/-- What an observed component answers, seen from the plain one. -/
def answered {β : Type} (answer : β × α) : β × Observed α := (answer.1, ⟨answer.2⟩)

theorem mirrors_send [Link σ ω] (link : σ) (payload : List UInt8) (world : ω) :
    Mirrors (Link.send (ω := Watched ω) (Observed.mk link) payload) (Link.send link payload)
      answered world fun answer calls => calls = [.send payload answer.1] ∧
        Possible (Link.send (ω := ω) link payload) answer :=
  ⟨_, fun _ => rfl, rfl, Possible.result _ _⟩

theorem mirrors_receive [Link σ ω] (link : σ) (buffer : List UInt8) (world : ω) :
    Mirrors (Link.receive (ω := Watched ω) (Observed.mk link) buffer) (Link.receive link buffer)
      answered world fun answer calls => calls = [.receive buffer answer.1] ∧
        Possible (Link.receive (ω := ω) link buffer) answer :=
  ⟨_, fun _ => rfl, rfl, Possible.result _ _⟩

theorem mirrors_poll [Link σ ω] (link : σ) (world : ω) :
    Mirrors (Link.poll (ω := Watched ω) (Observed.mk link)) (Link.poll link) answered world
      fun answer calls => calls = [.poll answer.1] ∧ Possible (Link.poll (ω := ω) link) answer :=
  ⟨_, fun _ => rfl, rfl, Possible.result _ _⟩

theorem mirrors_lease [Transport τ ω] (transport : τ) (world : ω) :
    Mirrors (Transport.lease (ω := Watched ω) (Observed.mk transport)) (Transport.lease transport)
      answered world fun answer calls => calls = [.lease answer.1] ∧
        Possible (Transport.lease (ω := ω) transport) answer :=
  ⟨_, fun _ => rfl, rfl, Possible.result _ _⟩

end Observed

namespace Junction

theorem mirrors_deliver (junction : Junction σ ω) (data : List UInt8) (world : ω) :
    Mirrors (junction.observed.deliver data) (junction.deliver data) (Prod.map id observed) world
      fun answer calls => junction.Delivered data calls answer.2 := by
  -- Being observed does not bind or unbind a receiver, so both sides go the
  -- same way.
  cases hreceiver : junction.receiver with
  | none =>
      have hobserved : junction.observed.receiver = none := by rw [observed, hreceiver]; rfl
      rw [deliver_of_receiver_eq_none hreceiver, deliver_of_receiver_eq_none hobserved]
      exact Mirrors.pure (Prod.map id observed) (0, junction) (.nowhere (.inl hreceiver))
  | some sink =>
      have hobserved : junction.observed.receiver = some sink.observedSink := by
        rw [observed, hreceiver]; rfl
      by_cases hdata : data = []
      · rw [hdata, deliver_nil, deliver_nil]
        exact Mirrors.pure (Prod.map id observed) (0, junction) (.nowhere (.inr rfl))
      · rw [deliver_of_receiver_eq_some hreceiver hdata,
          deliver_of_receiver_eq_some hobserved hdata]
        refine Mirrors.bind (sink.mirrors_deliver _ _ _) fun answer calls h => ?_
        rcases h with ⟨rfl, hpossible⟩
        refine Mirrors.pure (Prod.map id observed)
          (answer.1, { junction with yieldPending := answer.2 }) ?_
        exact .received hreceiver hdata hpossible

theorem mirrors_poll [Link σ ω] (junction : Junction σ ω) (world : ω) :
    Mirrors junction.observed.poll junction.poll observed world
      fun after calls => ∃ answer link, calls = [.poll answer] ∧
        Possible (Link.poll (ω := ω) junction.link) (answer, link) ∧
        after = { junction with link } := by
  refine Mirrors.bind (Observed.mirrors_poll junction.link world) fun answer calls h => ?_
  rcases h with ⟨rfl, hpossible⟩
  exact Mirrors.pure observed { junction with link := answer.2 }
    ⟨answer.1, answer.2, rfl, hpossible, rfl⟩

theorem mirrors_drain [Link σ ω] (junction : Junction σ ω) (world : ω) :
    Mirrors junction.observed.drain junction.drain (Prod.map id observed) world
      fun answer calls => junction.Drained calls answer.2 := by
  cases hreceiver : junction.receiver with
  | none =>
      have hobserved : junction.observed.receiver = none := by rw [observed, hreceiver]; rfl
      rw [drain_of_receiver_eq_none hreceiver, drain_of_receiver_eq_none hobserved]
      exact Mirrors.pure (Prod.map id observed) (0, junction) (.unbound hreceiver)
  | some sink =>
      have hplain : junction.receiver.isNone = false := by rw [hreceiver]; rfl
      have hobserved : junction.observed.receiver.isNone = false := by
        rw [observed, hreceiver]; rfl
      simp only [drain, hplain, hobserved, Bool.false_eq_true, if_false]
      refine Mirrors.bind (Observed.mirrors_receive junction.link chunk world)
        fun answer calls h => ?_
      rcases h with ⟨rfl, hread⟩
      refine Mirrors.bind (mirrors_deliver { junction with link := answer.2 } _ _)
        fun taken more hdeliver => ?_
      refine Mirrors.pure (Prod.map id observed) (_, taken.2) ?_
      rw [List.append_nil]
      exact .moved hreceiver hread hdeliver

theorem mirrors_sendPacket [Link σ ω] (junction : Junction σ ω) (packet : Packet) (world : ω) :
    Mirrors (junction.observed.sendPacket packet) (junction.sendPacket packet)
      (Prod.map id observed) world
      fun answer calls => ∃ result link, calls = [.send packet.payload result] ∧
        Possible (Link.send (ω := ω) junction.link packet.payload) (result, link) ∧
        answer = (result.toBool, { junction with link }) := by
  refine Mirrors.bind (Observed.mirrors_send junction.link packet.payload world)
    fun answer calls h => ?_
  rcases h with ⟨rfl, hsend⟩
  refine Mirrors.pure (Prod.map id observed)
    (answer.1.toBool, { junction with link := answer.2 }) ?_
  exact ⟨answer.1, answer.2, rfl, hsend, rfl⟩

theorem mirrors_acceptData (junction : Junction σ ω) (data : List UInt8) (world : ω) :
    Mirrors (junction.observed.acceptData data) (junction.acceptData data) observed world
      fun after calls => junction.Delivered data calls after := by
  refine Mirrors.bind (junction.mirrors_deliver data world) fun answer calls h => ?_
  refine Mirrors.pure observed answer.2 ?_
  rw [List.append_nil]
  exact h

end Junction

namespace Exchange

/-- An exchange in a watched world is the plain exchange, and it follows its
    course. -/
theorem mirrors_run [Link σ ω] (exchange : Exchange ω α) (junction : Junction σ ω) (world : ω) :
    Mirrors (exchange.observed.run Junction.hooks junction.observed)
      (exchange.run Junction.hooks junction) (Prod.map id Junction.observed) world
      fun answer calls => exchange.Course junction calls answer.1 answer.2 := by
  induction exchange generalizing junction world with
  | done result => exact Mirrors.pure (Prod.map id Junction.observed) (result, junction) .done
  | send packet next ih =>
      refine Mirrors.bind (junction.mirrors_sendPacket packet world) fun answer calls h => ?_
      rcases h with ⟨result, link, rfl, hsend, rfl⟩
      exact (ih _ _ _).mono fun _ _ => .send hsend
  | accept data next ih =>
      refine Mirrors.noted (Call.accept data)
        (junction.observed.acceptData data >>= next.observed.run Junction.hooks) ?_
      refine Mirrors.bind (junction.mirrors_acceptData data world) fun after calls h => ?_
      exact (ih after _).mono fun _ _ => .accept h
  | setBaud rate next ih => exact (ih junction world).mono fun _ _ => .setBaud
  -- A transport sees the plain world, and the record is not part of what it
  -- can change.
  | look next ih =>
      rcases ih world junction world with ⟨calls, hrun, hcourse⟩
      exact ⟨calls, hrun, .look hcourse⟩
  | put left next ih =>
      rcases ih junction left with ⟨calls, hrun, hcourse⟩
      exact ⟨calls, hrun, .put hcourse⟩

/-- A call to the transport is written down in front of what the transport
    does. -/
theorem mirrors_run_noted [Link σ ω] (call : Call ω) (exchange : Exchange ω τ)
    (junction : Junction σ ω) (world : ω) :
    Mirrors ((exchange.noted call).run Junction.hooks junction.observed)
      (exchange.run Junction.hooks junction) (Prod.map Observed.mk Junction.observed) world
      fun answer calls => ∃ more, calls = call :: more ∧
        exchange.Course junction more answer.1 answer.2 := by
  refine Mirrors.noted call _ ?_
  -- The observed transport is wrapped again at the end, which is a last line
  -- that the plain one does not have.
  have hrun : exchange.run Junction.hooks junction =
      exchange.run Junction.hooks junction >>= pure := (bind_pure _).symm
  rw [run_bind, hrun]
  refine Mirrors.bind (exchange.mirrors_run junction world) fun answer calls h => ?_
  refine Mirrors.pure (Prod.map Observed.mk Junction.observed) answer ?_
  rw [List.append_nil]
  exact ⟨calls, rfl, h⟩

end Exchange

namespace Radio

theorem mirrors_handOver [Transport τ ω] [Link σ ω] (radio : Radio τ σ ω) (packet : Packet)
    (world : ω) :
    Mirrors (radio.observed.handOver packet) (radio.handOver packet) observed world
      fun after calls => radio.HandedOver packet calls after := by
  refine Mirrors.bind ((Transport.transmit radio.transport packet).mirrors_run_noted
    (.transmit packet) radio.junction world) fun answer calls h => ?_
  rcases h with ⟨more, rfl, hcourse⟩
  refine Mirrors.pure observed { radio with transport := answer.1, junction := answer.2 } ?_
  rw [List.append_nil]
  exact .intro hcourse

theorem mirrors_current [Transport τ ω] (radio : Radio τ σ ω) (world : ω) :
    Mirrors radio.observed.current radio.current (Prod.map id observed) world
      fun answer calls => ∃ transport, answer.2 = { radio with transport, inFlight := none } ∧
        radio.Fetched calls answer.1 transport := by
  cases hslot : radio.inFlight with
  | some packet =>
      have hobserved : radio.observed.inFlight = some packet := by rw [observed, hslot]
      simp only [current, hslot, hobserved]
      exact Mirrors.pure (Prod.map id observed) (some packet, { radio with inFlight := none })
        ⟨radio.transport, rfl, .held hslot⟩
  | none =>
      have hobserved : radio.observed.inFlight = none := by rw [observed, hslot]
      simp only [current, hslot, hobserved]
      refine Mirrors.bind (Observed.mirrors_lease radio.transport world) fun answer calls h => ?_
      rcases answer with ⟨granted, transport⟩
      rcases h with ⟨rfl, hlease⟩
      refine Mirrors.pure (Prod.map id observed)
        (granted.map fun packet => packet.reset .data,
          { radio with transport, inFlight := none }) ?_
      refine ⟨transport, rfl, ?_⟩
      cases granted with
      | some packet => exact .leased hslot hlease
      | none => exact .refused hslot hlease

theorem mirrors_settle [Transport τ ω] [Link σ ω] (radio : Radio τ σ ω) (packet : Packet)
    (world : ω) :
    Mirrors (radio.observed.settle packet) (radio.settle packet) observed world
      fun after calls =>
        (isDue radio.settings packet = true ∧ ∃ handed, radio.HandedOver packet calls handed ∧
          after = { handed with countdown := handed.countdown.rearm }) ∨
        (isDue radio.settings packet = false ∧ calls = [] ∧
          after = { radio with inFlight := some packet }) := by
  by_cases hdue : isDue radio.settings packet = true
  · have hobserved : isDue radio.observed.settings packet = true := hdue
    rw [settle, settle, if_pos hdue, if_pos hobserved]
    refine Mirrors.bind (radio.mirrors_handOver packet world) fun handed calls h => ?_
    refine Mirrors.pure observed { handed with countdown := handed.countdown.rearm } (.inl ?_)
    rw [List.append_nil]
    exact ⟨hdue, handed, h, rfl⟩
  · have hobserved : ¬ isDue radio.observed.settings packet = true := hdue
    rw [settle, settle, if_neg hdue, if_neg hobserved]
    exact Mirrors.pure observed { radio with inFlight := some packet }
      (.inr ⟨Bool.eq_false_iff.2 hdue, rfl, rfl⟩)

theorem mirrors_transmitReady [Transport τ ω] [Link σ ω] (radio : Radio τ σ ω) (world : ω) :
    Mirrors radio.observed.transmitReady radio.transmitReady observed world
      fun after calls => radio.Filled calls after := by
  cases hsource : radio.source with
  | none =>
      have hobserved : radio.observed.source = none := by rw [observed, hsource]; rfl
      simp only [transmitReady, hsource, hobserved]
      exact Mirrors.pure observed radio (.unsourced hsource)
  | some source =>
      have hobserved : radio.observed.source = some source.observedSource := by
        rw [observed, hsource]; rfl
      simp only [transmitReady, hsource, hobserved]
      -- From here on the packet is out of the radio, until it is settled.
      refine Mirrors.bind (radio.mirrors_current world) fun answer calls h => ?_
      rcases answer with ⟨fetched, middle⟩
      rcases h with ⟨transport, rfl, hfetch⟩
      cases fetched with
      | none =>
          refine Mirrors.pure observed { radio with transport, inFlight := none } ?_
          rw [List.append_nil]
          exact .unfetched hsource hfetch
      | some packet =>
          refine Mirrors.bind (source.mirrors_pull packet.spare false _) fun pulled more h => ?_
          rcases h with ⟨rfl, hpull⟩
          refine (mirrors_settle { radio with transport, inFlight := none }
            (packet.absorb pulled.1) _).mono fun after last h => ?_
          rcases h with ⟨hdue, handed, hover, rfl⟩ | ⟨hsmall, rfl, rfl⟩
          · exact .sent hsource hfetch hpull hdue hover
          · exact .kept hsource hfetch hpull hsmall

theorem mirrors_flush [Transport τ ω] [Link σ ω] (radio : Radio τ σ ω) (world : ω) :
    Mirrors radio.observed.flush radio.flush observed world
      fun after calls =>
        (radio.inFlight = none ∧ calls = [] ∧ after = radio) ∨
        ∃ packet, radio.inFlight = some packet ∧
          HandedOver { radio with inFlight := none } packet calls after := by
  cases hslot : radio.inFlight with
  | none =>
      have hobserved : radio.observed.inFlight = none := hslot
      rw [flush, flush, hslot, hobserved]
      exact Mirrors.pure observed radio (.inl ⟨rfl, rfl, rfl⟩)
  | some packet =>
      have hobserved : radio.observed.inFlight = some packet := hslot
      rw [flush, flush, hslot, hobserved]
      exact (mirrors_handOver { radio with inFlight := none } packet world).mono
        fun after calls h => .inr ⟨packet, rfl, h⟩

theorem mirrors_tick [Transport τ ω] [Link σ ω] (radio : Radio τ σ ω) (world : ω) :
    Mirrors radio.observed.tick radio.tick (Prod.map id observed) world
      fun answer calls => radio.Ticked calls answer.1 answer.2 := by
  refine Mirrors.bind (radio.junction.mirrors_poll world) fun polled first h => ?_
  rcases h with ⟨answer, link, rfl, hpoll, rfl⟩
  refine Mirrors.bind (Junction.mirrors_drain _ _) fun drained calls hdrain => ?_
  have hservice := Junction.Serviced.intro hpoll hdrain
  -- The countdown is not observed, so it expires on both sides or on neither.
  rcases hcount : radio.countdown.tick with ⟨expired, countdown⟩
  have hobserved : radio.observed.countdown.tick = (expired, countdown) := hcount
  rw [hobserved]
  cases expired with
  | false =>
      refine Mirrors.pure (Prod.map id observed) (drained.2.takeYield.1,
        { radio with junction := drained.2.takeYield.2, countdown }) ?_
      rw [List.append_nil]
      exact .waiting hservice hcount
  | true =>
      refine Mirrors.bind (mirrors_flush
        { radio with junction := drained.2.takeYield.2, countdown } _) fun after more h => ?_
      refine Mirrors.pure (Prod.map id observed) (drained.2.takeYield.1, after) ?_
      rw [List.append_nil]
      rcases h with ⟨hslot, rfl, rfl⟩ | ⟨packet, hslot, hover⟩
      · rw [List.append_nil]
        exact .empty hservice hcount hslot
      · show radio.Ticked ((.poll answer :: calls) ++ more) _ after
        exact .flushed hservice hcount hslot hover

theorem mirrors_inbound [Transport τ ω] [Link σ ω] (radio : Radio τ σ ω) (packet : Packet)
    (world : ω) :
    Mirrors (radio.observed.inbound packet) (radio.inbound packet) (Prod.map id observed) world
      fun answer calls => radio.Turned (.request (.inbound packet)) calls answer.1 answer.2 := by
  refine Mirrors.bind ((Transport.receive radio.transport packet).mirrors_run_noted
    (.inbound packet) radio.junction world) fun answer calls h => ?_
  rcases h with ⟨more, rfl, hcourse⟩
  refine Mirrors.pure (Prod.map id observed) (answer.2.takeYield.1,
    { radio with transport := answer.1, junction := answer.2.takeYield.2 }) ?_
  rw [List.append_nil]
  exact .inbound hcourse

/-- A turn in observed surroundings is the plain turn, and it follows the
    rules. -/
theorem mirrors_turn [Transport τ ω] [Link σ ω] (radio : Radio τ σ ω) (turn : Turn ω)
    (world : ω) :
    Mirrors (radio.observed.turn turn.observed) (radio.turn turn) (Prod.map id observed) world
      fun answer calls => radio.Turned turn calls answer.1 answer.2 := by
  cases turn with
  | tick => exact (radio.mirrors_tick world).mono fun _ _ => .tick
  | request asked =>
      cases asked with
      | bindReceiver sink =>
          exact Mirrors.pure (Prod.map id observed) (false, radio.bindReceiver sink) .bindReceiver
      | bindSource source =>
          exact Mirrors.pure (Prod.map id observed) (false, radio.bindSource source) .bindSource
      | transmitReady available =>
          refine Mirrors.bind (radio.mirrors_transmitReady world) fun after calls h => ?_
          refine Mirrors.pure (Prod.map id observed) (false, after) ?_
          rw [List.append_nil]
          exact .transmitReady h
      | receiveReady available =>
          exact Mirrors.pure (Prod.map id observed) (false, radio) .receiveReady
      | setBaud rate => exact Mirrors.pure (Prod.map id observed) (false, radio) .setBaud
      | inbound packet => exact radio.mirrors_inbound packet world

end Radio

end PacketRadio
