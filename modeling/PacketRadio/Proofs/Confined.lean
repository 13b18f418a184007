import PacketRadio.Proofs.Scene
import PacketRadio.Transport.Immediate

/-!
# Confinement

What an action can see of the world, and what it can change.

A world is shared by many. An action is confined to a part of it if it leaves
the rest alone and if what it does depends on its own part only: in two worlds
that agree on its own part it gives the same result, and the worlds it leaves
agree on that part again. `Confined` says this for a view `own` of the world
and a view `rest`. The same definition speaks about one world and about two,
and it composes line by line.

A radio is a program over its surroundings, so it is as confined as they are.
If the link, the transport and the callbacks that are bound keep to some part
of the world, then so does every turn, and the surroundings are again of that
kind afterwards. Nothing is assumed of the views here. They may be two halves
of the world. They may be the same halves with a record of calls on one side,
and then what is confined is what the radio does and not only what it leaves
(`Scene.alike`). And if the own part is all of the world, nothing is confined,
and what remains is what a turn preserves about the link.

## Main definitions

* `Confined`: Acting on a part of the world.
* `Link.Within`, `Transport.Within`, `Junction.Within`, `Radio.Within`,
  `Turn.Within`: Surroundings that keep to a part of the world.
* `Exchange.Within`: A course of calls that does so on every such junction.
* `Exchange.Blind`, `Transport.Secluded`: Transports that have a state, and
  hooks to call, and nothing else.
* `watchedOwn`, `watchedRest`: Views of a world that is being recorded.

## Theorems

* `Confined.pure`, `Confined.bind`: Confinement line by line.
* `Radio.confined_turn`: A turn is as confined as its surroundings.
* `Transport.Secluded.within`: A secluded transport keeps to what its hooks keep
  to.
* `Scene.alike`: A radio does the same in worlds that look the same to it.
-/

namespace PacketRadio

variable {ω α β γ δ τ σ : Type}

/-- The action sees and changes no more of the world than `own`, and it leaves
    `rest` alone. Its result is as described, in any world. -/
structure Confined (own : ω → α) (rest : ω → β) (act : StateM ω γ) (result : γ → Prop) :
    Prop where
  result_of (world : ω) : result (act world).1
  rest_eq (world : ω) : rest (act world).2 = rest world
  alike {world world' : ω} (h : own world = own world') :
    (act world).1 = (act world').1 ∧ own (act world).2 = own (act world').2

variable {own : ω → α} {rest : ω → β}

namespace Confined

theorem pure {value : γ} {result : γ → Prop} (h : result value) :
    Confined own rest (pure value) result where
  result_of _ := h
  rest_eq _ := rfl
  alike h := ⟨rfl, h⟩

/-- A line of a program and what comes behind it. -/
theorem bind {first : StateM ω γ} {next : γ → StateM ω δ} {middle : γ → Prop}
    {result : δ → Prop} (hfirst : Confined own rest first middle)
    (hnext : ∀ value, middle value → Confined own rest (next value) result) :
    Confined own rest (first >>= next) result where
  result_of world := (hnext _ (hfirst.result_of world)).result_of _
  rest_eq world := ((hnext _ (hfirst.result_of world)).rest_eq _).trans (hfirst.rest_eq world)
  alike {world world'} h := by
    rcases hfirst.alike h with ⟨hvalue, hown⟩
    -- Both sides go on with the same value, in worlds that agree again.
    have hsame : (first >>= next) world' = next (first world).1 (first world').2 := by
      rw [hvalue]
      rfl
    rw [hsame]
    exact (hnext _ (hfirst.result_of world)).alike hown

theorem mono {act : StateM ω γ} {result result' : γ → Prop} (h : Confined own rest act result)
    (himp : ∀ value, result value → result' value) : Confined own rest act result' where
  result_of world := himp _ (h.result_of world)
  rest_eq := h.rest_eq
  alike := h.alike

end Confined

variable (own rest)

/-- Links that are `good` keep to a part of the world, and stay good. -/
structure Link.Within [Link σ ω] (good : σ → Prop) : Prop where
  send {link : σ} (h : good link) (payload : List UInt8) :
    Confined own rest (Link.send link payload) fun answer => good answer.2
  receive {link : σ} (h : good link) (buffer : List UInt8) :
    Confined own rest (Link.receive link buffer) fun answer => good answer.2
  poll {link : σ} (h : good link) :
    Confined own rest (Link.poll link) fun answer => good answer.2

/-- A sink that keeps to a part of the world. -/
def Binding.SinkWithin (sink : Binding (Sink ω)) : Prop :=
  ∀ data before, Confined own rest (sink.deliver data before) fun _ => True

/-- A source that keeps to a part of the world. -/
def Binding.SourceWithin (source : Binding (Source ω)) : Prop :=
  ∀ buffer before, Confined own rest (source.pull buffer before) fun _ => True

/-- A junction with a good link whose receiver keeps to a part of the world. -/
structure Junction.Within (good : σ → Prop) (junction : Junction σ ω) : Prop where
  link : good junction.link
  receiver (sink : Binding (Sink ω)) : junction.receiver = some sink → sink.SinkWithin own rest

/-- At every such junction, the exchange keeps to a part of the world. -/
def Exchange.Within [Link σ ω] (good : σ → Prop) (exchange : Exchange ω γ) : Prop :=
  ∀ junction : Junction σ ω, junction.Within own rest good →
    Confined own rest (exchange.run Junction.hooks junction) fun answer =>
      answer.2.Within own rest good

/-- Transports that keep to a part of the world. -/
structure Transport.Within (τ : Type) [Transport τ ω] [Link σ ω] (good : σ → Prop) : Prop where
  lease (transport : τ) : Confined own rest (Transport.lease transport) fun _ => True
  transmit (transport : τ) (packet : Packet) :
    (Transport.transmit transport packet).Within own rest good
  receive (transport : τ) (packet : Packet) :
    (Transport.receive transport packet).Within own rest good

/-- A usable radio whose link and callbacks keep to a part of the world. -/
structure Radio.Within (good : σ → Prop) (radio : Radio τ σ ω) : Prop where
  live : radio.isLive = true
  junction : radio.junction.Within own rest good
  source (source : Binding (Source ω)) : radio.source = some source → source.SourceWithin own rest

/-- A turn that brings no callback but one that keeps to a part of the world. -/
def Turn.Within : Turn ω → Prop
  | .request (.bindReceiver sink) => sink.SinkWithin own rest
  | .request (.bindSource source) => source.SourceWithin own rest
  | _ => True

variable {own rest}

namespace Junction

variable {good : σ → Prop} {junction : Junction σ ω}

theorem Within.withYield (h : junction.Within own rest good) (yieldPending : Bool) :
    Within own rest good { junction with yieldPending } :=
  ⟨h.link, h.receiver⟩

theorem Within.withLink (h : junction.Within own rest good) {link : σ} (hlink : good link) :
    Within own rest good { junction with link } :=
  ⟨hlink, h.receiver⟩

theorem confined_deliver (h : junction.Within own rest good) (data : List UInt8) :
    Confined own rest (junction.deliver data) fun answer => answer.2.Within own rest good := by
  cases hreceiver : junction.receiver with
  | none =>
      rw [deliver_of_receiver_eq_none hreceiver]
      exact .pure h
  | some sink =>
      by_cases hdata : data = []
      · rw [hdata, deliver_nil]
        exact .pure h
      · rw [deliver_of_receiver_eq_some hreceiver hdata]
        refine (h.receiver sink hreceiver data junction.yieldPending).bind fun answer _ => ?_
        exact .pure (h.withYield answer.2)

variable [Link σ ω] (hlinks : Link.Within own rest good)

include hlinks

theorem confined_poll (h : junction.Within own rest good) :
    Confined own rest junction.poll fun after => after.Within own rest good := by
  refine (hlinks.poll h.link).bind fun answer hlink => ?_
  exact .pure (h.withLink hlink)

theorem confined_drain (h : junction.Within own rest good) :
    Confined own rest junction.drain fun answer => answer.2.Within own rest good := by
  unfold drain
  split
  · exact .pure h
  · refine (hlinks.receive h.link chunk).bind fun answer hlink => ?_
    refine (confined_deliver (h.withLink hlink) _).bind fun taken htaken => ?_
    exact .pure htaken

theorem confined_sendPacket (h : junction.Within own rest good) (packet : Packet) :
    Confined own rest (junction.sendPacket packet) fun answer =>
      answer.2.Within own rest good := by
  refine (hlinks.send h.link packet.payload).bind fun answer hlink => ?_
  exact .pure (h.withLink hlink)

omit [Link σ ω] hlinks in
theorem confined_acceptData (h : junction.Within own rest good) (data : List UInt8) :
    Confined own rest (junction.acceptData data) fun after => after.Within own rest good := by
  refine (confined_deliver h data).bind fun answer hanswer => ?_
  exact .pure hanswer

end Junction

namespace Radio

variable [Transport τ ω] [Link σ ω] {good : σ → Prop} {radio : Radio τ σ ω}
  (htransport : Transport.Within own rest τ good)

include htransport

theorem confined_handOver (h : radio.Within own rest good) (packet : Packet) :
    Confined own rest (radio.handOver packet) fun after => after.Within own rest good := by
  refine (htransport.transmit radio.transport packet _ h.junction).bind fun answer hanswer => ?_
  exact .pure ⟨h.live, hanswer, h.source⟩

theorem confined_current (h : radio.Within own rest good) :
    Confined own rest radio.current fun answer => answer.2.Within own rest good := by
  unfold current
  split
  · exact .pure ⟨h.live, h.junction, h.source⟩
  · refine (htransport.lease radio.transport).bind fun answer _ => ?_
    exact .pure ⟨h.live, h.junction, h.source⟩

theorem confined_settle (h : radio.Within own rest good) (packet : Packet) :
    Confined own rest (radio.settle packet) fun after => after.Within own rest good := by
  unfold settle
  split
  · refine (confined_handOver htransport h packet).bind fun after hafter => ?_
    exact .pure ⟨hafter.live, hafter.junction, hafter.source⟩
  · exact .pure ⟨h.live, h.junction, h.source⟩

theorem confined_transmitReady (h : radio.Within own rest good) :
    Confined own rest radio.transmitReady fun after => after.Within own rest good := by
  cases hsource : radio.source with
  | none =>
      simp only [transmitReady, hsource]
      exact .pure h
  | some source =>
      simp only [transmitReady, hsource]
      refine (confined_current htransport h).bind fun fetched hfetched => ?_
      rcases fetched with ⟨_ | packet, middle⟩
      · exact .pure hfetched
      · -- The source is the one that was bound before the packet was fetched.
        refine (h.source source hsource packet.spare false).bind fun answer _ => ?_
        exact confined_settle htransport hfetched _

theorem confined_flush (h : radio.Within own rest good) :
    Confined own rest radio.flush fun after => after.Within own rest good := by
  unfold flush
  split
  · exact .pure h
  · have hemptied : Within own rest good { radio with inFlight := none } :=
      ⟨h.live, h.junction, h.source⟩
    exact confined_handOver htransport hemptied _

theorem confined_inbound (h : radio.Within own rest good) (packet : Packet) :
    Confined own rest (radio.inbound packet) fun answer => answer.2.Within own rest good := by
  refine (htransport.receive radio.transport packet _ h.junction).bind fun answer hanswer => ?_
  exact .pure ⟨h.live, hanswer.withYield false, h.source⟩

variable (hlinks : Link.Within own rest good)

include hlinks

theorem confined_tick (h : radio.Within own rest good) :
    Confined own rest radio.tick fun answer => answer.2.Within own rest good := by
  refine (Junction.confined_poll hlinks h.junction).bind fun polled hpolled => ?_
  refine (Junction.confined_drain hlinks hpolled).bind fun drained hdrained => ?_
  have hserved : ∀ countdown, Within own rest good
      { radio with junction := drained.2.takeYield.2, countdown } := fun _ =>
    ⟨h.live, hdrained.withYield false, h.source⟩
  rcases hcount : radio.countdown.tick with ⟨expired, countdown⟩
  cases expired with
  | false => exact .pure (hserved countdown)
  | true =>
      refine (confined_flush htransport (hserved countdown)).bind fun after hafter => ?_
      exact .pure hafter

/-- A turn is as confined as its surroundings are. -/
theorem confined_turn (h : radio.Within own rest good) {turn : Turn ω}
    (hturn : turn.Within own rest) :
    Confined own rest (radio.turn turn) fun answer => answer.2.Within own rest good := by
  cases turn with
  | tick => exact confined_tick htransport hlinks h
  | request asked =>
      cases asked with
      | bindReceiver sink =>
          refine .pure ⟨h.live, ⟨h.junction.link, fun bound hbound => ?_⟩, h.source⟩
          exact Option.some.inj hbound ▸ hturn
      | bindSource source =>
          refine .pure ⟨h.live, h.junction, fun bound hbound => ?_⟩
          exact Option.some.inj hbound ▸ hturn
      | transmitReady available =>
          refine (confined_transmitReady htransport h).bind fun after hafter => ?_
          exact .pure hafter
      | receiveReady available => exact .pure h
      | setBaud rate => exact .pure h
      | inbound packet => exact confined_inbound htransport h packet

end Radio

/-- An exchange in which the transport never looks at the world. -/
inductive Exchange.Blind : Exchange ω γ → Prop where
  | done {result : γ} : Blind (.done result)
  | send {packet : Packet} {next : Bool → Exchange ω γ}
      (hnext : ∀ accepted, Blind (next accepted)) : Blind (.send packet next)
  | accept {data : List UInt8} {next : Exchange ω γ} (hnext : Blind next) :
      Blind (.accept data next)
  | setBaud {rate : UInt32} {next : Exchange ω γ} (hnext : Blind next) :
      Blind (.setBaud rate next)

/-- Transports that keep to themselves: they have a state, and hooks to call, and
    nothing else. -/
structure Transport.Secluded (τ ω : Type) [Transport τ ω] : Prop where
  start (terms : Terms) : ∃ transport : τ, Transport.start (ω := ω) terms = pure transport
  lease (transport : τ) : ∃ answer, Transport.lease (ω := ω) transport = pure answer
  transmit (transport : τ) (packet : Packet) :
    (Transport.transmit (ω := ω) transport packet).Blind
  receive (transport : τ) (packet : Packet) : (Transport.receive (ω := ω) transport packet).Blind

theorem Immediate.secluded : Transport.Secluded Immediate ω where
  start terms := ⟨ofTerms terms, rfl⟩
  lease transport := ⟨transport.lease, rfl⟩
  transmit _ _ := .send fun _ => .done
  receive transport packet := by
    show (Immediate.receive transport packet).Blind
    rw [Immediate.receive]
    split
    · exact .accept .done
    · exact .done

/-- Building such a transport, and a radio around it, leaves no traces. -/
theorem Transport.Secluded.world_start [Transport τ ω] (h : Transport.Secluded τ ω)
    (settings : Settings) (period : Period) (link : σ) (world : ω) :
    (Scene.start settings period link world : Scene τ σ ω).world = world := by
  rcases h.start (Radio.terms settings) with ⟨transport, hstart⟩
  show (Transport.start (τ := τ) (Radio.terms settings) world).2 = world
  rw [hstart]
  rfl

section

variable [Link σ ω] {good : σ → Prop} (hlinks : Link.Within own rest good)

include hlinks

theorem Exchange.Blind.within {exchange : Exchange ω γ} (h : exchange.Blind) :
    exchange.Within own rest good := by
  induction h with
  | done => exact fun junction hjunction => .pure hjunction
  | @send packet _ _ ih =>
      intro junction hjunction
      refine (junction.confined_sendPacket hlinks hjunction packet).bind fun answer hanswer => ?_
      exact ih answer.1 answer.2 hanswer
  | @accept data _ _ ih =>
      intro junction hjunction
      refine (junction.confined_acceptData hjunction data).bind fun after hafter => ?_
      exact ih after hafter
  | setBaud _ ih => exact ih

/-- A transport that sees nothing but its hooks keeps to what they keep to. -/
theorem Transport.Secluded.within [Transport τ ω] (h : Transport.Secluded τ ω) :
    Transport.Within own rest τ good where
  lease transport := by
    rcases h.lease transport with ⟨answer, hlease⟩
    rw [hlease]
    exact .pure trivial
  transmit transport packet := (h.transmit transport packet).within hlinks
  receive transport packet := (h.receive transport packet).within hlinks

end

section

variable (own rest)

/-- A view of a world, and the record of calls with it. -/
def watchedOwn (watched : Watched ω) : α × List (Call ω) := (own watched.world, watched.events)

/-- A view of a world that does not show the record. -/
def watchedRest (watched : Watched ω) : β := rest watched.world

variable {own rest}

namespace Confined

theorem lift {act : StateM ω γ} {result : γ → Prop} (h : Confined own rest act result) :
    Confined (watchedOwn own) (watchedRest rest) (Recorded.lift act) result where
  result_of watched := h.result_of watched.world
  rest_eq watched := h.rest_eq watched.world
  alike {watched watched'} hsame := by
    rcases h.alike (congrArg Prod.fst hsame) with ⟨hvalue, hown⟩
    have hevents : watched.events = watched'.events := congrArg Prod.snd hsame
    exact ⟨hvalue, Prod.ext hown hevents⟩

theorem note (event : Call ω) :
    Confined (watchedOwn own) (watchedRest rest) (Recorded.note event) fun _ => True where
  result_of _ := trivial
  rest_eq _ := rfl
  alike {watched watched'} hsame := by
    have hevents : watched.events = watched'.events := congrArg Prod.snd hsame
    have hown : own watched.world = own watched'.world := congrArg Prod.fst hsame
    exact ⟨rfl, Prod.ext hown (congrArg (· ++ [event]) hevents)⟩

/-- What is done after an event was written down is as confined as it is
    without that. -/
theorem noted {result : γ → Prop} (event : Call ω) (act : StateM (Watched ω) γ)
    (h : Confined (watchedOwn own) (watchedRest rest) act result) :
    Confined (watchedOwn own) (watchedRest rest) (Recorded.note event >>= fun _ => act) result :=
  (note event).bind fun _ _ => h

end Confined

theorem Binding.SinkWithin.observed {sink : Binding (Sink ω)} (h : sink.SinkWithin own rest) :
    sink.observedSink.SinkWithin (watchedOwn own) (watchedRest rest) := by
  intro data before
  refine (h data before).lift.bind fun answer _ => ?_
  exact (Confined.note _).bind fun _ _ => .pure trivial

theorem Binding.SourceWithin.observed {source : Binding (Source ω)}
    (h : source.SourceWithin own rest) :
    source.observedSource.SourceWithin (watchedOwn own) (watchedRest rest) := by
  intro buffer before
  refine (h buffer before).lift.bind fun answer _ => ?_
  exact (Confined.note _).bind fun _ _ => .pure trivial

theorem Turn.Within.observed {turn : Turn ω} (h : turn.Within own rest) :
    turn.observed.Within (watchedOwn own) (watchedRest rest) := by
  cases turn with
  | tick => trivial
  | request asked =>
      cases asked with
      | bindReceiver sink => exact Binding.SinkWithin.observed h
      | bindSource source => exact Binding.SourceWithin.observed h
      | transmitReady available => trivial
      | receiveReady available => trivial
      | setBaud rate => trivial
      | inbound packet => trivial

variable {good : σ → Prop}

theorem Junction.Within.observed {junction : Junction σ ω} (h : junction.Within own rest good) :
    junction.observed.Within (watchedOwn own) (watchedRest rest) fun link => good link.inner := by
  refine ⟨h.link, fun observed hobserved => ?_⟩
  rcases Option.map_eq_some_iff.1 hobserved with ⟨sink, hsink, rfl⟩
  exact (h.receiver sink hsink).observed

theorem Radio.Within.observed {radio : Radio τ σ ω} (h : radio.Within own rest good) :
    radio.observed.Within (watchedOwn own) (watchedRest rest) fun link => good link.inner := by
  refine ⟨h.live, h.junction.observed, fun observed hobserved => ?_⟩
  rcases Option.map_eq_some_iff.1 hobserved with ⟨source, hsource, rfl⟩
  exact (h.source source hsource).observed

variable [Link σ ω]

theorem Link.Within.observed (h : Link.Within own rest good) :
    Link.Within (watchedOwn own) (watchedRest rest) fun link : Observed σ => good link.inner where
  send {link} hlink payload := by
    refine (h.send hlink payload).lift.bind fun answer hanswer => ?_
    exact (Confined.note _).bind fun _ _ => .pure hanswer
  receive {link} hlink buffer := by
    refine (h.receive hlink buffer).lift.bind fun answer hanswer => ?_
    exact (Confined.note _).bind fun _ _ => .pure hanswer
  poll {link} hlink := by
    refine (h.poll hlink).lift.bind fun answer hanswer => ?_
    exact (Confined.note _).bind fun _ _ => .pure hanswer

/-- A blind exchange stays within bounds when it is observed. It looks at a
    watched world then, but only to write in the record. -/
theorem Exchange.Blind.observed_within (hlinks : Link.Within own rest good)
    {exchange : Exchange ω γ} (h : exchange.Blind) :
    exchange.observed.Within (watchedOwn own) (watchedRest rest)
      fun link : Observed σ => good link.inner := by
  induction h with
  | done => exact fun junction hjunction => .pure hjunction
  | @send packet _ _ ih =>
      intro junction hjunction
      refine (junction.confined_sendPacket hlinks.observed hjunction packet).bind
        fun answer hanswer => ?_
      exact ih answer.1 answer.2 hanswer
  | @accept data next _ ih =>
      intro junction hjunction
      refine Confined.noted (Call.accept data)
        (junction.acceptData data >>= next.observed.run Junction.hooks) ?_
      refine (junction.confined_acceptData hjunction data).bind fun after hafter => ?_
      exact ih after hafter
  | setBaud _ ih => exact ih

theorem Exchange.Blind.noted_within (hlinks : Link.Within own rest good)
    {exchange : Exchange ω τ} (h : exchange.Blind) (call : Call ω) :
    (exchange.noted call).Within (watchedOwn own) (watchedRest rest)
      fun link : Observed σ => good link.inner := by
  intro junction hjunction
  refine Confined.noted call _ ?_
  rw [Exchange.run_bind]
  refine (h.observed_within hlinks junction hjunction).bind fun answer hanswer => ?_
  exact .pure hanswer

theorem Transport.Secluded.observed_within [Transport τ ω] (h : Transport.Secluded τ ω)
    (hlinks : Link.Within own rest good) :
    Transport.Within (watchedOwn own) (watchedRest rest) (Observed τ)
      fun link : Observed σ => good link.inner where
  lease transport := by
    rcases h.lease transport.inner with ⟨answer, hlease⟩
    have hplain : Confined own rest (Transport.lease (ω := ω) transport.inner) fun _ => True := by
      rw [hlease]
      exact .pure trivial
    refine hplain.lift.bind fun granted _ => ?_
    exact (Confined.note _).bind fun _ _ => .pure trivial
  transmit transport packet := (h.transmit transport.inner packet).noted_within hlinks _
  receive transport packet := (h.receive transport.inner packet).noted_within hlinks _

/-- A radio does the same in two worlds that agree on its own part. It gives the
    same answer, makes the same calls, gets the same answers to them, and is the
    same radio afterwards. The worlds agree on that part again, and the rest of
    each is as it was. -/
theorem Scene.alike [Transport τ ω] (hsecluded : Transport.Secluded τ ω)
    (hlinks : Link.Within own rest good) {radio : Radio τ σ ω}
    (hradio : radio.Within own rest good) {turn : Turn ω} (hturn : turn.Within own rest)
    {world world' : ω} (h : own world = own world') :
    let scene : Scene τ σ ω := ⟨radio, world⟩
    let scene' : Scene τ σ ω := ⟨radio, world'⟩
    (radio.turn turn world).1 = (radio.turn turn world').1 ∧
      scene.calls [turn] = scene'.calls [turn] ∧
      own (scene.after [turn]).world = own (scene'.after [turn]).world := by
  intro scene scene'
  have hplain := Radio.confined_turn (hsecluded.within hlinks) hlinks hradio hturn
  -- The calls are what the record has gained in a run that began without one.
  have hwatched := Radio.confined_turn (hsecluded.observed_within hlinks) hlinks.observed
    hradio.observed hturn.observed
  have hbegin : watchedOwn own ⟨world, []⟩ = watchedOwn own (⟨world', []⟩ : Watched ω) :=
    Prod.ext h rfl
  rcases hplain.alike h with ⟨hresult, hown⟩
  have hcalls := congrArg Prod.snd (hwatched.alike hbegin).2
  exact ⟨hresult, hcalls, hown⟩

end

end PacketRadio
