import PacketRadio.Proofs.Call

/-!
# The Conduct of a Radio

What one turn of a radio can do, as rules.

A turn is a request or a tick. The definitions of `Radio` say what a turn does
as programs, whose branches depend on what the surroundings answer. The rules
here say the same from outside: from which state, with which calls and answers,
a turn leads to which state. An answer is anything the surroundings can give,
in any world whatever, and a premise `Possible …` records which program gave
it. That the programs follow the rules is shown in `Proofs.Mirror`; statements
about runs then need one case for each rule and no program.

The rules are laid out like the state. An exchange of a transport and the
service of a tick act on the junction; fetching a packet and handing it over
are the parts of a turn that involve the transport; a turn puts these together.

## Main definitions

* `Turn`, `Radio.turn`: A request or a tick, and taking it.
* `Junction.Delivered`: Bringing bytes to the receiver.
* `Exchange.Course`: An exchange carried out on a junction.
* `Junction.Drained`, `Junction.Serviced`: The part of a tick that belongs to
  the junction.
* `Radio.Fetched`, `Radio.HandedOver`: Where a packet comes from and goes to.
* `Radio.Filled`, `Radio.Ticked`, `Radio.Turned`: What turns do.

## Theorems

* `Exchange.Course.atJunction`, `Junction.Serviced.atJunction`: What a
  transport does, and what serves a tick, happens at the junction.
* `Exchange.Course.quiet`, `Junction.Serviced.quiet`: Neither of them fills
  packets or hands them over.
-/

namespace PacketRadio

variable {τ σ ω α : Type}

/-- Something that happens to one radio. -/
inductive Turn (ω : Type) where
  | request (request : Radio.Request ω)
  | tick

/-- A turn whose callbacks write down what they are asked. -/
def Turn.observed : Turn ω → Turn (Watched ω)
  | .request asked => .request asked.observed
  | .tick => .tick

/-- Take a turn. The answer is whether a yield was asked for. -/
def Radio.turn [Transport τ ω] [Link σ ω] (radio : Radio τ σ ω) :
    Turn ω → StateM ω (Bool × Radio τ σ ω)
  | .request asked => radio.perform asked
  | .tick => radio.tick

/-- Bytes are brought to the receiver. -/
inductive Junction.Delivered (junction : Junction σ ω) (data : List UInt8) :
    List (Call ω) → Junction σ ω → Prop where
  -- Nobody takes them, or there are none.
  | nowhere (h : junction.receiver = none ∨ data = []) :
      Delivered junction data [] junction
  | received {sink : Binding (Sink ω)} {taken : Nat} {wish : Bool}
      (hreceiver : junction.receiver = some sink) (hdata : data ≠ [])
      (hdeliver : Possible (sink.deliver data junction.yieldPending) (taken, wish)) :
      Delivered junction data [.deliver sink data junction.yieldPending taken wish]
        { junction with yieldPending := wish }

/-- An exchange is carried out on a junction, with these calls and this
    result. -/
inductive Exchange.Course [Link σ ω] : Exchange ω α → Junction σ ω → List (Call ω) → α →
    Junction σ ω → Prop where
  | done {result : α} {junction : Junction σ ω} :
      Course (.done result) junction [] result junction
  -- The transport learns no more of the answer than whether it is a success.
  | send {packet : Packet} {next : Bool → Exchange ω α} {junction after : Junction σ ω}
      {answer : Except LinkError Unit} {link : σ} {calls : List (Call ω)} {result : α}
      (hsend : Possible (Link.send (ω := ω) junction.link packet.payload) (answer, link))
      (rest : Course (next answer.toBool) { junction with link } calls result after) :
      Course (.send packet next) junction (.send packet.payload answer :: calls) result after
  | accept {data : List UInt8} {next : Exchange ω α} {junction middle after : Junction σ ω}
      {first calls : List (Call ω)} {result : α}
      (hdeliver : junction.Delivered data first middle)
      (rest : Course next middle calls result after) :
      Course (.accept data next) junction (.accept data :: (first ++ calls)) result after
  | setBaud {rate : UInt32} {next : Exchange ω α} {junction after : Junction σ ω}
      {calls : List (Call ω)} {result : α} (rest : Course next junction calls result after) :
      Course (.setBaud rate next) junction calls result after
  -- The world that a transport looks at, and the one it leaves, may be any.
  | look {world : ω} {next : ω → Exchange ω α} {junction after : Junction σ ω}
      {calls : List (Call ω)} {result : α}
      (rest : Course (next world) junction calls result after) :
      Course (.look next) junction calls result after
  | put {world : ω} {next : Exchange ω α} {junction after : Junction σ ω}
      {calls : List (Call ω)} {result : α} (rest : Course next junction calls result after) :
      Course (.put world next) junction calls result after

/-- A chunk of what came in on the link is moved to the receiver. -/
inductive Junction.Drained [Link σ ω] (junction : Junction σ ω) :
    List (Call ω) → Junction σ ω → Prop where
  -- Where nobody receives, nothing is read either.
  | unbound (hreceiver : junction.receiver = none) : Drained junction [] junction
  | moved {sink : Binding (Sink ω)} {fill : Fill} {link : σ} {calls : List (Call ω)}
      {after : Junction σ ω} (hreceiver : junction.receiver = some sink)
      (hread : Possible (Link.receive (ω := ω) junction.link Junction.chunk) (fill, link))
      (hdeliver : Delivered { junction with link } (fill.claimed Junction.chunk) calls after) :
      Drained junction (.receive Junction.chunk fill :: calls) after

/-- The part of a tick that belongs to the junction: the link is polled, a
    chunk is drained, and the wish to yield is taken. -/
inductive Junction.Serviced [Link σ ω] (junction : Junction σ ω) :
    List (Call ω) → Bool → Junction σ ω → Prop where
  | intro {answer : Except LinkError Unit} {link : σ} {calls : List (Call ω)}
      {after : Junction σ ω}
      (hpoll : Possible (Link.poll (ω := ω) junction.link) (answer, link))
      (hdrain : Drained { junction with link } calls after) :
      Serviced junction (.poll answer :: calls) after.takeYield.1 after.takeYield.2

theorem Junction.Delivered.atJunction {junction after : Junction σ ω} {data : List UInt8}
    {calls : List (Call ω)} (h : junction.Delivered data calls after) :
    ∀ call ∈ calls, call.AtJunction := by
  cases h with
  | nowhere _ => exact nofun
  | received _ _ _ => exact List.forall_mem_singleton.2 trivial

theorem Exchange.Course.atJunction [Link σ ω] {exchange : Exchange ω α}
    {junction after : Junction σ ω} {calls : List (Call ω)} {result : α}
    (h : exchange.Course junction calls result after) : ∀ call ∈ calls, call.AtJunction := by
  induction h with
  | done => exact nofun
  | send _ _ ih => exact List.forall_mem_cons.2 ⟨trivial, ih⟩
  | accept hdeliver _ ih =>
      exact List.forall_mem_cons.2 ⟨trivial, List.forall_mem_append.2 ⟨hdeliver.atJunction, ih⟩⟩
  | setBaud _ ih => exact ih
  | look _ ih => exact ih
  | put _ ih => exact ih

theorem Junction.Serviced.atJunction [Link σ ω] {junction after : Junction σ ω}
    {calls : List (Call ω)} {wish : Bool} (h : junction.Serviced calls wish after) :
    ∀ call ∈ calls, call.AtJunction := by
  rcases h with ⟨_, hdrain⟩
  refine List.forall_mem_cons.2 ⟨trivial, ?_⟩
  cases hdrain with
  | unbound _ => exact nofun
  | moved _ _ hdeliver => exact List.forall_mem_cons.2 ⟨trivial, hdeliver.atJunction⟩

/-- So no packet is handed over in an exchange, and no bytes are brought in. -/
theorem Exchange.Course.quiet [Link σ ω] {exchange : Exchange ω α}
    {junction after : Junction σ ω} {calls : List (Call ω)} {result : α}
    (h : exchange.Course junction calls result after) :
    Call.handedOver calls = [] ∧ Call.contributed calls = [] :=
  ⟨Call.handedOver_of_atJunction h.atJunction, Call.contributed_of_atJunction h.atJunction⟩

theorem Junction.Serviced.quiet [Link σ ω] {junction after : Junction σ ω}
    {calls : List (Call ω)} {wish : Bool} (h : junction.Serviced calls wish after) :
    Call.handedOver calls = [] ∧ Call.contributed calls = [] :=
  ⟨Call.handedOver_of_atJunction h.atJunction, Call.contributed_of_atJunction h.atJunction⟩

namespace Radio

/-- A packet is got hold of, to be filled: the one in flight, or a leased one
    that is started over, or none if the lease is refused. -/
inductive Fetched [Transport τ ω] (radio : Radio τ σ ω) :
    List (Call ω) → Option Packet → τ → Prop where
  | held {packet : Packet} (hslot : radio.inFlight = some packet) :
      Fetched radio [] (some packet) radio.transport
  | leased {packet : Packet} {transport : τ} (hslot : radio.inFlight = none)
      (hlease : Possible (Transport.lease (ω := ω) radio.transport) (some packet, transport)) :
      Fetched radio [.lease (some packet)] (some (packet.reset .data)) transport
  | refused {transport : τ} (hslot : radio.inFlight = none)
      (hlease : Possible (Transport.lease (ω := ω) radio.transport) (none, transport)) :
      Fetched radio [.lease none] none transport

/-- A packet is handed to the transport, which does with it what it likes. -/
inductive HandedOver [Transport τ ω] [Link σ ω] (radio : Radio τ σ ω) (packet : Packet) :
    List (Call ω) → Radio τ σ ω → Prop where
  | intro {calls : List (Call ω)} {transport : τ} {junction : Junction σ ω}
      (hcourse : (Transport.transmit radio.transport packet).Course radio.junction calls
        transport junction) :
      HandedOver radio packet (.transmit packet :: calls) { radio with transport, junction }

/-- There was room to transmit. -/
inductive Filled [Transport τ ω] [Link σ ω] (radio : Radio τ σ ω) :
    List (Call ω) → Radio τ σ ω → Prop where
  | unsourced (hsource : radio.source = none) : Filled radio [] radio
  | unfetched {source : Binding (Source ω)} {calls : List (Call ω)} {transport : τ}
      (hsource : radio.source = some source) (hfetch : radio.Fetched calls none transport) :
      Filled radio calls { radio with transport, inFlight := none }
  -- The packet is not large enough yet and stays.
  | kept {source : Binding (Source ω)} {calls : List (Call ω)} {packet : Packet} {transport : τ}
      {fill : Fill} {wish : Bool} (hsource : radio.source = some source)
      (hfetch : radio.Fetched calls (some packet) transport)
      (hpull : Possible (source.pull packet.spare false) (fill, wish))
      (hsmall : isDue radio.settings (packet.absorb fill) = false) :
      Filled radio (calls ++ [.pull source packet.spare false fill wish])
        { radio with transport, inFlight := some (packet.absorb fill) }
  -- The packet is large enough and leaves, and the next one gets its full time.
  | sent {source : Binding (Source ω)} {calls more : List (Call ω)} {packet : Packet}
      {transport : τ} {fill : Fill} {wish : Bool} {after : Radio τ σ ω}
      (hsource : radio.source = some source)
      (hfetch : radio.Fetched calls (some packet) transport)
      (hpull : Possible (source.pull packet.spare false) (fill, wish))
      (hdue : isDue radio.settings (packet.absorb fill) = true)
      (hover : HandedOver { radio with transport, inFlight := none } (packet.absorb fill) more
        after) :
      Filled radio (calls ++ .pull source packet.spare false fill wish :: more)
        { after with countdown := after.countdown.rearm }

/-- The timer ticked. -/
inductive Ticked [Transport τ ω] [Link σ ω] (radio : Radio τ σ ω) :
    List (Call ω) → Bool → Radio τ σ ω → Prop where
  | waiting {calls : List (Call ω)} {wish : Bool} {junction : Junction σ ω}
      {countdown : Countdown} (hservice : radio.junction.Serviced calls wish junction)
      (hcount : radio.countdown.tick = (false, countdown)) :
      Ticked radio calls wish { radio with junction, countdown }
  | empty {calls : List (Call ω)} {wish : Bool} {junction : Junction σ ω}
      {countdown : Countdown} (hservice : radio.junction.Serviced calls wish junction)
      (hcount : radio.countdown.tick = (true, countdown)) (hslot : radio.inFlight = none) :
      Ticked radio calls wish { radio with junction, countdown }
  -- The deadline forces the packet in flight out, after the link was served.
  | flushed {calls more : List (Call ω)} {wish : Bool} {junction : Junction σ ω}
      {countdown : Countdown} {packet : Packet} {after : Radio τ σ ω}
      (hservice : radio.junction.Serviced calls wish junction)
      (hcount : radio.countdown.tick = (true, countdown))
      (hslot : radio.inFlight = some packet)
      (hover : HandedOver { radio with junction, countdown, inFlight := none } packet more after) :
      Ticked radio (calls ++ more) wish after

/-- A turn was taken. -/
inductive Turned [Transport τ ω] [Link σ ω] (radio : Radio τ σ ω) :
    Turn ω → List (Call ω) → Bool → Radio τ σ ω → Prop where
  | bindReceiver {sink : Binding (Sink ω)} :
      Turned radio (.request (.bindReceiver sink)) [] false (radio.bindReceiver sink)
  | bindSource {source : Binding (Source ω)} :
      Turned radio (.request (.bindSource source)) [] false (radio.bindSource source)
  | transmitReady {available : UInt16} {calls : List (Call ω)} {after : Radio τ σ ω}
      (hfill : radio.Filled calls after) :
      Turned radio (.request (.transmitReady available)) calls false after
  | receiveReady {available : UInt16} :
      Turned radio (.request (.receiveReady available)) [] false radio
  | setBaud {rate : UInt32} : Turned radio (.request (.setBaud rate)) [] false radio
  | inbound {packet : Packet} {calls : List (Call ω)} {transport : τ} {junction : Junction σ ω}
      (hcourse : (Transport.receive radio.transport packet).Course radio.junction calls
        transport junction) :
      Turned radio (.request (.inbound packet)) (.inbound packet :: calls) junction.takeYield.1
        { radio with transport, junction := junction.takeYield.2 }
  | tick {calls : List (Call ω)} {wish : Bool} {after : Radio τ σ ω}
      (htick : radio.Ticked calls wish after) :
      Turned radio .tick calls wish after

end Radio

end PacketRadio
