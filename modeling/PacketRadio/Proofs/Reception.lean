import PacketRadio.Proofs.Deadline
import PacketRadio.Proofs.EndToEnd
import PacketRadio.Proofs.Serial.Inlet

/-!
# Reception

What becomes of the bytes that come in.

Two producers feed one receiver. A tick drains a chunk from the link, and a
transport passes slices on whenever it is called, which may be in the same
tick. The receiver may be missing, may come late and may be replaced. What it
is told is therefore stated by what was on offer when it was bound: of all the
chunks and slices, in the order in which they came up, the ones that are not
empty (`due`).

The two producers fare differently where nobody receives. A slice that is
accepted then is gone. A chunk is not even read, so its bytes wait on the link,
and that is why nothing is lost between the link and the ticks: what the ticks
drained, with what still waits behind it, is what the link was fed.

Bytes are fed to the link from the far side, between the turns of the radio. A
run is a list of moments, in each of which either a turn is taken or bytes
arrive.

## Main definitions

* `Call.chunks`, `Call.slices`, `Call.offers`: What the ticks drained, what the
  transport passed on, and both in the order in which they came up.
* `Call.deliveries`: What receivers were told.
* `due`, `dues`: What they were to be told.
* `Junction.Took`: What is received in some calls.
* `Moment`: A turn that is taken, or an arrival of bytes.
* `Scene.passages`: The turns of a run, each with its calls.

## Theorems

* `Exchange.Course.took`, `Junction.Serviced.took`, `Radio.Turned.took`: What an
  exchange, the service of a tick and a turn receive.
* `Radio.Turned.reads`: When the link is read.
* `Scene.receives`: What a run receives, moment after moment.
* `Scene.slices_eq`: What the immediate transport passes on.
* `Scene.reception`: Everything that is received in a run.
-/

namespace PacketRadio

variable {τ σ ω α : Type}

namespace Call

/-- The bytes a tick drained from the link. -/
@[simp] def chunk? : Call ω → Option (List UInt8)
  | .receive offered fill => some (fill.claimed offered)
  | _ => none

/-- The bytes a transport passed on as received. -/
@[simp] def slice? : Call ω → Option (List UInt8)
  | .accept data => some data
  | _ => none

/-- The bytes that came up in either way. -/
@[simp] def offer? : Call ω → Option (List UInt8)
  | .receive offered fill => some (fill.claimed offered)
  | .accept data => some data
  | _ => none

/-- The bytes a receiver was brought, and the receiver. -/
@[simp] def delivery? : Call ω → Option (Binding (Sink ω) × List UInt8)
  | .deliver sink data _ _ _ => some (sink, data)
  | _ => none

def chunks (calls : List (Call ω)) : List (List UInt8) := calls.filterMap chunk?

def slices (calls : List (Call ω)) : List (List UInt8) := calls.filterMap slice?

def offers (calls : List (Call ω)) : List (List UInt8) := calls.filterMap offer?

def deliveries (calls : List (Call ω)) : List (Binding (Sink ω) × List UInt8) :=
  calls.filterMap delivery?

theorem chunks_append (first second : List (Call ω)) :
    chunks (first ++ second) = chunks first ++ chunks second :=
  List.filterMap_append

theorem slices_append (first second : List (Call ω)) :
    slices (first ++ second) = slices first ++ slices second :=
  List.filterMap_append

theorem deliveries_append (first second : List (Call ω)) :
    deliveries (first ++ second) = deliveries first ++ deliveries second :=
  List.filterMap_append

end Call

open Call

/-- What a receiver is to be told of some calls: everything that came up in them
    and is not empty. -/
def due (receiver : Option (Binding (Sink ω))) (calls : List (Call ω)) :
    List (Binding (Sink ω) × List UInt8) :=
  match receiver with
  | none => []
  | some sink => ((offers calls).filter fun data => !data.isEmpty).map fun data => (sink, data)

/-- What is due depends on what came up, and on nothing else in the calls. -/
theorem due_congr {first second : List (Call ω)} (h : offers first = offers second)
    (receiver : Option (Binding (Sink ω))) : due receiver first = due receiver second := by
  cases receiver with
  | none => rfl
  | some sink => simp only [due, h]

theorem due_append (receiver : Option (Binding (Sink ω))) (first second : List (Call ω)) :
    due receiver (first ++ second) = due receiver first ++ due receiver second := by
  cases receiver with
  | none => rfl
  | some sink =>
      simp only [due, offers, List.filterMap_append, List.filter_append, List.map_append]

/-- Through some calls a junction received what there was to receive: what was
    drained has left the link, and the receiver was told. -/
structure Junction.Took [Link σ ω] (inlet : Link.Inlet σ ω) (junction : Junction σ ω)
    (calls : List (Call ω)) (after : Junction σ ω) : Prop where
  queue_eq : (chunks calls).flatten ++ inlet.queue after.link = inlet.queue junction.link
  deliveries_eq : deliveries calls = due junction.receiver calls
  receiver_eq : after.receiver = junction.receiver

namespace Junction

variable [Link σ ω] {inlet : Link.Inlet σ ω} {junction middle after : Junction σ ω}
  {calls : List (Call ω)}

theorem Took.append {more : List (Call ω)} (h : junction.Took inlet calls middle)
    (hmore : middle.Took inlet more after) : junction.Took inlet (calls ++ more) after := by
  refine ⟨?_, ?_, hmore.receiver_eq.trans h.receiver_eq⟩
  · rw [chunks_append, List.flatten_append, List.append_assoc, hmore.queue_eq, h.queue_eq]
  · rw [deliveries_append, due_append, h.deliveries_eq, hmore.deliveries_eq, h.receiver_eq]

/-- Calls that receive nothing leave what has arrived where it is. -/
theorem Took.of_quiet (hoffers : offers calls = []) (hchunks : chunks calls = [])
    (hdeliveries : deliveries calls = [])
    (hqueue : inlet.queue after.link = inlet.queue junction.link)
    (hreceiver : after.receiver = junction.receiver) : junction.Took inlet calls after := by
  have hdue : due junction.receiver calls = [] := by
    have hnothing : offers calls = offers ([] : List (Call ω)) := hoffers
    rw [due_congr hnothing]
    cases junction.receiver <;> rfl
  refine ⟨?_, hdeliveries.trans hdue.symm, hreceiver⟩
  rw [hchunks]
  exact hqueue

omit [Link σ ω] in
/-- Bytes are brought to the receiver, if there is one and there are any. -/
theorem Delivered.deliveries_eq {data : List UInt8} (h : junction.Delivered data calls after) :
    deliveries calls = due junction.receiver [.accept data] ∧ chunks calls = [] ∧
      slices calls = [] ∧ offers calls = [] ∧ after.link = junction.link ∧
      after.receiver = junction.receiver := by
  cases h with
  | nowhere hnobody =>
      refine ⟨?_, rfl, rfl, rfl, rfl, rfl⟩
      rcases hnobody with hunbound | rfl
      · rw [hunbound]
        rfl
      · cases junction.receiver <;> rfl
  | @received sink _ _ hreceiver hdata _ =>
      refine ⟨?_, rfl, rfl, rfl, rfl, rfl⟩
      have hmore : data.isEmpty = false := List.isEmpty_eq_false_iff.2 hdata
      rw [hreceiver]
      show [(sink, data)] = ([data].filter fun data => !data.isEmpty).map fun data => (sink, data)
      rw [List.filter_cons_of_pos (by rw [hmore]; rfl)]
      rfl

/-- A slice is passed on to the receiver, and the link is left alone. -/
theorem Delivered.took (inlet : Link.Inlet σ ω) {data : List UInt8}
    (h : junction.Delivered data calls after) :
    junction.Took inlet (.accept data :: calls) after := by
  rcases h.deliveries_eq with ⟨hdeliveries, hchunks, -, hoffers, hlink, hreceiver⟩
  have hslice : offers [(.accept data : Call ω)] = offers (.accept data :: calls) :=
    congrArg (data :: ·) hoffers.symm
  refine ⟨?_, hdeliveries.trans (due_congr hslice _), hreceiver⟩
  show (chunks calls).flatten ++ inlet.queue after.link = inlet.queue junction.link
  rw [hchunks, hlink]
  rfl

/-- A chunk leaves the link for the receiver, unless nobody receives. -/
theorem Drained.took (inlet : Link.Inlet σ ω) (h : junction.Drained calls after) :
    junction.Took inlet calls after := by
  cases h with
  | unbound hreceiver => exact .of_quiet rfl rfl rfl rfl rfl
  | @moved _ fill _ calls _ _ hread hdeliver =>
      rcases inlet.receive hread with ⟨-, hclaimed, hleft⟩
      rcases hdeliver.deliveries_eq with ⟨hdeliveries, hchunks, -, hoffers, hlink, hbound⟩
      have hchunk : chunks (.receive Junction.chunk fill :: calls) =
          [fill.claimed Junction.chunk] :=
        congrArg (fill.claimed Junction.chunk :: ·) hchunks
      -- To the receiver a chunk is a slice like any other.
      have hoffer : offers [(.accept (fill.claimed Junction.chunk) : Call ω)] =
          offers (.receive Junction.chunk fill :: calls) :=
        congrArg (fill.claimed Junction.chunk :: ·) hoffers.symm
      refine ⟨?_, hdeliveries.trans (due_congr hoffer _), hbound⟩
      rw [hchunk, hlink, hleft, List.flatten_singleton, hclaimed, List.take_append_drop]

theorem Serviced.took (inlet : Link.Inlet σ ω) {wish : Bool}
    (h : junction.Serviced calls wish after) : junction.Took inlet calls after := by
  rcases h with ⟨hpoll, hdrain⟩
  have htook := hdrain.took inlet
  exact ⟨htook.queue_eq.trans (inlet.poll hpoll), htook.deliveries_eq, htook.receiver_eq⟩

/-- The link is read once, and for a chunk, while somebody receives. -/
theorem Serviced.reads {wish : Bool} (h : junction.Serviced calls wish after) :
    (chunks calls).length = (if junction.receiver.isSome then 1 else 0) ∧
      (chunks calls).flatten.length ≤ drainChunk ∧ slices calls = [] := by
  rcases h with ⟨-, hdrain⟩
  cases hdrain with
  | unbound hreceiver =>
      have hnobody : junction.receiver = none := hreceiver
      rw [hnobody]
      exact ⟨rfl, Nat.zero_le _, rfl⟩
  | @moved sink fill _ calls _ hreceiver _ hdeliver =>
      have hsomebody : junction.receiver = some sink := hreceiver
      rcases hdeliver.deliveries_eq with ⟨-, hchunks, hslices, -⟩
      have hchunk (answer : Except LinkError Unit) :
          chunks (.poll answer :: .receive Junction.chunk fill :: calls) =
            [fill.claimed Junction.chunk] :=
        congrArg (fill.claimed Junction.chunk :: ·) hchunks
      rw [hchunk, hsomebody]
      refine ⟨rfl, ?_, hslices⟩
      rw [List.flatten_singleton, Fill.length_claimed]
      exact Nat.min_le_right _ _

end Junction

namespace Exchange

variable [Link σ ω] {exchange : Exchange ω α} {junction after : Junction σ ω}
  {calls : List (Call ω)} {result : α}

/-- A transport receives nothing but the slices it passes on. -/
theorem Course.took (inlet : Link.Inlet σ ω) (h : exchange.Course junction calls result after) :
    junction.Took inlet calls after := by
  induction h with
  | done => exact .of_quiet rfl rfl rfl rfl rfl
  | @send packet _ junction _ answer link _ _ hsend _ ih =>
      have hsent : junction.Took inlet [.send packet.payload answer] { junction with link } :=
        .of_quiet rfl rfl rfl (inlet.send hsend) rfl
      exact hsent.append ih
  | accept hdeliver _ ih => exact (hdeliver.took inlet).append ih
  | setBaud _ ih => exact ih
  | look _ ih => exact ih
  | put _ ih => exact ih

/-- A transport has no way to read the link. -/
theorem Course.chunks_eq_nil (h : exchange.Course junction calls result after) :
    chunks calls = [] := by
  induction h with
  | done => rfl
  | send _ _ ih => exact ih
  | @accept data _ _ _ _ first calls _ hdeliver _ ih =>
      show chunks (first ++ calls) = []
      rw [chunks_append, hdeliver.deliveries_eq.2.1, ih, List.append_nil]
  | setBaud _ ih => exact ih
  | look _ ih => exact ih
  | put _ ih => exact ih

end Exchange

namespace Turn

/-- Who receives after a turn, given who did before. -/
def bound (receiver : Option (Binding (Sink ω))) : Turn ω → Option (Binding (Sink ω))
  | .request (.bindReceiver sink) => some sink
  | _ => receiver

/-- The payloads of the data packets that come in with a turn, unless they are
    empty. -/
def payloads : Turn ω → List (List UInt8)
  | .request (.inbound packet) =>
    if packet.kind = .data && !packet.isEmpty then [packet.payload] else []
  | _ => []

end Turn

namespace Radio

variable [Transport τ ω] {radio after : Radio τ σ ω} {calls : List (Call ω)}

theorem Fetched.quiet {fetched : Option Packet} {transport : τ}
    (h : radio.Fetched calls fetched transport) :
    offers calls = [] ∧ chunks calls = [] ∧ slices calls = [] ∧ deliveries calls = [] := by
  cases h with
  | held _ => exact ⟨rfl, rfl, rfl, rfl⟩
  | leased _ _ => exact ⟨rfl, rfl, rfl, rfl⟩
  | refused _ _ => exact ⟨rfl, rfl, rfl, rfl⟩

variable [Link σ ω]

theorem HandedOver.took (inlet : Link.Inlet σ ω) {packet : Packet}
    (h : radio.HandedOver packet calls after) :
    radio.junction.Took inlet calls after.junction := by
  rcases h with ⟨hcourse⟩
  have hasked : radio.junction.Took inlet [.transmit packet] radio.junction :=
    .of_quiet rfl rfl rfl rfl rfl
  exact hasked.append (hcourse.took inlet)

theorem HandedOver.chunks_eq_nil {packet : Packet} (h : radio.HandedOver packet calls after) :
    chunks calls = [] := by
  rcases h with ⟨hcourse⟩
  have hnone := hcourse.chunks_eq_nil
  exact hnone

/-- Up to the pull, filling a packet receives nothing. -/
theorem Fetched.took (inlet : Link.Inlet σ ω) {fetched : Option Packet} {transport : τ}
    (h : radio.Fetched calls fetched transport) (source : Binding (Source ω))
    (spare : List UInt8) (fill : Fill) (wish : Bool) {more : List (Call ω)} {last : Junction σ ω}
    (hmore : radio.junction.Took inlet more last) :
    radio.junction.Took inlet (calls ++ .pull source spare false fill wish :: more) last := by
  rcases h.quiet with ⟨hoffers, hchunks, -, hdeliveries⟩
  have hfetched : radio.junction.Took inlet calls radio.junction :=
    .of_quiet hoffers hchunks hdeliveries rfl rfl
  have hpulled : radio.junction.Took inlet [.pull source spare false fill wish] radio.junction :=
    .of_quiet rfl rfl rfl rfl rfl
  exact hfetched.append (hpulled.append hmore)

theorem Filled.took (inlet : Link.Inlet σ ω) (h : radio.Filled calls after) :
    radio.junction.Took inlet calls after.junction := by
  have hidle : radio.junction.Took inlet [] radio.junction := .of_quiet rfl rfl rfl rfl rfl
  cases h with
  | unsourced _ => exact hidle
  | unfetched _ hfetch =>
      rcases hfetch.quiet with ⟨hoffers, hchunks, -, hdeliveries⟩
      exact .of_quiet hoffers hchunks hdeliveries rfl rfl
  | kept _ hfetch _ _ => exact hfetch.took inlet _ _ _ _ hidle
  | sent _ hfetch _ _ hover => exact hfetch.took inlet _ _ _ _ (hover.took inlet)

theorem Filled.chunks_eq_nil (h : radio.Filled calls after) : chunks calls = [] := by
  cases h with
  | unsourced _ => rfl
  | unfetched _ hfetch => exact hfetch.quiet.2.1
  | kept _ hfetch _ _ =>
      rw [chunks_append, hfetch.quiet.2.1]
      rfl
  | sent _ hfetch _ _ hover =>
      rw [chunks_append, hfetch.quiet.2.1]
      exact hover.chunks_eq_nil

/-- What the flush of a tick receives comes behind what the tick drained. -/
theorem Ticked.took (inlet : Link.Inlet σ ω) {wish : Bool} (h : radio.Ticked calls wish after) :
    radio.junction.Took inlet calls after.junction := by
  cases h with
  | waiting hservice _ => exact hservice.took inlet
  | empty hservice _ _ => exact hservice.took inlet
  | flushed hservice _ _ hover => exact (hservice.took inlet).append (hover.took inlet)

theorem Ticked.reads {wish : Bool} (h : radio.Ticked calls wish after) :
    (chunks calls).length = (if radio.junction.receiver.isSome then 1 else 0) ∧
      (chunks calls).flatten.length ≤ drainChunk := by
  cases h with
  | waiting hservice _ => exact ⟨hservice.reads.1, hservice.reads.2.1⟩
  | empty hservice _ _ => exact ⟨hservice.reads.1, hservice.reads.2.1⟩
  | flushed hservice _ _ hover =>
      rw [chunks_append, hover.chunks_eq_nil, List.append_nil]
      exact ⟨hservice.reads.1, hservice.reads.2.1⟩

variable {turn : Turn ω} {wish : Bool}

/-- A turn loses nothing that arrived, and tells the receiver what there is to
    tell. Only being bound replaces the receiver. -/
theorem Turned.took (inlet : Link.Inlet σ ω) (h : radio.Turned turn calls wish after) :
    (chunks calls).flatten ++ inlet.queue after.junction.link =
        inlet.queue radio.junction.link ∧
      deliveries calls = due radio.junction.receiver calls ∧
      after.junction.receiver = turn.bound radio.junction.receiver := by
  have hidle : deliveries [] = due radio.junction.receiver [] := by
    cases radio.junction.receiver <;> rfl
  cases h with
  | bindReceiver => exact ⟨rfl, hidle, rfl⟩
  | bindSource => exact ⟨rfl, hidle, rfl⟩
  | receiveReady => exact ⟨rfl, hidle, rfl⟩
  | setBaud => exact ⟨rfl, hidle, rfl⟩
  | transmitReady hfill =>
      have htook := hfill.took inlet
      exact ⟨htook.queue_eq, htook.deliveries_eq, htook.receiver_eq⟩
  | @inbound packet _ _ _ hcourse =>
      have hasked : radio.junction.Took inlet [.inbound packet] radio.junction :=
        .of_quiet rfl rfl rfl rfl rfl
      have htook := hasked.append (hcourse.took inlet)
      exact ⟨htook.queue_eq, htook.deliveries_eq, htook.receiver_eq⟩
  | tick htick =>
      have htook := htick.took inlet
      exact ⟨htook.queue_eq, htook.deliveries_eq, htook.receiver_eq⟩

/-- The link is read by ticks, once and for a chunk, while somebody receives. -/
theorem Turned.reads (h : radio.Turned turn calls wish after) :
    (chunks calls).length =
        (if turn.isTick && radio.junction.receiver.isSome then 1 else 0) ∧
      (chunks calls).flatten.length ≤ drainChunk := by
  have hnone (hchunks : chunks calls = []) :
      (chunks calls).length = 0 ∧ (chunks calls).flatten.length ≤ drainChunk := by
    rw [hchunks]
    exact ⟨rfl, Nat.zero_le _⟩
  cases h with
  | bindReceiver => exact hnone rfl
  | bindSource => exact hnone rfl
  | receiveReady => exact hnone rfl
  | setBaud => exact hnone rfl
  | transmitReady hfill => exact hnone hfill.chunks_eq_nil
  | inbound hcourse => exact hnone hcourse.chunks_eq_nil
  | tick htick => exact htick.reads

end Radio

section

variable [Link σ ω]

/-- The immediate transport passes the payload of a data packet on, unless it
    is empty, and nothing else. -/
theorem Immediate.slices_receive {transport after : Immediate} {packet : Packet}
    {junction junction' : Junction σ ω} {calls : List (Call ω)}
    (h : (Transport.receive (ω := ω) transport packet).Course junction calls after junction') :
    slices calls = (Turn.request (.inbound packet) : Turn ω).payloads := by
  have hcourse : (transport.receive packet : Exchange ω Immediate).Course junction calls after
      junction' := h
  unfold Immediate.receive at hcourse
  rw [Turn.payloads]
  by_cases hpass : (packet.kind = .data && !packet.isEmpty) = true
  · rw [if_pos hpass] at hcourse ⊢
    have haccept : (Exchange.accept packet.payload (.done transport)).Course junction calls after
        junction' := hcourse
    cases haccept with
    | @accept _ _ _ _ _ first _ _ hdeliver rest =>
        cases rest with
        | done =>
            have hquiet := hdeliver.deliveries_eq.2.2.1
            show packet.payload :: slices (first ++ []) = _
            rw [List.append_nil, hquiet]
  · rw [if_neg hpass] at hcourse ⊢
    have hdone : (Exchange.done transport).Course junction calls after junction' := hcourse
    cases hdone with
    | done => rfl

namespace Radio

variable {radio after : Radio Immediate σ ω} {calls : List (Call ω)}

theorem HandedOver.slices_eq_nil {packet : Packet} (h : radio.HandedOver packet calls after) :
    slices calls = [] := by
  rcases h with ⟨hcourse⟩
  rcases Immediate.course_transmit hcourse with ⟨answer, rfl, -⟩
  rfl

/-- With the immediate transport, only packets that come in are passed on. -/
theorem Turned.slices_eq {turn : Turn ω} {wish : Bool} (h : radio.Turned turn calls wish after) :
    slices calls = turn.payloads := by
  cases h with
  | bindReceiver => rfl
  | bindSource => rfl
  | receiveReady => rfl
  | setBaud => rfl
  | inbound hcourse =>
      have hpassed := Immediate.slices_receive hcourse
      exact hpassed
  | transmitReady hfill =>
      cases hfill with
      | unsourced _ => rfl
      | unfetched _ hfetch => exact hfetch.quiet.2.2.1
      | kept _ hfetch _ _ =>
          rw [slices_append, hfetch.quiet.2.2.1]
          rfl
      | sent _ hfetch _ _ hover =>
          rw [slices_append, hfetch.quiet.2.2.1]
          exact hover.slices_eq_nil
  | tick htick =>
      cases htick with
      | waiting hservice _ => exact hservice.reads.2.2
      | empty hservice _ _ => exact hservice.reads.2.2
      | flushed hservice _ _ hover =>
          rw [slices_append, hservice.reads.2.2, hover.slices_eq_nil]
          rfl

end Radio

end

/-- Something that happens while a radio runs. -/
inductive Moment (ω : Type) where
  | taken (turn : Turn ω)
  /-- Bytes are fed to the link from the far side. -/
  | arrival (bytes : List UInt8)

namespace Moment

/-- The bytes that arrive. -/
def arrived : Moment ω → List UInt8
  | .taken _ => []
  | .arrival bytes => bytes

/-- Who receives afterwards, given who did before. -/
def bound (receiver : Option (Binding (Sink ω))) : Moment ω → Option (Binding (Sink ω))
  | .taken turn => turn.bound receiver
  | .arrival _ => receiver

/-- The payloads of the data packets that come in, unless they are empty. -/
def payloads : Moment ω → List (List UInt8)
  | .taken turn => turn.payloads
  | .arrival _ => []

end Moment

/-- What receivers were to be told in turns with these calls. The first receiver
    is given; from then on it is the one that was bound last. -/
def dues (receiver : Option (Binding (Sink ω))) :
    List (Turn ω × List (Call ω)) → List (Binding (Sink ω) × List UInt8)
  | [] => []
  | (turn, calls) :: rest => due receiver calls ++ dues (turn.bound receiver) rest

namespace Scene

variable [Transport τ ω] [Link σ ω] (inlet : Link.Inlet σ ω)

/-- The scene when bytes have arrived on the link of its radio. -/
def fed (scene : Scene τ σ ω) (bytes : List UInt8) : Scene τ σ ω :=
  let junction := scene.radio.junction
  let link := inlet.feed junction.link bytes
  { scene with radio := { scene.radio with junction := { junction with link } } }

/-- The scene after some moments. -/
def past (scene : Scene τ σ ω) : List (Moment ω) → Scene τ σ ω
  | [] => scene
  | .taken turn :: rest => (scene.after [turn]).past rest
  | .arrival bytes :: rest => (scene.fed inlet bytes).past rest

/-- The turns among some moments, each with the calls that were made in it. -/
def passages (scene : Scene τ σ ω) : List (Moment ω) → List (Turn ω × List (Call ω))
  | [] => []
  | .taken turn :: rest => (turn, scene.calls [turn]) :: (scene.after [turn]).passages rest
  | .arrival bytes :: rest => (scene.fed inlet bytes).passages rest

/-- What is received between any two scenes of a run. -/
theorem receives (scene : Scene τ σ ω) (moments : List (Moment ω)) :
    let passages := scene.passages inlet moments
    let calls := passages.flatMap Prod.snd
    let now := (scene.past inlet moments).radio.junction
    (chunks calls).flatten ++ inlet.queue now.link =
        inlet.queue scene.radio.junction.link ++ moments.flatMap Moment.arrived ∧
      deliveries calls = dues scene.radio.junction.receiver passages ∧
      now.receiver = moments.foldl Moment.bound scene.radio.junction.receiver := by
  induction moments generalizing scene with
  | nil => exact ⟨(List.append_nil _).symm, rfl, rfl⟩
  | cons moment rest ih =>
      intro passages calls now
      cases moment with
      | taken turn =>
          let first := scene.calls [turn]
          let later := ((scene.after [turn]).passages inlet rest).flatMap Prod.snd
          have hcalls : calls = first ++ later := rfl
          rcases (scene.turned turn).took inlet with ⟨hqueue, hdeliveries, hreceiver⟩
          rcases ih (scene.after [turn]) with ⟨hrest, hmore, hlast⟩
          rw [hreceiver] at hmore hlast
          refine ⟨?_, ?_, hlast⟩
          · -- What this turn drains comes before what the others drain.
            calc (chunks calls).flatten ++ inlet.queue now.link
                = (chunks first).flatten ++ ((chunks later).flatten ++ inlet.queue now.link) := by
                  rw [hcalls, chunks_append, List.flatten_append, List.append_assoc]
              _ = (chunks first).flatten ++
                    (inlet.queue (scene.after [turn]).radio.junction.link ++
                      rest.flatMap Moment.arrived) := congrArg _ hrest
              _ = inlet.queue scene.radio.junction.link ++ rest.flatMap Moment.arrived := by
                  rw [← List.append_assoc, hqueue]
          · rw [hcalls, deliveries_append, hmore]
            exact congrArg (· ++ _) hdeliveries
      | arrival bytes =>
          rcases ih (scene.fed inlet bytes) with ⟨hrest, hmore, hlast⟩
          have hfed := inlet.queue_feed scene.radio.junction.link bytes
          refine ⟨?_, hmore, hlast⟩
          have hqueue : inlet.queue (scene.fed inlet bytes).radio.junction.link =
              inlet.queue scene.radio.junction.link ++ bytes := hfed
          rw [List.flatMap_cons, ← List.append_assoc]
          exact hrest.trans (hqueue ▸ rfl)

end Scene

namespace Scene

variable [Link σ ω] (inlet : Link.Inlet σ ω)

/-- With the immediate transport, a run passes on what came in. -/
theorem slices_eq (scene : Scene Immediate σ ω)
    (moments : List (Moment ω)) :
    slices ((scene.passages inlet moments).flatMap Prod.snd) =
      moments.flatMap Moment.payloads := by
  induction moments generalizing scene with
  | nil => rfl
  | cons moment rest ih =>
      cases moment with
      | taken turn =>
          have hfirst : slices (scene.calls [turn]) = turn.payloads := (scene.turned turn).slices_eq
          rw [passages, List.flatMap_cons, List.flatMap_cons, slices_append, hfirst, ih]
          rfl
      | arrival bytes => exact ih (scene.fed inlet bytes)

/-- Everything that is received in a run of a new radio, over any link with an
    inlet.

    For any transport, what the ticks drained, with what still waits on the
    link behind it, is what the link was fed. What receivers were told is, in
    the order in which it came up, every chunk and every slice that is not empty
    and found a receiver bound. The link is read by ticks alone, once in each
    while a receiver is bound and not at all before that, and a read gives 16
    bytes at most. With the immediate transport, the slices are the payloads of
    the data packets that came in, as far as there are any. -/
theorem reception :
    (∀ (τ : Type) [Transport τ ω] (settings : Settings) (period : Period) (link : σ) (world : ω)
        (moments : List (Moment ω)),
      let fresh : Scene τ σ ω := start settings period link world
      let passages := fresh.passages inlet moments
      let calls := passages.flatMap Prod.snd
      let now := fresh.past inlet moments
      (chunks calls).flatten ++ inlet.queue now.radio.junction.link =
          inlet.queue link ++ moments.flatMap Moment.arrived ∧
        deliveries calls = dues none passages ∧
        ∀ turn,
          let next := now.calls [turn]
          (chunks next).length =
              (if turn.isTick && (moments.foldl Moment.bound none).isSome then 1 else 0) ∧
            (chunks next).flatten.length ≤ 16) ∧
      ∀ (settings : Settings) (period : Period) (link : σ) (world : ω)
          (moments : List (Moment ω)),
        let fresh : Scene Immediate σ ω := start settings period link world
        slices ((fresh.passages inlet moments).flatMap Prod.snd) =
          moments.flatMap Moment.payloads := by
  refine ⟨?_, ?_⟩
  · intro τ _ settings period link world moments fresh passages calls now
    rcases fresh.receives inlet moments with ⟨hqueue, hdeliveries, hreceiver⟩
    refine ⟨hqueue, hdeliveries, fun turn => ?_⟩
    have hreads := (now.turned turn).reads
    rw [hreceiver] at hreads
    exact hreads
  · intro settings period link world moments fresh
    exact fresh.slices_eq inlet moments

/-- A receiver that comes late, a read that faults, and two that claim less than
    there is. -/
theorem reception_scripted :
    let inlet : Link.Inlet (SerialLink FedChannel) Unit := SerialLink.inlet FedChannel.inlet
    let sink : Binding (Sink Unit) := ⟨fun _ data wish => pure (data.length, wish), 0⟩
    let moments : List (Moment Unit) :=
      [.arrival [1, 2, 3], .taken .tick,
        .taken (.request (.inbound (Packet.ofPayload .data [10]))),
        .taken (.request (.bindReceiver sink)), .taken .tick, .arrival [4, 5], .taken .tick,
        .taken (.request (.inbound (Packet.ofPayload .data [11, 12]))),
        .taken (.request (.inbound (Packet.ofPayload .data []))), .taken .tick]
    let fresh : Scene Immediate (SerialLink FedChannel) Unit :=
      start Settings.standard Period.standard (.ofChannel ⟨[none, some 3, some 1], []⟩) ()
    let calls := (fresh.passages inlet moments).flatMap Prod.snd
    let now := fresh.past inlet moments
    chunks calls = [[], [1, 2, 3], [4]] ∧ slices calls = [[10], [11, 12]] ∧
      (deliveries calls).map Prod.snd = [[1, 2, 3], [11, 12], [4]] ∧
      inlet.queue now.radio.junction.link = [5] ∧
      (chunks calls).flatten ++ inlet.queue now.radio.junction.link =
        [] ++ moments.flatMap Moment.arrived ∧
      deliveries calls = dues none (fresh.passages inlet moments) ∧
      slices calls = moments.flatMap Moment.payloads := by
  intro inlet sink moments fresh calls now
  have hchunks : chunks calls = [[], [1, 2, 3], [4]] := by decide +kernel
  have hslices : slices calls = [[10], [11, 12]] := by decide +kernel
  have hdelivered : (deliveries calls).map Prod.snd = [[1, 2, 3], [11, 12], [4]] := by
    decide +kernel
  have hqueue : inlet.queue now.radio.junction.link = [5] := by decide +kernel
  -- What the moments are has been used, and would only be computed again.
  clear_value moments
  rcases reception inlet with ⟨hall, himmediate⟩
  rcases hall Immediate Settings.standard Period.standard
    (.ofChannel ⟨[none, some 3, some 1], []⟩) () moments with ⟨hconserved, hdues, -⟩
  exact ⟨hchunks, hslices, hdelivered, hqueue, hconserved, hdues, himmediate _ _ _ _ moments⟩

end Scene

end PacketRadio
