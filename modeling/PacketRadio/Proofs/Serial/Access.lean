import PacketRadio.Proofs.Call
import PacketRadio.Proofs.Serial.Pump

/-!
# Accesses to a Channel

What a serial link does on its channel, in the order in which it does it.

The rules of `Serial.Pump` say where a pump leads. They do not say how often
the channel was asked on the way, nor what it was offered. For that the channel
is observed: it writes down every access and then does what it did before. The
link is not changed, and its programs are the same definitions, taken at an
observed channel.

`Rounds` lists what a pump can do, as the accesses it makes and what becomes of
the backlog. Nothing in these rules depends on the channel but its answers, so
whatever is shown by induction over them is true of every channel, also of one
that faults at any time or claims to have taken more than it was offered.

A send makes the accesses of a pump, and if its payload is queued then, those
of a second one. A history shows both, and between them the two things that a
send does to the backlog without asking the channel. `Despatch` lists what a
send can come to, together with its history.

## Main definitions

* `Access`: One access to a channel, with its answer.
* `Access.queries`, `Access.writes`, `Access.claims`: How often the channel was
  asked whether it is ready, what it was offered, and how many bytes it claims
  to have taken.
* `SerialLink.observed`: A link on an observed channel.
* `SerialLink.Rounds`: What a pump can do.
* `SerialLink.pumpAccesses`, `SerialLink.accesses`: What a pump does on the
  channel, and a run of dealings.
* `SerialLink.Step`, `SerialLink.history`: The same with what happens to the
  backlog in between.
* `SerialLink.Despatch`: What a send can come to.

## Theorems

* `SerialLink.mirrors_pump`, `SerialLink.mirrors_send`,
  `SerialLink.mirrors_deals`: A link is not disturbed by being observed.
* `SerialLink.pump_rounds`, `SerialLink.send_despatch`: A pump and a send follow
  the rules.
* `SerialLink.accesses_eq`: The accesses of a run are those of its history.
* `SerialLink.accesses_send`, `SerialLink.accesses_poll`: Runs of one dealing.
-/

namespace PacketRadio

/-- One access to a channel, and the answer. -/
inductive Access where
  | writeReady (answer : Option Bool)
  | write (offered : List UInt8) (taken : Option Nat)
  | readReady (answer : Option Bool)
  | read (buffer : List UInt8) (fill : Option Fill)
deriving DecidableEq

namespace Access

/-- The answer of a channel that is asked whether it is ready to be written to. -/
@[simp] def query? : Access → Option (Option Bool)
  | .writeReady answer => some answer
  | _ => none

/-- The bytes that a channel is offered, with how many it claims to take. -/
@[simp] def write? : Access → Option (List UInt8 × Option Nat)
  | .write offered taken => some (offered, taken)
  | _ => none

/-- How many bytes the channel claims to have taken. -/
@[simp] def claim : Access → Nat
  | .write _ (some count) => count
  | _ => 0

/-- The answers to the questions whether the channel is ready to be written to. -/
def queries (accesses : List Access) : List (Option Bool) := accesses.filterMap query?

/-- What the channel was offered, with its answers. -/
def writes (accesses : List Access) : List (List UInt8 × Option Nat) := accesses.filterMap write?

/-- How many bytes the channel claims to have taken in all. -/
@[simp] def claims : List Access → Nat
  | [] => 0
  | access :: rest => access.claim + claims rest

@[simp] theorem queries_nil : queries [] = [] := rfl

@[simp] theorem queries_cons (access : Access) (accesses : List Access) :
    queries (access :: accesses) = access.query?.toList ++ queries accesses := by
  rw [queries, List.filterMap_cons]
  cases access.query? <;> rfl

@[simp] theorem writes_nil : writes [] = [] := rfl

@[simp] theorem writes_cons (access : Access) (accesses : List Access) :
    writes (access :: accesses) = access.write?.toList ++ writes accesses := by
  rw [writes, List.filterMap_cons]
  cases access.write? <;> rfl

@[simp] theorem writes_append (first second : List Access) :
    writes (first ++ second) = writes first ++ writes second :=
  List.filterMap_append

end Access

variable {κ ω : Type}

/-- A channel that writes down how it is accessed. -/
instance [Channel κ ω] : Channel (Observed κ) (Recorded Access ω) where
  writeReady channel := do
    let (answer, inner) ← Recorded.lift (Channel.writeReady channel.inner)
    Recorded.note (.writeReady answer)
    return (answer, ⟨inner⟩)
  write channel data := do
    let (taken, inner) ← Recorded.lift (Channel.write channel.inner data)
    Recorded.note (.write data taken)
    return (taken, ⟨inner⟩)
  readReady channel := do
    let (answer, inner) ← Recorded.lift (Channel.readReady channel.inner)
    Recorded.note (.readReady answer)
    return (answer, ⟨inner⟩)
  read channel buffer := do
    let (fill, inner) ← Recorded.lift (Channel.read channel.inner buffer)
    Recorded.note (.read buffer fill)
    return (fill, ⟨inner⟩)

namespace SerialLink

/-- A link whose channel writes down how it is accessed. -/
def observed (link : SerialLink κ) : SerialLink (Observed κ) :=
  ⟨⟨link.channel⟩, link.backlog⟩

/-- What a pump can do: its accesses to the channel, its result, and what it
    makes of the backlog. -/
inductive Rounds : RingBuffer UInt8 maxPayload → List Access → Except LinkError Unit →
    RingBuffer UInt8 maxPayload → Prop where
  | finished {backlog : RingBuffer UInt8 maxPayload} (hempty : backlog.isEmpty = true) :
      Rounds backlog [] (.ok ()) backlog
  | unknown {backlog : RingBuffer UInt8 maxPayload} (hmore : ¬ backlog.isEmpty = true) :
      Rounds backlog [.writeReady none] (.error .io) backlog
  | unready {backlog : RingBuffer UInt8 maxPayload} (hmore : ¬ backlog.isEmpty = true) :
      Rounds backlog [.writeReady (some false)] (.ok ()) backlog
  | faulted {backlog : RingBuffer UInt8 maxPayload} (hmore : ¬ backlog.isEmpty = true) :
      Rounds backlog [.writeReady (some true), .write backlog.front none] (.error .io) backlog
  | stuck {backlog : RingBuffer UInt8 maxPayload} (hmore : ¬ backlog.isEmpty = true) :
      Rounds backlog [.writeReady (some true), .write backlog.front (some 0)] (.ok ()) backlog
  -- One round, and the accesses of the rounds after it.
  | round {backlog after : RingBuffer UInt8 maxPayload} {count : Nat} {accesses : List Access}
      {result : Except LinkError Unit} (hmore : ¬ backlog.isEmpty = true)
      (hrest : Rounds (backlog.drop (count + 1)) accesses result after) :
      Rounds backlog
        (.writeReady (some true) :: .write backlog.front (some (count + 1)) :: accesses) result
        after

variable [Channel κ ω]

theorem mirrors_writeReady (channel : κ) (world : ω) :
    Mirrors (Channel.writeReady (ω := Recorded Access ω) (Observed.mk channel))
      (Channel.writeReady channel) (Prod.map id Observed.mk) world
      fun answer accesses => accesses = [.writeReady answer.1] :=
  ⟨_, fun _ => rfl, rfl⟩

theorem mirrors_write (channel : κ) (data : List UInt8) (world : ω) :
    Mirrors (Channel.write (ω := Recorded Access ω) (Observed.mk channel) data)
      (Channel.write channel data) (Prod.map id Observed.mk) world
      fun answer accesses => accesses = [.write data answer.1] :=
  ⟨_, fun _ => rfl, rfl⟩

theorem mirrors_readReady (channel : κ) (world : ω) :
    Mirrors (Channel.readReady (ω := Recorded Access ω) (Observed.mk channel))
      (Channel.readReady channel) (Prod.map id Observed.mk) world
      fun answer accesses => accesses = [.readReady answer.1] :=
  ⟨_, fun _ => rfl, rfl⟩

theorem mirrors_read (channel : κ) (buffer : List UInt8) (world : ω) :
    Mirrors (Channel.read (ω := Recorded Access ω) (Observed.mk channel) buffer)
      (Channel.read channel buffer) (Prod.map id Observed.mk) world
      fun answer accesses => accesses = [.read buffer answer.1] :=
  ⟨_, fun _ => rfl, rfl⟩

theorem mirrors_pumpOut (channel : κ) (backlog : RingBuffer UInt8 maxPayload) (world : ω) :
    Mirrors (pumpOut (ω := Recorded Access ω) (Observed.mk channel) backlog)
      (pumpOut channel backlog) (Prod.map id observed) world
      fun answer accesses => Rounds backlog accesses answer.1 answer.2.backlog := by
  induction hsize : backlog.size using Nat.strongRecOn generalizing channel backlog world with
  | ind size ih =>
      rw [pumpOut, pumpOut]
      by_cases hempty : backlog.isEmpty = true
      · rw [dif_pos hempty, dif_pos hempty]
        exact Mirrors.pure (Prod.map id observed) (Except.ok (), ⟨channel, backlog⟩)
          (.finished hempty)
      · rw [dif_neg hempty, dif_neg hempty]
        refine Mirrors.bind (mirrors_writeReady channel world) fun ready accesses h => ?_
        rcases ready with ⟨_ | _ | _, channel'⟩
        · subst h
          exact Mirrors.pure (Prod.map id observed) (Except.error LinkError.io, ⟨channel', backlog⟩)
            (.unknown hempty)
        · subst h
          exact Mirrors.pure (Prod.map id observed) (Except.ok (), ⟨channel', backlog⟩)
            (.unready hempty)
        · subst h
          refine Mirrors.bind (mirrors_write channel' backlog.front _) fun taken more h => ?_
          rcases taken with ⟨_ | _ | count, channel''⟩
          · subst h
            exact Mirrors.pure (Prod.map id observed)
              (Except.error LinkError.io, ⟨channel'', backlog⟩) (.faulted hempty)
          · subst h
            exact Mirrors.pure (Prod.map id observed) (Except.ok (), ⟨channel'', backlog⟩)
              (.stuck hempty)
          · subst h
            -- The backlog got smaller, whatever the channel claims.
            have hless := size_drop_lt hempty count
            rw [hsize] at hless
            exact (ih _ hless channel'' _ _ rfl).mono fun _ _ hrest => .round hempty hrest

theorem mirrors_receive (link : SerialLink κ) (buffer : List UInt8) (world : ω) :
    Mirrors (link.observed.receive (ω := Recorded Access ω) buffer) (link.receive buffer)
      (Prod.map id observed) world fun answer accesses =>
        (∀ access ∈ accesses, access.write? = none) ∧ answer.2.backlog = link.backlog := by
  refine Mirrors.bind (mirrors_readReady link.channel world) fun ready accesses h => ?_
  subst h
  rcases ready with ⟨_ | _ | _, channel⟩
  · exact Mirrors.pure (Prod.map id observed) (Fill.nothing, { link with channel }) (by simp)
  · exact Mirrors.pure (Prod.map id observed) (Fill.nothing, { link with channel }) (by simp)
  · refine Mirrors.bind (mirrors_read channel buffer _) fun fill more h => ?_
    subst h
    exact Mirrors.pure (Prod.map id observed)
      (fill.1.getD Fill.nothing, { link with channel := fill.2 }) (by simp)

/-- The accesses of a pump to the channel. -/
def pumpAccesses (link : SerialLink κ) (world : ω) : List Access :=
  Recorded.record link.observed.pump world

/-- The accesses of a run of dealings to the channel. -/
def accesses (link : SerialLink κ) (asks : List Ask) (world : ω) : List Access :=
  Recorded.record (link.observed.deals asks) world

theorem mirrors_pump (link : SerialLink κ) (world : ω) :
    Mirrors link.observed.pump link.pump (Prod.map id observed) world fun answer accesses =>
      answer = (link.pump world).1 ∧ accesses = link.pumpAccesses world :=
  (mirrors_pumpOut link.channel link.backlog world).exact

/-- A pump follows the rules. -/
theorem pump_rounds (link : SerialLink κ) (world : ω) :
    Rounds link.backlog (link.pumpAccesses world) (link.pump world).1.1
      (link.pump world).1.2.backlog :=
  (mirrors_pumpOut link.channel link.backlog world).recorded.2

/-- What a link does: it accesses its channel, or it puts a payload into the
    backlog, or it throws the backlog away. -/
inductive Step where
  | access (made : Access)
  | queued (payload : List UInt8)
  | discarded
deriving DecidableEq

namespace Step

/-- The access that a step is. -/
@[simp] def access? : Step → Option Access
  | .access made => some made
  | _ => none

/-- The accesses among some steps. -/
def accesses (steps : List Step) : List Access := steps.filterMap access?

@[simp] theorem accesses_nil : accesses [] = [] := rfl

@[simp] theorem accesses_cons (step : Step) (steps : List Step) :
    accesses (step :: steps) = step.access?.toList ++ accesses steps := by
  rw [accesses, List.filterMap_cons]
  cases step.access? <;> rfl

@[simp] theorem accesses_append (first second : List Step) :
    accesses (first ++ second) = accesses first ++ accesses second :=
  List.filterMap_append

@[simp] theorem accesses_map (made : List Access) : accesses (made.map .access) = made := by
  rw [accesses, List.filterMap_map]
  exact List.filterMap_some

end Step

/-- The steps of a pump, which are accesses. -/
def pumpHistory (link : SerialLink κ) (world : ω) : List Step :=
  (link.pumpAccesses world).map .access

/-- The steps of a send. -/
def sendHistory (link : SerialLink κ) (payload : List UInt8) (world : ω) : List Step :=
  let ((earlier, middle), between) := link.pump world
  link.pumpHistory world ++
    match earlier with
    | .error _ => []
    | .ok () =>
      if middle.accepts payload then
        let queued := middle.queue payload
        .queued payload :: queued.pumpHistory between ++
          match (queued.pump between).1.1 with
          | .error _ => [.discarded]
          | .ok () => []
      else
        []

/-- The steps of one dealing. -/
def dealHistory (link : SerialLink κ) : Ask → ω → List Step
  | .send payload, world => link.sendHistory payload world
  | .receive buffer, world => (Recorded.record (link.observed.receive buffer) world).map .access
  | .poll, world => link.pumpHistory world

/-- The steps of a run of dealings. -/
def history (link : SerialLink κ) : List Ask → ω → List Step
  | [], _ => []
  | ask :: rest, world =>
    let ((_, after), last) := link.deal ask world
    link.dealHistory ask world ++ after.history rest last

theorem history_cons (link : SerialLink κ) (ask : Ask) (rest : List Ask) (world : ω) :
    link.history (ask :: rest) world = link.dealHistory ask world ++
      (link.deal ask world).1.2.history rest (link.deal ask world).2 :=
  rfl

@[simp] theorem accesses_pumpHistory (link : SerialLink κ) (world : ω) :
    Step.accesses (link.pumpHistory world) = link.pumpAccesses world :=
  Step.accesses_map _

theorem mirrors_send (link : SerialLink κ) (payload : List UInt8) (world : ω) :
    Mirrors (link.observed.send payload) (link.send payload) (Prod.map id observed) world
      fun _ accesses => accesses = Step.accesses (link.sendHistory payload world) := by
  refine Mirrors.bind (link.mirrors_pump world) fun answer first h => ?_
  rcases h with ⟨rfl, rfl⟩
  rw [sendHistory]
  rcases hpump : link.pump world with ⟨⟨earlier, middle⟩, between⟩
  simp only [Step.accesses_append, accesses_pumpHistory]
  cases earlier with
  | error error =>
      refine Mirrors.pure (Prod.map id observed) (Except.error error, middle) ?_
      rfl
  | ok _ =>
      -- The observed link accepts what the plain one does.
      by_cases haccept : middle.accepts payload = true
      · have hobserved : middle.observed.accepts payload = true := haccept
        simp only [Prod.map, id, haccept, hobserved, if_true]
        refine Mirrors.bind ((middle.queue payload).mirrors_pump between) fun answer second h => ?_
        rcases h with ⟨rfl, rfl⟩
        rcases hagain : (middle.queue payload).pump between with ⟨⟨result, after⟩, last⟩
        cases result with
        | error error =>
            refine Mirrors.pure (Prod.map id observed) (Except.error error, after.discard) ?_
            simp
        | ok _ =>
            refine Mirrors.pure (Prod.map id observed) (Except.ok (), after) ?_
            simp
      · have hobserved : ¬ middle.observed.accepts payload = true := haccept
        simp only [Prod.map, id, haccept, hobserved]
        exact Mirrors.pure (Prod.map id observed) (Except.error LinkError.busy, middle) rfl

/-- What a send can come to, with its steps. -/
inductive Despatch (link : SerialLink κ) (payload : List UInt8) (world : ω) :
    List Step → Except LinkError Unit → SerialLink κ → ω → Prop where
  -- The first pump faults.
  | blocked {error : LinkError} {after : SerialLink κ} {last : ω}
      (hfirst : link.pump world = ((.error error, after), last)) :
      Despatch link payload world (link.pumpHistory world) (.error error) after last
  | refused {after : SerialLink κ} {last : ω}
      (hfirst : link.pump world = ((.ok (), after), last))
      (hrefuse : ¬ after.accepts payload = true) :
      Despatch link payload world (link.pumpHistory world) (.error .busy) after last
  -- The second pump faults.
  | broken {error : LinkError} {middle after : SerialLink κ} {between last : ω}
      (hfirst : link.pump world = ((.ok (), middle), between))
      (haccept : middle.accepts payload = true)
      (hsecond : (middle.queue payload).pump between = ((.error error, after), last)) :
      Despatch link payload world
        (link.pumpHistory world ++
          (.queued payload :: (middle.queue payload).pumpHistory between ++ [.discarded]))
        (.error error) after.discard last
  | accepted {middle after : SerialLink κ} {between last : ω}
      (hfirst : link.pump world = ((.ok (), middle), between))
      (haccept : middle.accepts payload = true)
      (hsecond : (middle.queue payload).pump between = ((.ok (), after), last)) :
      Despatch link payload world
        (link.pumpHistory world ++
          (.queued payload :: (middle.queue payload).pumpHistory between ++ []))
        (.ok ()) after last

theorem send_despatch (link : SerialLink κ) (payload : List UInt8) (world : ω) :
    Despatch link payload world (link.sendHistory payload world) (link.send payload world).1.1
      (link.send payload world).1.2 (link.send payload world).2 := by
  rw [sendHistory]
  rcases hfirst : link.pump world with ⟨⟨earlier, middle⟩, between⟩
  simp only [send, bind, StateT.bind, hfirst]
  cases earlier with
  | error error =>
      simp only [List.append_nil]
      exact .blocked hfirst
  | ok _ =>
      by_cases haccept : middle.accepts payload = true
      · simp only [haccept, if_true]
        rcases hsecond : (middle.queue payload).pump between with ⟨⟨result, after⟩, last⟩
        simp only [StateT.bind, hsecond]
        cases result with
        | error error => exact .broken hfirst haccept hsecond
        | ok _ => exact .accepted hfirst haccept hsecond
      · simp only [haccept, Bool.false_eq_true, if_false, List.append_nil]
        exact .refused hfirst haccept

theorem mirrors_deal (link : SerialLink κ) (ask : Ask) (world : ω) :
    Mirrors (link.observed.deal ask) (link.deal ask) (Prod.map id observed) world
      fun _ accesses => accesses = Step.accesses (link.dealHistory ask world) := by
  cases ask with
  | send payload =>
      refine Mirrors.bind (link.mirrors_send payload world) fun answer accesses h => ?_
      subst h
      refine Mirrors.pure (Prod.map id observed) (Dealing.send payload answer.1, answer.2) ?_
      exact List.append_nil _
  | receive buffer =>
      refine Mirrors.bind (link.mirrors_receive buffer world).exact fun answer accesses h => ?_
      rcases h with ⟨-, rfl⟩
      refine Mirrors.pure (Prod.map id observed) (Dealing.receive buffer answer.1, answer.2) ?_
      simp [dealHistory]
  | poll =>
      refine Mirrors.bind (link.mirrors_pump world) fun answer accesses h => ?_
      rcases h with ⟨-, rfl⟩
      refine Mirrors.pure (Prod.map id observed) (Dealing.poll answer.1, answer.2) ?_
      simp [dealHistory]

theorem mirrors_deals (link : SerialLink κ) (asks : List Ask) (world : ω) :
    Mirrors (link.observed.deals asks) (link.deals asks) (Prod.map id observed) world
      fun _ accesses => accesses = Step.accesses (link.history asks world) := by
  induction asks generalizing link world with
  | nil => exact Mirrors.pure (Prod.map id observed) ([], link) rfl
  | cons ask rest ih =>
      have htold := (link.mirrors_deal ask world).recorded.2
      refine Mirrors.bind (link.mirrors_deal ask world).exact fun answer first h => ?_
      rcases h with ⟨rfl, rfl⟩
      refine Mirrors.bind (ih _ _) fun more second h => ?_
      subst h
      refine Mirrors.pure (Prod.map id observed) (_ :: more.1, more.2) ?_
      rw [htold, history_cons, Step.accesses_append, List.append_nil]

/-- The accesses of a run are those among its steps. -/
theorem accesses_eq (link : SerialLink κ) (asks : List Ask) (world : ω) :
    link.accesses asks world = Step.accesses (link.history asks world) :=
  (link.mirrors_deals asks world).recorded.2

theorem accesses_send (link : SerialLink κ) (payload : List UInt8) (world : ω) :
    link.accesses [.send payload] world = Step.accesses (link.sendHistory payload world) := by
  rw [accesses_eq, history_cons, history, List.append_nil, dealHistory]

theorem accesses_poll (link : SerialLink κ) (world : ω) :
    link.accesses [.poll] world = link.pumpAccesses world := by
  rw [accesses_eq, history_cons, history, List.append_nil, dealHistory, accesses_pumpHistory]

end SerialLink

end PacketRadio
