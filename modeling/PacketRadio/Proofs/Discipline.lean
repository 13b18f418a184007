import PacketRadio.Proofs.Reception
import PacketRadio.Proofs.Threshold
import PacketRadio.Proofs.Validation

/-!
# The Discipline of Callbacks

Who is called back, when, and with what.

Callbacks are replaced while a radio runs, also while bytes of an earlier source
are still in flight, and a sink may be reached from a tick, from a packet that
came in and from within a transmission. None of this matters to the question
which callback is meant. The calls that a transport makes leave the bindings of
a junction alone, so throughout a turn they are what they were at its beginning,
and only a request changes them. What is bound to a radio is therefore what was
bound to it last, by a request that was carried out under its handle
(`Radio.Heeds`). A request that was refused bound nothing.

The other half of the discipline is about buffers. A source is offered the spare
of a packet and never an empty one, because a packet in flight is always below
the threshold (`Radio.Short`). A sink is never shown an empty slice, because a
junction does not deliver one.

## Main definitions

* `Radio.Request.source?`, `Radio.Request.sink?`: The callback a request brings.
* `requestsOf`: What was asked of the radio that a handle names, and done.
* `latest`: The last of what requests brought.
* `Call.Rightful`: Bytes are brought to the sink that is bound.
* `Junction.Serves`: A junction keeps its receiver, and calls nobody else.
* `Radio.Heeds`, `Pool.Heeds`: What is bound was asked for last.

## Theorems

* `Exchange.Course.serves`: Nothing a transport does changes who receives.
* `Radio.Turned.heeds`, `Radio.Turned.rightful`: What a turn changes about the
  bindings, and whom it calls.
* `Radio.Turned.offers_spare`: What a source is offered.
* `Station.heeds_run`: After any run, what is bound was asked for last.
* `Station.discipline`: Who is called back, when, and with what.
-/

namespace PacketRadio

variable {tables capacity : Nat} {τ σ ω α : Type}

open Call

namespace Radio.Request

/-- The source that a request brings. -/
def source? : Request ω → Option (Binding (Source ω))
  | .bindSource source => some source
  | _ => none

/-- The sink that a request brings. -/
def sink? : Request ω → Option (Binding (Sink ω))
  | .bindReceiver sink => some sink
  | _ => none

end Radio.Request

/-- What is asked of a radio in a turn. -/
def Turn.request? : Turn ω → Option (Radio.Request ω)
  | .request asked => some asked
  | .tick => none

/-- What a command asked of the radio that a handle names, if it was done. -/
def Command.request? (handle : Handle) :
    Command tables σ ω → Except Failure Reply → Option (Radio.Request ω)
  | .request named asked, .ok _ => if named = handle then some asked else none
  | _, _ => none

/-- What was asked of the radio that a handle names, and done. -/
def requestsOf (handle : Handle) (commands : List (Command tables σ ω))
    (answers : List (Except Failure Reply)) : List (Radio.Request ω) :=
  (commands.zip answers).filterMap fun carried => carried.1.request? handle carried.2

theorem requestsOf_cons (handle : Handle) (command : Command tables σ ω)
    (commands : List (Command tables σ ω)) (answer : Except Failure Reply)
    (answers : List (Except Failure Reply)) :
    requestsOf handle (command :: commands) (answer :: answers) =
      (command.request? handle answer).toList ++ requestsOf handle commands answers := by
  rw [requestsOf, List.zip_cons_cons, List.filterMap_cons]
  cases h : command.request? handle answer with
  | none => rfl
  | some request => rfl

/-- The last of what some requests brought. -/
def latest (pick : Radio.Request ω → Option α) (requests : List (Radio.Request ω)) : Option α :=
  (requests.filterMap pick).getLast?

theorem latest_append (pick : Radio.Request ω → Option α)
    (first second : List (Radio.Request ω)) :
    latest pick (first ++ second) = (latest pick second).or (latest pick first) := by
  unfold latest
  rw [List.filterMap_append, List.getLast?_append]

theorem latest_toList (pick : Radio.Request ω → Option α) (request : Option (Radio.Request ω)) :
    latest pick request.toList = request.bind pick := by
  cases request with
  | none => rfl
  | some request =>
      rw [latest, Option.toList_some, List.filterMap_cons, Option.bind_some]
      cases pick request with
      | none => rfl
      | some _ => rfl

/-- Where bytes are brought to a sink, it is the one that is bound, and there
    are some. -/
def Call.Rightful (receiver : Option (Binding (Sink ω))) : Call ω → Prop
  | .deliver sink data _ _ _ => receiver = some sink ∧ data ≠ []
  | _ => True

/-- Through some calls a junction keeps its receiver, and bytes are brought to
    nobody else. -/
structure Junction.Serves (junction : Junction σ ω) (calls : List (Call ω))
    (after : Junction σ ω) : Prop where
  receiver_eq : after.receiver = junction.receiver
  rightful : ∀ call ∈ calls, call.Rightful junction.receiver

namespace Junction

variable {junction middle after : Junction σ ω} {calls : List (Call ω)}

theorem Serves.nil (h : after.receiver = junction.receiver) : junction.Serves [] after :=
  ⟨h, nofun⟩

theorem Serves.append {more : List (Call ω)} (h : junction.Serves calls middle)
    (hmore : middle.Serves more after) : junction.Serves (calls ++ more) after := by
  refine ⟨hmore.receiver_eq.trans h.receiver_eq, List.forall_mem_append.2 ⟨h.rightful, ?_⟩⟩
  rw [← h.receiver_eq]
  exact hmore.rightful

/-- A call that brings no bytes to anybody goes unnoticed. -/
theorem Serves.cons {call : Call ω} (h : middle.Serves calls after)
    (hsame : middle.receiver = junction.receiver) (hcall : call.Rightful junction.receiver) :
    junction.Serves (call :: calls) after := by
  have hfirst : junction.Serves [call] middle := ⟨hsame, List.forall_mem_singleton.2 hcall⟩
  exact hfirst.append h

theorem Delivered.serves {data : List UInt8} (h : junction.Delivered data calls after) :
    junction.Serves calls after := by
  cases h with
  | nowhere _ => exact .nil rfl
  | received hreceiver hdata _ =>
      exact ⟨rfl, List.forall_mem_singleton.2 ⟨hreceiver, hdata⟩⟩

variable [Link σ ω]

theorem Serviced.serves {wish : Bool} (h : junction.Serviced calls wish after) :
    junction.Serves calls after := by
  rcases h with ⟨-, hdrain⟩
  cases hdrain with
  | unbound _ => exact (Serves.nil rfl).cons rfl trivial
  | moved _ _ hdeliver =>
      have hmoved := hdeliver.serves
      refine ⟨hmoved.receiver_eq, List.forall_mem_cons.2 ⟨trivial, ?_⟩⟩
      exact List.forall_mem_cons.2 ⟨trivial, hmoved.rightful⟩

end Junction

/-- Nothing a transport does changes who receives. -/
theorem Exchange.Course.serves [Link σ ω] {exchange : Exchange ω α} {junction after : Junction σ ω}
    {calls : List (Call ω)} {result : α} (h : exchange.Course junction calls result after) :
    junction.Serves calls after := by
  induction h with
  | done => exact .nil rfl
  | send _ _ ih => exact ih.cons rfl trivial
  | accept hdeliver _ ih => exact (hdeliver.serves.append ih).cons rfl trivial
  | setBaud _ ih => exact ih
  | look _ ih => exact ih
  | put _ ih => exact ih

namespace Radio

/-- What is bound to a radio is what these requests asked for last, and what it
    has in flight can take more. -/
structure Heeds (radio : Radio τ σ ω) (requests : List (Request ω)) : Prop where
  source_eq : radio.source = latest Request.source? requests
  receiver_eq : radio.junction.receiver = latest Request.sink? requests
  short : radio.Short

variable [Transport τ ω] {radio after : Radio τ σ ω} {calls : List (Call ω)}

theorem heeds_start (settings : Settings) (period : Period) (link : σ) (world : ω) :
    (Scene.start settings period link world : Scene τ σ ω).radio.Heeds [] :=
  ⟨rfl, rfl, nofun⟩

theorem Fetched.serves {fetched : Option Packet} {transport : τ}
    (h : radio.Fetched calls fetched transport) : radio.junction.Serves calls radio.junction := by
  cases h with
  | held _ => exact .nil rfl
  | leased _ _ => exact (Junction.Serves.nil rfl).cons rfl trivial
  | refused _ _ => exact (Junction.Serves.nil rfl).cons rfl trivial

variable [Link σ ω]

/-- Handing a packet over binds nobody. -/
theorem HandedOver.serves {packet : Packet} (h : radio.HandedOver packet calls after) :
    radio.junction.Serves calls after.junction ∧ after.source = radio.source := by
  rcases h with ⟨hcourse⟩
  exact ⟨hcourse.serves.cons rfl trivial, rfl⟩

theorem Filled.serves (h : radio.Filled calls after) :
    radio.junction.Serves calls after.junction ∧ after.source = radio.source := by
  cases h with
  | unsourced _ => exact ⟨.nil rfl, rfl⟩
  | unfetched _ hfetch => exact ⟨hfetch.serves, rfl⟩
  | kept _ hfetch _ _ =>
      exact ⟨hfetch.serves.append ((Junction.Serves.nil rfl).cons rfl trivial), rfl⟩
  | sent _ hfetch _ _ hover =>
      rcases hover.serves with ⟨hserves, hsource⟩
      exact ⟨hfetch.serves.append (hserves.cons rfl trivial), hsource⟩

theorem Ticked.serves {wish : Bool} (h : radio.Ticked calls wish after) :
    radio.junction.Serves calls after.junction ∧ after.source = radio.source := by
  cases h with
  | waiting hservice _ => exact ⟨hservice.serves, rfl⟩
  | empty hservice _ _ => exact ⟨hservice.serves, rfl⟩
  | flushed hservice _ _ hover =>
      rcases hover.serves with ⟨hserves, hsource⟩
      exact ⟨hservice.serves.append hserves, hsource⟩

variable {turn : Turn ω} {wish : Bool}

/-- A turn brings bytes to the sink that was bound before it. -/
theorem Turned.rightful (h : radio.Turned turn calls wish after) :
    ∀ call ∈ calls, call.Rightful radio.junction.receiver := by
  cases h with
  | bindReceiver => exact nofun
  | bindSource => exact nofun
  | receiveReady => exact nofun
  | setBaud => exact nofun
  | transmitReady hfill => exact hfill.serves.1.rightful
  | inbound hcourse => exact List.forall_mem_cons.2 ⟨trivial, hcourse.serves.rightful⟩
  | tick htick => exact htick.serves.1.rightful

/-- A turn binds what it was asked to bind, if anything. -/
theorem Turned.bound (h : radio.Turned turn calls wish after) :
    after.source = (turn.request?.bind Request.source?).or radio.source ∧
      after.junction.receiver =
        (turn.request?.bind Request.sink?).or radio.junction.receiver := by
  cases h with
  | bindReceiver => exact ⟨rfl, rfl⟩
  | bindSource => exact ⟨rfl, rfl⟩
  | receiveReady => exact ⟨rfl, rfl⟩
  | setBaud => exact ⟨rfl, rfl⟩
  | transmitReady hfill => exact ⟨hfill.serves.2, hfill.serves.1.receiver_eq⟩
  | inbound hcourse => exact ⟨rfl, hcourse.serves.receiver_eq⟩
  | tick htick => exact ⟨htick.serves.2, htick.serves.1.receiver_eq⟩

theorem Turned.heeds (h : radio.Turned turn calls wish after) {requests : List (Request ω)}
    (hheeds : radio.Heeds requests) : after.Heeds (requests ++ turn.request?.toList) := by
  rcases h.bound with ⟨hsource, hreceiver⟩
  refine ⟨?_, ?_, h.short hheeds.short⟩
  · rw [latest_append, latest_toList, hsource, hheeds.source_eq]
  · rw [latest_append, latest_toList, hreceiver, hheeds.receiver_eq]

/-- A source is pulled when there is room to transmit, it is the one that is
    bound, and it is offered all the room that is left. -/
theorem Turned.offers_spare (h : radio.Turned turn calls wish after) (hshort : radio.Short)
    {source : Binding (Source ω)} {offered : List UInt8} {before : Bool} {fill : Fill}
    {flag : Bool} (hpull : .pull source offered before fill flag ∈ calls) :
    radio.source = some source ∧
      (∃ available, turn = .request (.transmitReady available)) ∧
      1 ≤ offered.length ∧ offered.length ≤ maxPayload ∧
      offered.length = maxPayload - radio.pendingLength := by
  rcases h.of_pull hpull with ⟨hturn, hfill⟩
  rcases hfill.of_pull hpull with ⟨hsource, earlier, packet, transport, hfetch, hoffered, -⟩
  rcases hfetch.length_eq hshort with ⟨hpending, hroom⟩
  have hspare : offered.length = maxPayload - packet.length := by
    rw [hoffered, Packet.length_spare]
    rfl
  refine ⟨hsource, hturn, ?_, ?_, ?_⟩
  · omega
  · omega
  · rw [hspare, hpending]

/-- There is no more than one pull in a turn. -/
theorem Turned.length_pulls_le (h : radio.Turned turn calls wish after) :
    (pulls calls).length ≤ 1 := by
  have hnone (hpulls : pulls calls = []) : (pulls calls).length ≤ 1 := by
    rw [hpulls]
    exact Nat.zero_le 1
  cases h with
  | bindReceiver => exact hnone rfl
  | bindSource => exact hnone rfl
  | receiveReady => exact hnone rfl
  | setBaud => exact hnone rfl
  | inbound hcourse =>
      have hquiet := (leases_of_atJunction hcourse.atJunction).2
      exact hnone hquiet
  | tick htick => exact hnone htick.leases.2
  | transmitReady hfill =>
      cases hfill with
      | unsourced _ => exact hnone rfl
      | unfetched _ hfetch => exact hnone hfetch.leases.2.1
      | kept _ hfetch _ _ =>
          rw [pulls_append, hfetch.leases.2.1]
          exact Nat.le_refl 1
      | @sent source _ more _ _ _ _ _ _ hfetch _ _ hover =>
          -- Whoever gets the packet does not pull.
          have hquiet := hover.leases.2
          rw [pulls_append, hfetch.leases.2.1]
          show (source :: pulls more).length ≤ 1
          rw [hquiet]
          exact Nat.le_refl 1

end Radio

namespace Pool

variable {pool : Pool capacity τ σ ω} {requests : Handle → List (Radio.Request ω)}

/-- What is bound to each radio of a pool is what was asked for last under its
    handle. -/
structure Heeds (pool : Pool capacity τ σ ω) (requests : Handle → List (Radio.Request ω)) :
    Prop where
  radios (handle : Handle) (radio : Radio τ σ ω) :
    pool.slot? handle.index = some radio → radio.Heeds (requests handle)
  -- Nothing was done under the handles that are still to come.
  vacant (handle : Handle) : pool.allocated ≤ handle.index →
    pool.slot? handle.index = none ∧ requests handle = []

theorem heeds_empty : (empty : Pool capacity τ σ ω).Heeds fun _ => [] := by
  refine ⟨fun handle radio hslot => ?_, fun handle _ => ⟨slot?_empty _, rfl⟩⟩
  rw [slot?_empty] at hslot
  exact nomatch hslot

/-- A radio that goes into a pool has nothing bound, and nothing was asked of
    it. -/
theorem Heeds.insert (h : pool.Heeds requests) {radio : Radio τ σ ω} (hfresh : radio.Heeds []) :
    (pool.insert radio).2.Heeds requests := by
  refine ⟨fun handle other hslot => ?_, fun handle hle => ?_⟩
  · rw [slot?_insert] at hslot
    split at hslot
    · rename_i hnext
      rw [(h.vacant handle (Nat.le_of_eq hnext.1)).2, ← Option.some.inj hslot]
      exact hfresh
    · exact h.radios handle other hslot
  · rw [allocated_insert] at hle
    have hvacant : pool.allocated ≤ handle.index := by
      split at hle
      · omega
      · exact hle
    rw [slot?_insert, if_neg]
    · exact h.vacant handle hvacant
    · intro hnext
      rw [if_pos (by omega)] at hle
      omega

/-- A turn of one radio adds what it was asked to what was asked before. -/
theorem Heeds.update [Transport τ ω] [Link σ ω] (h : pool.Heeds requests) {named : Handle}
    {radio after : Radio τ σ ω} {turn : Turn ω} {calls : List (Call ω)} {wish : Bool}
    (hradio : pool.radio? named = some radio) (hturned : radio.Turned turn calls wish after) :
    (pool.update named after).Heeds fun handle =>
      requests handle ++ if named = handle then turn.request?.toList else [] := by
  have hslot := (radio?_eq_some_iff.1 hradio).1
  refine ⟨fun handle other hother => ?_, fun handle hle => ?_⟩
  · rw [slot?_update hradio] at hother
    split at hother
    · rename_i hsame
      rw [← Option.some.inj hother, if_pos (Handle.index_inj hsame), ← Handle.index_inj hsame]
      exact hturned.heeds (h.radios named radio hslot)
    · rename_i hne
      rw [if_neg fun hsame => hne (congrArg Handle.index hsame), List.append_nil]
      exact h.radios handle other hother
  · rcases h.vacant handle hle with ⟨hnone, hnothing⟩
    have hne : named.index ≠ handle.index := by
      intro hsame
      rw [hsame, hnone] at hslot
      exact nomatch hslot
    rw [slot?_update hradio, if_neg hne, if_neg fun hsame => hne (congrArg Handle.index hsame),
      hnothing]
    exact ⟨hnone, rfl⟩

variable [Transport τ ω] [Link σ ω]

/-- An errand that asks for nothing changes nothing that is bound. -/
theorem Heeds.errand (h : pool.Heeds requests) {errand : Errand ω}
    (hidle : ∀ named asked, errand ≠ .turn named (.request asked)) (world : ω) :
    (leaving (pool.errand errand) world).1.Heeds requests := by
  cases errand with
  | handler act => exact h
  | turn named turn =>
      cases turn with
      | request asked => exact absurd rfl (hidle named asked)
      | tick =>
          cases hradio : pool.radio? named with
          | none =>
              rw [errand_of_radio?_eq_none hradio]
              exact h
          | some radio =>
              have hnext := h.update hradio (Scene.turned ⟨radio, world⟩ .tick)
              have hsame : (fun handle => requests handle ++
                  if named = handle then (Turn.tick : Turn ω).request?.toList else []) =
                  requests := by
                funext handle
                unfold Turn.request?
                rw [Option.toList_none, ite_self, List.append_nil]
              rw [leaving_errand hradio, ← hsame]
              exact hnext

theorem Heeds.errands (h : pool.Heeds requests) {errands : List (Errand ω)}
    (hidle : ∀ named asked, .turn named (.request asked) ∉ errands) (world : ω) :
    (leaving (pool.errands errands) world).1.Heeds requests := by
  induction errands generalizing pool world with
  | nil => exact h
  | cons errand rest ih =>
      rw [leaving_errands_cons]
      have hfirst : ∀ named asked, errand ≠ .turn named (.request asked) := by
        intro named asked heq
        exact hidle named asked (heq ▸ List.mem_cons_self)
      exact ih (h.errand hfirst world)
        (fun named asked hmem => hidle named asked (List.mem_cons_of_mem _ hmem)) _

end Pool

namespace Station

variable [Transport τ ω] [Link σ ω] {station : Station tables capacity τ σ ω}
  {requests : Handle → List (Radio.Request ω)}

omit [Transport τ ω] [Link σ ω] in
/-- Only a request has a radio asked for something. -/
theorem request_of_mem_errands {command : Command tables σ ω} {named : Handle}
    {asked : Radio.Request ω} (h : .turn named (.request asked) ∈ station.errands command) :
    command = .request named asked := by
  cases command with
  | start timer settings link => exact nomatch h
  | subscribe timer subscriber context => exact nomatch h
  | tick context => exact nomatch List.mem_singleton.1 h
  | request handle request =>
      cases List.mem_singleton.1 h
      rfl
  | fire timer =>
      rcases List.mem_map.1 h with ⟨⟨_ | handler, context⟩, -, herrand⟩
      · exact nomatch herrand
      · exact nomatch herrand

/-- A command that is no request leaves alone what is bound. -/
theorem heeds_errands (h : station.pool.Heeds requests) {command : Command tables σ ω}
    (hother : ∀ named asked, command ≠ .request named asked) (world : ω) :
    (leaving (station.pool.errands (station.errands command)) world).1.Heeds requests :=
  h.errands (fun named asked hmem => hother named asked (request_of_mem_errands hmem)) world

theorem heeds_execute (h : station.pool.Heeds requests) (command : Command tables σ ω)
    (world : ω) :
    (leaving (station.execute command) world).1.pool.Heeds fun handle =>
      requests handle ++ (command.request? handle (station.execute command world).1.1).toList := by
  by_cases hrequest : ∃ named asked, command = .request named asked
  · rcases hrequest with ⟨named, asked, rfl⟩
    cases hradio : station.pool.radio? named with
    | none =>
        -- The request was refused, so it is not among those that count.
        rw [leaving, execute_of_gives (.request asked) hradio]
        have hsame : (fun handle => requests handle ++
            ((Command.request named asked : Command tables σ ω).request? handle
              (.error (.invalidHandle named))).toList) = requests := by
          funext handle
          exact List.append_nil _
        exact hsame.symm ▸ h
    | some radio =>
        have hpool : (leaving (station.execute (.request named asked)) world).1.pool =
            station.pool.update named (radio.turn (.request asked) world).1.2 := by
          have hleaving := congrFun (station.pool.leaving_perform named asked) world
          rw [Pool.leaving_errand hradio] at hleaving
          exact congrArg Prod.fst hleaving
        rw [hpool, answer_of_gives (.request asked) hradio]
        have hnext := h.update hradio (Scene.turned ⟨radio, world⟩ (.request asked))
        have hsame : (fun handle => requests handle ++
            ((Command.request named asked : Command tables σ ω).request? handle
              (.ok (.yield (radio.turn (.request asked) world).1.1))).toList) =
            fun handle => requests handle ++
              if named = handle then (Turn.request asked).request?.toList else [] := by
          funext handle
          by_cases hnamed : named = handle
          · simp only [Command.request?, Turn.request?, if_pos hnamed]
          · simp only [Command.request?, if_neg hnamed, Option.toList_none]
        rw [hsame]
        exact hnext
  · have hother : ∀ named asked, command ≠ .request named asked := by
      intro named asked heq
      exact hrequest ⟨named, asked, heq⟩
    have hsame : (fun handle => requests handle ++
        (command.request? handle (station.execute command world).1.1).toList) = requests := by
      funext handle
      have hnothing : command.request? handle (station.execute command world).1.1 = none := by
        cases command with
        | request named asked => exact absurd rfl (hother named asked)
        | _ => rfl
      rw [hnothing, Option.toList_none, List.append_nil]
    rw [hsame]
    rcases station.execute_cases command world with
      ⟨settings, period, link, -, hpool, -⟩ | ⟨hpool, -⟩
    · rw [hpool]
      exact h.insert (Radio.heeds_start settings period link world)
    · rw [hpool]
      exact heeds_errands h hother world

/-- After any run, what is bound was asked for last. -/
theorem heeds_run (h : station.pool.Heeds requests) (commands : List (Command tables σ ω))
    (world : ω) :
    (leaving (station.run commands) world).1.pool.Heeds fun handle =>
      requests handle ++ requestsOf handle commands (station.run commands world).1.1 := by
  induction commands generalizing station requests world with
  | nil =>
      have hsame : (fun handle => requests handle ++ requestsOf handle
          ([] : List (Command tables σ ω)) []) = requests := by
        funext handle
        exact List.append_nil _
      exact hsame.symm ▸ h
  | cons command rest ih =>
      have hnext := ih (heeds_execute h command world)
        (leaving (station.execute command) world).2
      simp only [List.append_assoc, ← requestsOf_cons] at hnext
      exact hnext

/-- A command has sources pulled once at most. -/
theorem length_pulls_le (command : Command tables σ ω) (world : ω) :
    ((station.journal [command] world).flatMap fun entry => pulls entry.calls).length ≤ 1 := by
  rw [journal_singleton]
  by_cases hrequest : ∃ named asked, command = .request named asked
  · rcases hrequest with ⟨named, asked, rfl⟩
    rw [errands, Pool.entries_cons]
    cases hradio : station.pool.radio? named with
    | none =>
        rw [Pool.errand_of_radio?_eq_none hradio]
        exact Nat.zero_le 1
    | some radio =>
        have hturned := Scene.turned ⟨radio, world⟩ (.request asked)
        rw [Pool.entries_errand hradio, List.singleton_append, List.flatMap_cons]
        have hlast := hturned.length_pulls_le
        rw [List.length_append]
        exact hlast
  · -- Ticks pull nobody.
    have hnone : ((station.pool.errands (station.errands command) world).1.1.flatMap
        fun entry => pulls entry.calls) = [] := by
      refine List.flatMap_eq_nil_iff.2 fun entry hentry => ?_
      have hmem := Pool.turn_mem_of_mem_entries hentry
      rcases Pool.exists_radio_of_mem_entries hentry with ⟨_, _, _, _, -, -, hturned⟩
      cases hturn : entry.turn with
      | request asked =>
          rw [hturn] at hmem
          exact absurd ⟨entry.handle, asked, request_of_mem_errands hmem⟩ hrequest
      | tick =>
          rw [hturn] at hturned
          cases hturned with
          | tick htick => exact htick.leases.2
    rw [hnone]
    exact Nat.zero_le 1

/-- Who is called back, when, and with what.

    Take any run of a station, with any transport, and any command after it. The
    command has sources pulled once at most. A source that is pulled is the one
    that was bound last under the handle of its radio, callback and context
    together, and the command is a request to this radio that says that there is
    room to transmit. The source is offered between one and 248 bytes, and these
    are all that the pending bytes have left. A sink that is brought bytes is
    the one that was bound last under the handle, and there are some. -/
theorem discipline (timers : Vector (TickTable (Subscriber ω)) tables)
    (commands : List (Command tables σ ω)) (command : Command tables σ ω) (world : ω) :
    let fresh : Station tables capacity τ σ ω := ofTimers timers
    let ended := fresh.run commands world
    let station := ended.1.2
    let entries := station.journal [command] ended.2
    (entries.flatMap fun entry => pulls entry.calls).length ≤ 1 ∧
      ∀ entry ∈ entries,
        let asked := requestsOf entry.handle commands ended.1.1
        (∀ source offered before fill wish,
          .pull source offered before fill wish ∈ entry.calls →
            latest Radio.Request.source? asked = some source ∧
            (∃ available, command = .request entry.handle (.transmitReady available)) ∧
            1 ≤ offered.length ∧ offered.length ≤ 248 ∧
            ∃ pending, station.pool.pendingLength? entry.handle = some pending ∧
              offered.length = 248 - pending) ∧
        ∀ sink data before taken wish, .deliver sink data before taken wish ∈ entry.calls →
          latest Radio.Request.sink? asked = some sink ∧ data ≠ [] := by
  intro fresh ended station entries
  have hheeds : station.pool.Heeds fun handle =>
      [] ++ requestsOf handle commands ended.1.1 :=
    heeds_run Pool.heeds_empty commands world
  refine ⟨length_pulls_le command ended.2, fun entry hentry => ?_⟩
  intro asked
  have hfound : entry ∈ (station.pool.errands (station.errands command) ended.2).1.1 := by
    rw [← station.journal_singleton]
    exact hentry
  rcases Pool.exists_radio_of_mem_entries hfound with
    ⟨earlier, later, radio, after, hsplit, hradio, hturned⟩
  -- A request is the only errand of its command, so none came before the entry.
  have halone {named : Handle} {request : Radio.Request ω}
      (hmem : .turn named (.request request) ∈ station.errands command) :
      command = .request named request ∧ earlier = [] := by
    have hcommand := request_of_mem_errands hmem
    have hlength := congrArg List.length hsplit
    rw [hcommand, errands, List.length_singleton, List.length_append, List.length_cons] at hlength
    exact ⟨hcommand, List.eq_nil_of_length_eq_zero (by omega)⟩
  have hidle : ∀ named request, .turn named (.request request) ∉ earlier := by
    intro named request hmem
    have hnone := (halone (hsplit ▸ List.mem_append_left _ hmem)).2
    rw [hnone] at hmem
    cases hmem
  have hbound : radio.Heeds asked :=
    (hheeds.errands hidle ended.2).radios entry.handle radio (Pool.radio?_eq_some_iff.1 hradio).1
  refine ⟨fun source offered before fill wish hpull => ?_,
    fun sink data before taken wish hdeliver => ?_⟩
  · rcases hturned.offers_spare hbound.short hpull with
      ⟨hsource, ⟨available, hturn⟩, hsome, hmost, hleft⟩
    have hmem := Pool.turn_mem_of_mem_entries hfound
    rw [hturn] at hmem
    rcases halone hmem with ⟨hcommand, hfirst⟩
    rw [hfirst] at hradio
    have hhere : station.pool.radio? entry.handle = some radio := hradio
    refine ⟨hbound.source_eq ▸ hsource, ⟨available, hcommand⟩, hsome, hmost,
      radio.pendingLength, ?_, hleft⟩
    rw [Pool.pendingLength?, hhere]
    rfl
  · have hrightful := hturned.rightful _ hdeliver
    rw [hbound.receiver_eq] at hrightful
    exact hrightful

/-- The source is replaced while two of its bytes are in flight, and a sink comes
    late: the new source is offered what is left, and the sink is brought the
    payload of the packet that comes in. -/
theorem discipline_of_rebinding :
    let first : Binding (Source Unit) := ⟨fun _ _ wish => pure (⟨[7, 8], 2⟩, wish), 1⟩
    let second : Binding (Source Unit) := ⟨fun _ _ wish => pure (⟨[9], 1⟩, wish), 2⟩
    let sink : Binding (Sink Unit) := ⟨fun _ data wish => pure (data.length, wish), 3⟩
    let ready : Command 1 (SerialLink ScriptedChannel) Unit := .request ⟨0⟩ (.transmitReady 1)
    let arrival : Command 1 (SerialLink ScriptedChannel) Unit :=
      .request ⟨0⟩ (.inbound (.ofPayload .data [1, 2]))
    let timers : Vector (TickTable (Subscriber Unit)) 1 := #v[.empty Period.standard 1]
    let fresh : Station 1 1 Immediate (SerialLink ScriptedChannel) Unit := ofTimers timers
    let commands : List (Command 1 (SerialLink ScriptedChannel) Unit) :=
      [.start 0 ⟨16, 100, 1, 1, 0⟩ (.ofChannel ⟨[], []⟩), .request ⟨0⟩ (.bindSource first), ready,
        .request ⟨0⟩ (.bindReceiver sink), .request ⟨0⟩ (.bindSource second)]
    let ended := fresh.run commands ()
    (∃ entry ∈ ended.1.2.journal [ready] ended.2, ∃ offered before fill wish,
        .pull second offered before fill wish ∈ entry.calls ∧ offered.length = 246) ∧
      ∃ entry ∈ ended.1.2.journal [arrival] ended.2, ∃ data before taken wish,
        .deliver sink data before taken wish ∈ entry.calls ∧ data ≠ [] := by
  intro first second sink ready arrival timers fresh commands ended
  have hanswers : ended.1.1 = [.ok (.started ⟨0⟩), .ok (.yield false), .ok (.yield false),
      .ok (.yield false), .ok (.yield false)] := by
    decide +kernel
  have hpending : ended.1.2.pool.pendingLength? ⟨0⟩ = some 2 := by decide +kernel
  have hready : (ended.1.2.journal [ready] ended.2).map
      (fun entry => (entry.handle, (entry.calls.filterMap pull?).length)) = [(⟨0⟩, 1)] := by
    decide +kernel
  have harrival : (ended.1.2.journal [arrival] ended.2).map
      (fun entry => (entry.handle, (entry.calls.filterMap delivery?).map Prod.snd)) =
        [(⟨0⟩, [[1, 2]])] := by
    decide +kernel
  have hsource : latest Radio.Request.source? (requestsOf ⟨0⟩ commands ended.1.1) =
      some second := by
    rw [hanswers]
    rfl
  have hsink : latest Radio.Request.sink? (requestsOf ⟨0⟩ commands ended.1.1) = some sink := by
    rw [hanswers]
    rfl
  rcases List.map_eq_singleton_iff.1 hready with ⟨filled, hfilled, hpulled⟩
  rcases List.map_eq_singleton_iff.1 harrival with ⟨shown, hshown, hbrought⟩
  rcases Prod.mk.inj hpulled with ⟨hhandle, hpulls⟩
  rcases Prod.mk.inj hbrought with ⟨hhandle', hdeliveries⟩
  have hfirst := (@discipline 1 1 Immediate _ _ _ _ timers commands ready ()).2 filled
    (hfilled ▸ List.mem_singleton_self filled)
  have hsecond := (@discipline 1 1 Immediate _ _ _ _ timers commands arrival ()).2 shown
    (hshown ▸ List.mem_singleton_self shown)
  refine ⟨⟨filled, hfilled ▸ List.mem_singleton_self filled, ?_⟩,
    shown, hshown ▸ List.mem_singleton_self shown, ?_⟩
  · rcases List.length_eq_one_iff.1 hpulls with ⟨pulled, hpulled⟩
    rcases List.mem_filterMap.1 (hpulled ▸ List.mem_singleton_self pulled) with
      ⟨call, hcall, hpull⟩
    cases call with
    | pull source offered before fill wish =>
        rcases hfirst.1 source offered before fill wish hcall with
          ⟨hlatest, -, -, -, pending, hcount, hlength⟩
        rw [hhandle, hpending] at hcount
        rw [hhandle, hsource] at hlatest
        cases hcount
        cases hlatest
        exact ⟨offered, before, fill, wish, hcall, hlength⟩
    | _ => exact nomatch hpull
  · rcases List.map_eq_singleton_iff.1 hdeliveries with ⟨delivered, hdelivered, -⟩
    rcases List.mem_filterMap.1 (hdelivered ▸ List.mem_singleton_self delivered) with
      ⟨call, hcall, hdeliver⟩
    cases call with
    | deliver bound data before taken wish =>
        rcases hsecond.2 bound data before taken wish hcall with ⟨hlatest, hdata⟩
        rw [hhandle', hsink] at hlatest
        cases hlatest
        exact ⟨data, before, taken, wish, hcall, hdata⟩
    | _ => exact nomatch hdeliver

end Station

end PacketRadio
