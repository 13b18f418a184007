import PacketRadio.Proofs.Isolation
import PacketRadio.Proofs.Tenancy

/-!
# The Distribution of Ticks

Who is told about the ticks of a timer, in which order, and how often.

A table has a subscription for every answer that says so, in the order of the
answers. The answers to a run are therefore the roll of a timer (`enrolled`), be
it that a radio was started on it or that somebody was subscribed to it. A table
that is full refuses, and this is the only reason to refuse.

A firing calls the roll. It does so from beginning to end, whatever wishes come
up on the way: `TickTable.fire_eq` takes the loop that joins the wishes apart
into a walk over all subscriptions and a look at what they answered.

How often a radio is told is then a matter of counting its handle on the roll.
A handle is on it because of the start that handed it out, or because somebody
wrote it there by hand. Slots are named once, as long as there are words left to
name them, so without the second there is one tick for each firing of the timer
the radio was started on, and none if that start was refused.

## Main definitions

* `Call.polls`, `Call.readings`: What the link is asked on a tick.
* `Command.enrolled?`, `enrolled`: The roll of a timer.

## Theorems

* `TickTable.fire_eq`: A firing runs every subscription once and in order.
* `Radio.Ticked.services`: What a tick asks of the link.
* `Pool.entriesOf_errands`: A radio takes all the turns it is given.
* `Station.subscriptions_run`: The subscriptions to a timer are its roll.
* `Station.turns_fire_run`: A radio is told once for every start of it.
* `Station.distribution`: Who is told about ticks.
-/

namespace PacketRadio

variable {tables capacity : Nat} {τ σ ω α η : Type}

namespace Call

/-- The answer of a link that is polled. -/
@[simp] def poll? : Call ω → Option (Except LinkError Unit)
  | .poll answer => some answer
  | _ => none

/-- The buffer that a link is offered for what has arrived. -/
@[simp] def read? : Call ω → Option (List UInt8)
  | .receive offered _ => some offered
  | _ => none

/-- What came of polling the link. -/
def polls (calls : List (Call ω)) : List (Except LinkError Unit) := calls.filterMap poll?

/-- The buffers the link was offered. -/
def readings (calls : List (Call ω)) : List (List UInt8) := calls.filterMap read?

theorem polls_append (first second : List (Call ω)) :
    polls (first ++ second) = polls first ++ polls second :=
  List.filterMap_append

theorem readings_append (first second : List (Call ω)) :
    readings (first ++ second) = readings first ++ readings second :=
  List.filterMap_append

end Call

open Call

/-- To tell all subscribers and join their wishes on the way is to tell them all,
    and to look at the wishes afterwards. -/
theorem TickTable.fire_eq {μ : Type → Type} [Monad μ] [LawfulMonad μ] (table : TickTable η)
    (run : η → UInt32 → μ Bool) :
    table.fire run = do
      let wishes ← table.subscriptions.mapM fun subscription =>
        run subscription.handler subscription.context
      return wishes.any id := by
  have hjoin (subscriptions : List (Subscription η)) (earlier : Bool) :
      subscriptions.foldlM (fun yield subscription => do
        let wish ← run subscription.handler subscription.context
        return yield || wish) earlier = do
      let wishes ← subscriptions.mapM fun subscription =>
        run subscription.handler subscription.context
      return earlier || wishes.any id := by
    induction subscriptions generalizing earlier with
    | nil => simp only [List.foldlM_nil, List.mapM_nil, pure_bind, List.any_nil, Bool.or_false]
    | cons subscription rest ih =>
        simp only [List.foldlM_cons, List.mapM_cons, bind_assoc, pure_bind, ih, List.any_cons,
          Bool.or_assoc, id]
  exact hjoin table.subscriptions false

namespace Junction

variable [Link σ ω] {junction after : Junction σ ω} {calls : List (Call ω)}

omit [Link σ ω] in
theorem Delivered.aloof {data : List UInt8} (h : junction.Delivered data calls after) :
    polls calls = [] ∧ readings calls = [] := by
  cases h with
  | nowhere _ => exact ⟨rfl, rfl⟩
  | received _ _ _ => exact ⟨rfl, rfl⟩

/-- Serving a tick polls the link once, and then reads it for a chunk or not at
    all. -/
theorem Serviced.services {wish : Bool} (h : junction.Serviced calls wish after) :
    (polls calls).length = 1 ∧ (readings calls = [] ∨ readings calls = [Junction.chunk]) := by
  rcases h with ⟨-, hdrain⟩
  cases hdrain with
  | unbound _ => exact ⟨rfl, .inl rfl⟩
  | @moved _ fill _ more _ _ _ hdeliver =>
      rcases hdeliver.aloof with ⟨hpolls, hreadings⟩
      have hlater : polls (.receive chunk fill :: more) = [] := hpolls
      refine ⟨congrArg (fun later => later.length + 1) hlater, .inr ?_⟩
      exact congrArg (chunk :: ·) hreadings

end Junction

/-- A transport does not ask the link for what has arrived, nor for progress. -/
theorem Exchange.Course.aloof [Link σ ω] {exchange : Exchange ω α} {junction after : Junction σ ω}
    {calls : List (Call ω)} {result : α} (h : exchange.Course junction calls result after) :
    polls calls = [] ∧ readings calls = [] := by
  induction h with
  | done => exact ⟨rfl, rfl⟩
  | send _ _ ih => exact ih
  | @accept data _ _ _ _ first more _ hdeliver _ ih =>
      rcases hdeliver.aloof with ⟨hpolls, hreadings⟩
      constructor
      · show polls (first ++ more) = []
        rw [polls_append, hpolls, ih.1, List.append_nil]
      · show readings (first ++ more) = []
        rw [readings_append, hreadings, ih.2, List.append_nil]
  | setBaud _ ih => exact ih
  | look _ ih => exact ih
  | put _ ih => exact ih

/-- On a tick the link is polled once and read at most once, for a chunk. A
    packet that is forced out asks for nothing more. -/
theorem Radio.Ticked.services [Transport τ ω] [Link σ ω] {radio after : Radio τ σ ω}
    {calls : List (Call ω)} {wish : Bool} (h : radio.Ticked calls wish after) :
    (polls calls).length = 1 ∧ (readings calls = [] ∨ readings calls = [Junction.chunk]) := by
  cases h with
  | waiting hservice _ => exact hservice.services
  | empty hservice _ _ => exact hservice.services
  | @flushed first more _ _ _ _ _ hservice _ _ hover =>
      rcases hover with ⟨hcourse⟩
      rcases hcourse.aloof with ⟨hpolls, hreadings⟩
      rw [polls_append, readings_append]
      simp only [polls, readings, List.filterMap_cons, poll?, read?] at hpolls hreadings ⊢
      rw [hpolls, hreadings, List.append_nil, List.append_nil]
      exact hservice.services

namespace Pool

variable [Transport τ ω] [Link σ ω] {pool : Pool capacity τ σ ω}

/-- A radio that is there takes all the turns it is given, in their order. -/
theorem entriesOf_errands {given : List Charter} (hhouses : pool.Houses given) {handle : Handle}
    (hhandle : handle.index < pool.allocated) (errands : List (Errand ω)) (world : ω) :
    (entriesOf handle (pool.errands errands world).1.1).map
        (fun entry => Errand.turn handle entry.turn) = errandsOf handle errands := by
  induction errands generalizing pool world with
  | nil => rfl
  | cons errand rest ih =>
      have hnext := hhouses.errand errand world
      have hsame : (leaving (pool.errand errand) world).1.allocated = pool.allocated :=
        hnext.allocated_eq.trans hhouses.allocated_eq.symm
      have hlater := ih hnext (hsame ▸ hhandle) (leaving (pool.errand errand) world).2
      rw [entries_cons, entriesOf_append, List.map_append, hlater]
      cases errand with
      | handler act => rfl
      | turn named turn =>
          by_cases hsame : named = handle
          · rw [hsame, errandsOf_own]
            have hlive : pool.radio? handle ≠ none := by
              rw [Ne, hhouses.radio?_eq_none_iff, Nat.not_le]
              exact hhandle
            rcases Option.ne_none_iff_exists'.1 hlive with ⟨radio, hradio⟩
            rw [entries_errand hradio, entriesOf_singleton, if_pos rfl]
            rfl
          · rw [errandsOf_other hsame]
            cases hradio : pool.radio? named with
            | none =>
                rw [errand_of_radio?_eq_none hradio]
                rfl
            | some radio =>
                rw [entries_errand hradio, entriesOf_singleton, if_neg hsame]
                rfl

end Pool

/-- What a command put on the roll of a timer, if the answer says that it did. -/
def Command.enrolled? (timer : Fin tables) :
    Command tables σ ω → Except Failure Reply → Option (Subscription (Subscriber ω))
  | .start started _ _, .ok (.started handle) =>
    if started = timer then some ⟨.pool, handle.raw⟩ else none
  | .subscribe subscribed subscriber context, .ok .subscribed =>
    if subscribed = timer then some ⟨subscriber, context⟩ else none
  | _, _ => none

/-- The roll of a timer: who was put on it, in the order of the answers. -/
def enrolled (timer : Fin tables) (commands : List (Command tables σ ω))
    (answers : List (Except Failure Reply)) : List (Subscription (Subscriber ω)) :=
  (commands.zip answers).filterMap fun carried => carried.1.enrolled? timer carried.2

theorem enrolled_cons (timer : Fin tables) (command : Command tables σ ω)
    (commands : List (Command tables σ ω)) (answer : Except Failure Reply)
    (answers : List (Except Failure Reply)) :
    enrolled timer (command :: commands) (answer :: answers) =
      (command.enrolled? timer answer).toList ++ enrolled timer commands answers := by
  rw [enrolled, List.zip_cons_cons, List.filterMap_cons]
  cases h : command.enrolled? timer answer with
  | none => rfl
  | some subscription => rfl

namespace Station

variable [Transport τ ω] [Link σ ω] {station : Station tables capacity τ σ ω}

/-- An answer tells whether somebody was put on the roll of a timer. -/
theorem subscriptions_execute (command : Command tables σ ω) (world : ω) (timer : Fin tables) :
    let next := station.execute command world
    (next.1.2.table timer).subscriptions =
        (station.table timer).subscriptions ++ (command.enrolled? timer next.1.1).toList ∧
      (next.1.2.table timer).capacity = (station.table timer).capacity := by
  intro next
  have hset {set : Fin tables} {subscriber : Subscriber ω} {context : UInt32}
      {table : TickTable (Subscriber ω)}
      (htable : (station.table set).register subscriber context = .ok table) :
      ((station.withTable set table).table timer).subscriptions =
          (station.table timer).subscriptions ++
            (if set = timer then some ⟨subscriber, context⟩ else none).toList ∧
        ((station.withTable set table).table timer).capacity =
          (station.table timer).capacity := by
    rw [table_withTable]
    by_cases hsame : set = timer
    · rw [if_pos hsame, if_pos hsame, ← hsame, TickTable.subscriptions_register htable,
        TickTable.capacity_register htable]
      exact ⟨rfl, rfl⟩
    · rw [if_neg hsame, if_neg hsame]
      exact ⟨(List.append_nil _).symm, rfl⟩
  have hidle (hnone : command.enrolled? timer next.1.1 = none)
      (htimers : next.1.2.timers = station.timers) :
      (next.1.2.table timer).subscriptions =
          (station.table timer).subscriptions ++ (command.enrolled? timer next.1.1).toList ∧
        (next.1.2.table timer).capacity = (station.table timer).capacity := by
    rw [hnone, table_congr htimers]
    exact ⟨(List.append_nil _).symm, rfl⟩
  cases command with
  | request named asked => exact hidle rfl rfl
  | tick context => exact hidle rfl rfl
  | fire fired => exact hidle rfl rfl
  | subscribe subscribed subscriber context =>
      rcases station.subscribed subscribed subscriber context world with
        ⟨table, htable, hexecute⟩ | hexecute
      · have hnext : next = ((.ok .subscribed, station.withTable subscribed table), world) :=
          hexecute
        rw [hnext]
        exact hset htable
      · have hnext : next = ((.error .tableFull, station), world) := hexecute
        rw [hnext] at hidle ⊢
        exact hidle (by cases subscriber <;> rfl) rfl
  | start started settings link =>
      rcases station.started started settings link world with ⟨answer, after, hexecute, hstarted⟩
      have hnext : next = ((answer, after), _) := hexecute
      rw [hnext] at hidle ⊢
      cases hstarted with
      | full _ => exact hidle rfl rfl
      | refused _ _ => exact hidle rfl rfl
      | enrolled _ htable => exact hset htable

/-- The subscriptions to a timer are its roll, and its table has the room it had
    from the beginning. -/
theorem subscriptions_run (commands : List (Command tables σ ω)) (world : ω)
    (timer : Fin tables) :
    let ended := station.run commands world
    (ended.1.2.table timer).subscriptions =
        (station.table timer).subscriptions ++ enrolled timer commands ended.1.1 ∧
      (ended.1.2.table timer).capacity = (station.table timer).capacity := by
  induction commands generalizing station world with
  | nil => exact ⟨(List.append_nil _).symm, rfl⟩
  | cons command rest ih =>
      intro ended
      rcases station.subscriptions_execute command world timer with ⟨hfirst, hroom⟩
      rcases @ih (station.execute command world).1.2 (station.execute command world).2 with
        ⟨hlater, hroom'⟩
      rw [hfirst, List.append_assoc, ← enrolled_cons] at hlater
      exact ⟨hlater, hroom'.trans hroom⟩

/-- Somebody who subscribes is taken if the table has room for him. -/
theorem execute_subscribe_of_lt {timer : Fin tables}
    (hroom : (station.table timer).size < (station.table timer).capacity)
    (subscriber : Subscriber ω) (context : UInt32) (world : ω) :
    (station.execute (.subscribe timer subscriber context) world).1.1 = .ok .subscribed := by
  cases htable : (station.table timer).register subscriber context with
  | error failure =>
      have hfull := (TickTable.of_register_eq_error htable).2
      omega
  | ok table =>
      rw [execute, subscribe, htable]
      rfl

/-- If the table is full he is refused, and that is all. -/
theorem execute_subscribe_of_le {timer : Fin tables}
    (hfull : (station.table timer).capacity ≤ (station.table timer).size)
    (subscriber : Subscriber ω) (context : UInt32) :
    station.execute (.subscribe timer subscriber context) =
      pure (.error .tableFull, station) := by
  have hrefused := (TickTable.register_eq_error_iff _ subscriber context).2 hfull
  rw [execute, subscribe, hrefused]
  rfl

/-- A start that gets its slot is refused by a full table and by nothing else. -/
theorem execute_start_of_allocated_lt (hslot : station.pool.allocated < capacity)
    (timer : Fin tables) (settings : Settings) (link : σ) (world : ω) :
    let next := station.execute (.start timer settings link) world
    let handle := Handle.ofIndex station.pool.allocated
    ((station.table timer).size < (station.table timer).capacity →
        next.1.1 = .ok (.started handle)) ∧
      ((station.table timer).capacity ≤ (station.table timer).size →
        next.1.1 = .error (.subscriptionRefused handle) ∧ next.1.2.timers = station.timers) := by
  intro next handle
  rcases station.started timer settings link world with ⟨answer, after, hnext, hstarted⟩
  have heq : next = ((answer, after), _) := hnext
  rw [heq]
  cases hstarted with
  | full hnone => omega
  | refused _ hfull => exact ⟨fun hlt => absurd hfull (by omega), fun _ => ⟨rfl, rfl⟩⟩
  | enrolled _ htable =>
      refine ⟨fun _ => rfl, fun hfull => ?_⟩
      rw [(TickTable.register_eq_error_iff _ .pool handle.raw).2 hfull] at htable
      cases htable

/-- A firing calls the roll of its timer. -/
theorem execute_fire (timer : Fin tables) :
    station.execute (.fire timer) = do
      let (wishes, pool) ← ((station.table timer).subscriptions.mapM fun subscription =>
        notify subscription.handler subscription.context).run station.pool
      return (.ok (.yield (wishes.any id)), { station with pool }) := by
  rw [execute, fire, TickTable.fire_eq, StateT.run_bind]
  simp only [bind_assoc, pure_bind, StateT.run_pure]

/-- Only firings and ticks from outside give ticks to radios. -/
theorem turn_ne_tick {command : Command tables σ ω} {handle : Handle} {world : ω}
    (hfire : ∀ fired, command ≠ .fire fired) (htick : command ≠ .tick handle.raw)
    {entry : Entry ω} (hentry : entry ∈ entriesOf handle (station.journal [command] world)) :
    entry.turn ≠ .tick := by
  intro hturn
  rcases mem_entriesOf.1 hentry with ⟨hmem, hhandle⟩
  rw [journal_singleton] at hmem
  have herrand := Pool.turn_mem_of_mem_entries hmem
  rw [hturn, hhandle] at herrand
  cases command with
  | start timer settings link => exact nomatch herrand
  | subscribe timer subscriber context => exact nomatch herrand
  | request named asked => exact nomatch List.mem_singleton.1 herrand
  | tick context =>
      cases List.mem_singleton.1 herrand
      exact htick rfl
  | fire fired => exact hfire fired rfl

/-- A firing gives as many ticks to a radio as its handle is on the roll. -/
theorem turns_fire {given : List Charter} (hhouses : station.pool.Houses given) {handle : Handle}
    (hhandle : handle.index < station.pool.allocated) (timer : Fin tables) (world : ω) :
    (entriesOf handle (station.journal [.fire timer] world)).map Entry.turn =
      List.replicate (station.ticksFor handle timer) .tick := by
  have hall := Pool.entriesOf_errands hhouses hhandle (station.errands (.fire timer)) world
  rw [← journal_singleton, errands, errandsOf_fire] at hall
  have hlength := congrArg List.length hall
  rw [List.length_map, List.length_replicate] at hlength
  refine List.eq_replicate_iff.2 ⟨?_, fun turn hturn => ?_⟩
  · rw [List.length_map, hlength]
    rfl
  · rcases List.mem_map.1 hturn with ⟨entry, hentry, rfl⟩
    have hmem := List.mem_map_of_mem (f := fun entry => Errand.turn handle entry.turn) hentry
    rw [hall] at hmem
    exact (Errand.turn.inj (List.mem_replicate.1 hmem).2).2

section

variable (timers : Vector (TickTable (Subscriber ω)) tables) (commands : List (Command tables σ ω))
  (world : ω)

/-- As long as there are words for the slots, a handle is given to one radio. -/
theorem count_given_le (handle : Handle) :
    let ended := (ofTimers timers : Station tables capacity τ σ ω).run commands world
    ended.1.2.pool.allocated ≤ 2 ^ 32 →
      ended.1.1.count (.ok (.started handle)) +
        ended.1.1.count (.error (.subscriptionRefused handle)) ≤ 1 := by
  intro ended hwords
  have hnamed : ended.1.1.filterMap named? =
      (List.range ended.1.2.pool.allocated).map Handle.ofIndex :=
    (ofTimers timers).named_run commands world
  have honce := List.nodup_iff_count_le_one.1 (nodup_map_ofIndex hwords) handle
  rw [← hnamed, count_named] at honce
  exact honce

/-- A radio that was given a handle takes a tick for every start of it on the
    timer that fires, if nobody else subscribes the pool for it. -/
theorem turns_fire_run (htimers : ∀ timer : Fin tables, (timers.get timer).subscriptions = [])
    {handle : Handle} (fired : Fin tables) :
    let ended := (ofTimers timers : Station tables capacity τ σ ω).run commands world
    ended.1.2.pool.allocated ≤ 2 ^ 32 → directs handle commands ended.1.1 = [] →
      0 < ended.1.1.count (.ok (.started handle)) +
        ended.1.1.count (.error (.subscriptionRefused handle)) →
        (entriesOf handle (ended.1.2.journal [.fire fired] ended.2)).map Entry.turn =
          List.replicate ((timersOf handle commands ended.1.1).count fired) .tick := by
  intro ended hwords hdirect hgiven
  let fresh : Station tables capacity τ σ ω := ofTimers timers
  have hnamed : ended.1.1.filterMap named? =
      (List.range ended.1.2.pool.allocated).map Handle.ofIndex :=
    (ofTimers timers).named_run commands world
  rw [← count_named, List.count_pos_iff, hnamed] at hgiven
  rcases List.mem_map.1 hgiven with ⟨index, hindex, hhandle⟩
  rw [List.mem_range] at hindex
  have hfilled : handle.index < ended.1.2.pool.allocated := by
    rw [← hhandle, Handle.index_ofIndex (by omega)]
    exact hindex
  -- The ticks come from the starts alone: nothing was there, and nothing was added.
  have hcount : ended.1.2.ticksFor handle fired = fresh.ticksFor handle fired +
      ((timersOf handle commands ended.1.1).count fired +
        (directs handle commands ended.1.1).count fired) :=
    fresh.ticksFor_run_eq commands world handle fired
  have hnone : fresh.ticksFor handle fired = 0 := by
    rw [ticksFor, table_ofTimers, htimers]
    rfl
  rw [hnone, hdirect, List.count_nil, Nat.add_zero, Nat.zero_add] at hcount
  have hempty : fresh.pool.Houses [] := Pool.houses_empty
  have hhouses : ended.1.2.pool.Houses (charters timers commands) :=
    houses_run hempty commands world
  rw [← hcount]
  exact turns_fire hhouses hfilled fired ended.2

end

/-- On each tick the link is polled, and it is read for one chunk or not at all. -/
theorem services_of_tick {command : Command tables σ ω} {world : ω} {entry : Entry ω}
    (hentry : entry ∈ station.journal [command] world) (hturn : entry.turn = .tick) :
    (polls entry.calls).length = 1 ∧
      (readings entry.calls = [] ∨ readings entry.calls = [Junction.chunk]) := by
  rw [journal_singleton] at hentry
  rcases Pool.exists_radio_of_mem_entries hentry with ⟨_, _, _, _, -, -, hturned⟩
  rw [hturn] at hturned
  cases hturned with
  | tick htick => exact htick.services

end Station

end PacketRadio
