import PacketRadio.Proofs.Scene
import PacketRadio.Station

/-!
# The Journal of a Station

Which radio of a station took which turn, and what came of it.

The answer to a command says little about the radios that it reached. A firing
of a timer, above all, lets many radios take a turn and answers with one bit.
The journal of a run has an `Entry` for every turn that was taken, with the
handle of the radio, its answer, and the calls it made in the turn. What one
radio did in the run is found by picking its entries out.

A command is carried out by going on errands for it, one after another: a turn
of the radio that a handle names, or a call to somebody else who was subscribed
to a timer. `Station.leaving_execute` says that going on the errands of a
command leaves the pool and the world that the command leaves, so the journal,
which is written on the way, is a journal of the run.

The journal tells all about a radio. Whatever is found under a handle has made
exactly the calls that are entered for that handle, from the time it was
started (`Radio.Lived`). So what holds of a radio along its own turns holds of
every radio of a station at any time, and nothing has to be said about the
station again.

## Main definitions

* `leaving`: What an action leaves behind.
* `Errand`, `Entry`: What a pool is made to do, and a turn that was taken.
* `entriesOf`, `callsOf`: The entries of one radio, and the calls in them.
* `Pool.slot?`: The radio in a slot.
* `Pool.errand`, `Pool.errands`: Going on errands.
* `Station.errands`: The errands of a command.
* `Station.Started`: The ways in which a start can end.
* `Station.journal`: The turns taken in a run.
* `Pool.Invariant`: What starts and turns preserve.
* `Pool.Follows`: What holds of one radio and its entries.
* `Radio.Lived`, `Pool.Attested`: Some calls are all that a radio made, and the
  journal has them all.

## Theorems

* `Pool.slot?_empty`, `Pool.slot?_update`, `Pool.slot?_insert`: The slots of a
  pool that is new, or has changed.
* `Pool.errand_cases`, `Pool.errands_preserve`: An errand changes one radio at
  most, and what every errand preserves, all of them do.
* `Pool.exists_radio_of_mem_entries`: An entry is about a radio of its time.
* `Station.started`, `Station.subscribed`: A start ends in one of three ways, and
  a subscription in one of two.
* `Station.leaving_execute`, `Station.execute_cases`: A command is carried out
  by its errands, or starts a radio.
* `Station.turn_of_mem_journal`: Radios do what they are asked to.
* `Station.leaving_run_append`, `Station.answers_append`, `Station.journal_append`:
  A run is cut into parts.
* `Pool.Invariant.run`: What starts and turns preserve, runs preserve.
* `Pool.follows_invariant`: So does what every turn of a radio keeps about it.
* `Station.attested_run`: A journal tells all about the radios.
-/

namespace PacketRadio

variable {tables capacity : Nat} {τ σ ω : Type}

/-- What an action leaves behind, its answer aside. -/
def leaving {α β : Type} (act : StateM ω (α × β)) (world : ω) : β × ω :=
  ((act world).1.2, (act world).2)

/-- Something that a pool is made to do. -/
inductive Errand (ω : Type) where
  | turn (handle : Handle) (turn : Turn ω)
  -- Somebody who is not the pool is told about a tick.
  | handler (act : StateM ω Bool)

/-- A turn that a radio took. -/
structure Entry (ω : Type) where
  handle : Handle
  turn : Turn ω
  /-- The answer of the radio. -/
  wish : Bool
  calls : List (Call ω)

/-- The entries of one radio, among those of all. -/
def entriesOf (handle : Handle) (entries : List (Entry ω)) : List (Entry ω) :=
  entries.filter fun entry => entry.handle = handle

/-- The calls that one radio made. -/
def callsOf (handle : Handle) (entries : List (Entry ω)) : List (Call ω) :=
  (entriesOf handle entries).flatMap Entry.calls

theorem mem_entriesOf {handle : Handle} {entries : List (Entry ω)} {entry : Entry ω} :
    entry ∈ entriesOf handle entries ↔ entry ∈ entries ∧ entry.handle = handle := by
  rw [entriesOf, List.mem_filter, decide_eq_true_iff]

theorem entriesOf_append (handle : Handle) (first second : List (Entry ω)) :
    entriesOf handle (first ++ second) = entriesOf handle first ++ entriesOf handle second :=
  List.filter_append first second

theorem callsOf_append (handle : Handle) (first second : List (Entry ω)) :
    callsOf handle (first ++ second) = callsOf handle first ++ callsOf handle second := by
  rw [callsOf, entriesOf_append, List.flatMap_append]
  rfl

theorem entriesOf_singleton (handle : Handle) (entry : Entry ω) :
    entriesOf handle [entry] = if entry.handle = handle then [entry] else [] := by
  by_cases h : entry.handle = handle
  · simp [entriesOf, h]
  · simp [entriesOf, h]

theorem callsOf_singleton (handle : Handle) (entry : Entry ω) :
    callsOf handle [entry] = if entry.handle = handle then entry.calls else [] := by
  rw [callsOf, entriesOf_singleton]
  by_cases h : entry.handle = handle
  · rw [if_pos h, if_pos h, List.flatMap_singleton]
  · rw [if_neg h, if_neg h, List.flatMap_nil]

namespace Pool

variable {pool : Pool capacity τ σ ω}

/-- The radio in a slot, if there is one. -/
def slot? (pool : Pool capacity τ σ ω) (index : Nat) : Option (Radio τ σ ω) :=
  pool.slots[index]?.join

theorem slot?_empty (index : Nat) : (empty : Pool capacity τ σ ω).slot? index = none := by
  rw [slot?, empty, Vector.getElem?_replicate]
  split <;> rfl

theorem radio?_eq_some_iff {handle : Handle} {radio : Radio τ σ ω} :
    pool.radio? handle = some radio ↔
      pool.slot? handle.index = some radio ∧ radio.isLive = true :=
  Option.filter_eq_some_iff

theorem slot?_update {handle : Handle} {old : Radio τ σ ω}
    (h : pool.radio? handle = some old) (radio : Radio τ σ ω) (index : Nat) :
    (pool.update handle radio).slot? index =
      if handle.index = index then some radio else pool.slot? index := by
  -- A slot that held a radio lies in the pool.
  have hin : handle.index < capacity := by
    refine Nat.lt_of_not_le fun hout => ?_
    have hslot := (radio?_eq_some_iff.1 h).1
    rw [slot?, Vector.getElem?_eq_none_iff.2 hout] at hslot
    exact nomatch hslot
  rw [slot?, update, Vector.getElem?_setIfInBounds, if_pos hin]
  split <;> rfl

theorem radio?_update {handle : Handle} {old radio : Radio τ σ ω}
    (h : pool.radio? handle = some old) (hlive : radio.isLive = true) (other : Handle) :
    (pool.update handle radio).radio? other =
      if handle = other then some radio else pool.radio? other := by
  have hslot : (pool.update handle radio).radio? other =
      (if handle.index = other.index then some radio else pool.slot? other.index).filter
        Radio.isLive := congrArg _ (slot?_update h radio other.index)
  rw [hslot]
  by_cases hsame : handle = other
  · rw [if_pos hsame, if_pos (congrArg Handle.index hsame)]
    exact Option.filter_some_pos hlive
  · rw [if_neg hsame, if_neg fun hindex => hsame (Handle.index_inj hindex)]
    rfl

/-- A new radio goes into the slot after the last one, if there is any. -/
theorem slot?_insert (radio : Radio τ σ ω) (index : Nat) :
    (pool.insert radio).2.slot? index =
      if pool.allocated = index ∧ index < capacity then some radio else pool.slot? index := by
  rw [insert]
  by_cases hroom : pool.allocated < capacity
  · rw [dif_pos hroom, slot?, Vector.getElem?_set]
    by_cases hnext : pool.allocated = index
    · rw [if_pos hnext, if_pos ⟨hnext, hnext ▸ hroom⟩]
      rfl
    · rw [if_neg hnext, if_neg (not_and_of_not_left _ hnext)]
      rfl
  · have hnone : ¬ (pool.allocated = index ∧ index < capacity) := by omega
    rw [dif_neg hroom, if_neg hnone]

theorem allocated_insert (radio : Radio τ σ ω) :
    (pool.insert radio).2.allocated =
      if pool.allocated < capacity then pool.allocated + 1 else pool.allocated := by
  rw [insert]
  split <;> rfl

variable [Transport τ ω] [Link σ ω]

/-- Go on an errand. A turn is entered in the journal if there is a radio to take
    it. -/
def errand (pool : Pool capacity τ σ ω) :
    Errand ω → StateM ω (List (Entry ω) × Pool capacity τ σ ω)
  | .turn handle turn => fun world =>
    match pool.radio? handle with
    | none => (([], pool), world)
    | some radio =>
      let scene : Scene τ σ ω := ⟨radio, world⟩
      let after := scene.after [turn]
      (([⟨handle, turn, (radio.turn turn world).1.1, scene.calls [turn]⟩],
        pool.update handle after.radio), after.world)
  | .handler act => fun world => (([], pool), (act world).2)

/-- Go on one errand after another. -/
def errands (pool : Pool capacity τ σ ω) :
    List (Errand ω) → StateM ω (List (Entry ω) × Pool capacity τ σ ω)
  | [] => pure ([], pool)
  | errand :: rest => do
    let (entries, pool) ← pool.errand errand
    let (more, pool) ← pool.errands rest
    return (entries ++ more, pool)

theorem errand_of_radio?_eq_none {handle : Handle} (h : pool.radio? handle = none)
    (turn : Turn ω) : pool.errand (.turn handle turn) = pure ([], pool) := by
  funext world
  rw [errand, h]
  rfl

theorem leaving_errand {handle : Handle} {radio : Radio τ σ ω}
    (h : pool.radio? handle = some radio) (turn : Turn ω) (world : ω) :
    leaving (pool.errand (.turn handle turn)) world =
      (pool.update handle (radio.turn turn world).1.2, (radio.turn turn world).2) := by
  rw [leaving, errand, h]
  rfl

/-- An errand changes at most the radio that took a turn. -/
theorem errand_cases (errand : Errand ω) (world : ω) :
    (leaving (pool.errand errand) world).1 = pool ∨
      ∃ asked radio turn, pool.radio? asked = some radio ∧
        (leaving (pool.errand errand) world).1 =
          pool.update asked (radio.turn turn world).1.2 := by
  cases errand with
  | handler act => exact .inl rfl
  | turn asked turn =>
      cases hradio : pool.radio? asked with
      | none =>
          rw [errand_of_radio?_eq_none hradio]
          exact .inl rfl
      | some radio =>
          rw [leaving_errand hradio]
          exact .inr ⟨asked, radio, turn, hradio, rfl⟩

theorem entries_errand {handle : Handle} {radio : Radio τ σ ω}
    (h : pool.radio? handle = some radio) (turn : Turn ω) (world : ω) :
    (pool.errand (.turn handle turn) world).1.1 =
      [⟨handle, turn, (radio.turn turn world).1.1, Scene.calls ⟨radio, world⟩ [turn]⟩] := by
  rw [errand, h]

theorem leaving_perform (handle : Handle) (request : Radio.Request ω) :
    leaving (pool.perform handle request) =
      leaving (pool.errand (.turn handle (.request request))) := by
  funext world
  rw [leaving, leaving, perform, errand]
  cases pool.radio? handle <;> rfl

theorem leaving_tick (context : UInt32) :
    leaving (pool.tick context) = leaving (pool.errand (.turn ⟨context⟩ .tick)) := by
  funext world
  rw [leaving, leaving, tick, errand]
  cases pool.radio? ⟨context⟩ <;> rfl

/-- What errands leave behind, one after another. -/
theorem leaving_errands_cons (errand : Errand ω) (rest : List (Errand ω)) (world : ω) :
    leaving (pool.errands (errand :: rest)) world =
      leaving ((leaving (pool.errand errand) world).1.errands rest)
        (leaving (pool.errand errand) world).2 := rfl

/-- What every errand preserves is still there after all of them. -/
theorem errands_preserve {motive : Pool capacity τ σ ω → Prop}
    (hstep : ∀ pool errand world, motive pool → motive (leaving (pool.errand errand) world).1)
    (h : motive pool) (errands : List (Errand ω)) (world : ω) :
    motive (leaving (pool.errands errands) world).1 := by
  induction errands generalizing pool world with
  | nil => exact h
  | cons errand rest ih =>
      rw [leaving_errands_cons]
      exact ih (hstep pool errand world h) _

theorem entries_cons (errand : Errand ω) (rest : List (Errand ω)) (world : ω) :
    (pool.errands (errand :: rest) world).1.1 =
      (pool.errand errand world).1.1 ++
        ((leaving (pool.errand errand) world).1.errands rest
          (leaving (pool.errand errand) world).2).1.1 := rfl

theorem leaving_errands_append (first second : List (Errand ω)) (world : ω) :
    leaving (pool.errands (first ++ second)) world =
      leaving ((leaving (pool.errands first) world).1.errands second)
        (leaving (pool.errands first) world).2 := by
  induction first generalizing pool world with
  | nil => rfl
  | cons errand rest ih =>
      rw [List.cons_append, leaving_errands_cons, leaving_errands_cons, ih]

theorem entries_append (first second : List (Errand ω)) (world : ω) :
    (pool.errands (first ++ second) world).1.1 =
      (pool.errands first world).1.1 ++
        ((leaving (pool.errands first) world).1.errands second
          (leaving (pool.errands first) world).2).1.1 := by
  induction first generalizing pool world with
  | nil => rfl
  | cons errand rest ih =>
      rw [List.cons_append, entries_cons, entries_cons, leaving_errands_cons, ih,
        List.append_assoc]

/-- An entry is about a radio that was in the pool when its errand was due. -/
theorem exists_radio_of_mem_entries {errands : List (Errand ω)} {world : ω} {entry : Entry ω}
    (h : entry ∈ (pool.errands errands world).1.1) :
    ∃ earlier later radio after, errands = earlier ++ .turn entry.handle entry.turn :: later ∧
      (leaving (pool.errands earlier) world).1.radio? entry.handle = some radio ∧
      radio.Turned entry.turn entry.calls entry.wish after := by
  induction errands generalizing pool world with
  | nil => exact nomatch h
  | cons errand rest ih =>
      rw [entries_cons] at h
      rcases List.mem_append.1 h with hfirst | hlater
      · cases errand with
        | handler act => exact nomatch hfirst
        | turn named turn =>
            cases hradio : pool.radio? named with
            | none =>
                rw [errand_of_radio?_eq_none hradio] at hfirst
                exact nomatch hfirst
            | some radio =>
                rw [entries_errand hradio] at hfirst
                rw [List.mem_singleton.1 hfirst]
                exact ⟨[], rest, radio, _, rfl, hradio, Scene.turned ⟨radio, world⟩ turn⟩
      · rcases ih hlater with ⟨earlier, later, radio, after, hsplit, hradio, hturned⟩
        refine ⟨errand :: earlier, later, radio, after, ?_, hradio, hturned⟩
        rw [hsplit, List.cons_append]

/-- What is entered was an errand. -/
theorem turn_mem_of_mem_entries {errands : List (Errand ω)} {world : ω} {entry : Entry ω}
    (h : entry ∈ (pool.errands errands world).1.1) : .turn entry.handle entry.turn ∈ errands := by
  rcases exists_radio_of_mem_entries h with ⟨earlier, later, _, _, hsplit, -, -⟩
  rw [hsplit]
  exact List.mem_append_right _ List.mem_cons_self

end Pool

/-- What a pool is made to do for one subscription to a timer that ticks. -/
def Subscription.errand (subscription : Subscription (Subscriber ω)) : Errand ω :=
  match subscription.handler with
  | .pool => .turn ⟨subscription.context⟩ .tick
  | .other handler => .handler (handler subscription.context)

namespace Station

variable {station : Station tables capacity τ σ ω}

/-- The errands of a command. To start a radio takes none, as it gives no turn
    to any. -/
def errands (station : Station tables capacity τ σ ω) :
    Command tables σ ω → List (Errand ω)
  | .start _ _ _ => []
  | .request handle request => [.turn handle (.request request)]
  | .tick context => [.turn ⟨context⟩ .tick]
  | .subscribe _ _ _ => []
  | .fire timer => (station.table timer).subscriptions.map Subscription.errand

/-- Subscribing somebody changes one table, and not the pool. -/
theorem of_subscribe {timer : Fin tables} {subscriber : Subscriber ω} {context : UInt32}
    {after : Station tables capacity τ σ ω}
    (h : station.subscribe timer subscriber context = .ok after) :
    ∃ table, (station.table timer).register subscriber context = .ok table ∧
      after = station.withTable timer table := by
  rw [subscribe] at h
  cases htable : (station.table timer).register subscriber context with
  | error failure => exact nomatch htable ▸ h
  | ok table =>
      rw [htable] at h
      exact ⟨table, rfl, (Except.ok.inj h).symm⟩

/-- The ways in which starting a radio on a timer can end, with the answer and
    what is left of the station. -/
inductive Started (station : Station tables capacity τ σ ω) (timer : Fin tables)
    (radio : Radio τ σ ω) : Except Failure Reply → Station tables capacity τ σ ω → Prop where
  | full (hfull : capacity ≤ station.pool.allocated) :
      Started station timer radio (.error .outOfDevices) station
  -- The slot is taken by then.
  | refused (hroom : station.pool.allocated < capacity)
      (htable : (station.table timer).capacity ≤ (station.table timer).size) :
      Started station timer radio
        (.error (.subscriptionRefused (Handle.ofIndex station.pool.allocated)))
        { station with pool := (station.pool.insert radio).2 }
  | enrolled {table : TickTable (Subscriber ω)} (hroom : station.pool.allocated < capacity)
      (htable : (station.table timer).register .pool
        (Handle.ofIndex station.pool.allocated).raw = .ok table) :
      Started station timer radio (.ok (.started (Handle.ofIndex station.pool.allocated)))
        ({ station with pool := (station.pool.insert radio).2 }.withTable timer table)

theorem of_subscribe_eq_error {timer : Fin tables} {subscriber : Subscriber ω} {context : UInt32}
    {failure : Failure} (h : station.subscribe timer subscriber context = .error failure) :
    (station.table timer).register subscriber context = .error failure := by
  unfold subscribe at h
  cases htable : (station.table timer).register subscriber context with
  | error cause =>
      rw [htable] at h
      exact congrArg Except.error (Except.error.inj h)
  | ok table =>
      rw [htable] at h
      exact nomatch h

variable [Transport τ ω] [Link σ ω]

/-- Somebody is subscribed, or the table has no room and nothing is changed. -/
theorem subscribed (timer : Fin tables) (subscriber : Subscriber ω) (context : UInt32)
    (world : ω) :
    (∃ table, (station.table timer).register subscriber context = .ok table ∧
        station.execute (.subscribe timer subscriber context) world =
          ((.ok .subscribed, station.withTable timer table), world)) ∨
      station.execute (.subscribe timer subscriber context) world =
        ((.error .tableFull, station), world) := by
  cases hsubscribe : station.subscribe timer subscriber context with
  | error failure =>
      have hregister := of_subscribe_eq_error hsubscribe
      rw [execute, hsubscribe, (TickTable.of_register_eq_error hregister).1]
      exact .inr rfl
  | ok after =>
      rcases of_subscribe hsubscribe with ⟨table, htable, rfl⟩
      rw [execute, hsubscribe]
      exact .inl ⟨table, htable, rfl⟩

/-- The turns that radios take in a run. -/
def journal (station : Station tables capacity τ σ ω) :
    List (Command tables σ ω) → ω → List (Entry ω)
  | [], _ => []
  | command :: rest, world =>
    let (after, world') := leaving (station.execute command) world
    (station.pool.errands (station.errands command) world).1.1 ++ after.journal rest world'

/-- The turns of a run, one command after another. -/
theorem journal_cons (station : Station tables capacity τ σ ω) (command : Command tables σ ω)
    (rest : List (Command tables σ ω)) (world : ω) :
    station.journal (command :: rest) world =
      (station.pool.errands (station.errands command) world).1.1 ++
        (leaving (station.execute command) world).1.journal rest
          (leaving (station.execute command) world).2 := rfl

/-- The turns that a command gives are those of its errands. -/
theorem journal_singleton (station : Station tables capacity τ σ ω)
    (command : Command tables σ ω) (world : ω) :
    station.journal [command] world =
      (station.pool.errands (station.errands command) world).1.1 :=
  List.append_nil _

theorem leaving_notify (pool : Pool capacity τ σ ω) (subscription : Subscription (Subscriber ω)) :
    leaving (notify subscription.handler subscription.context pool) =
      leaving (pool.errand subscription.errand) := by
  rcases subscription with ⟨_ | handler, context⟩
  · exact pool.leaving_tick context
  · rfl

theorem leaving_notifyAll (subscriptions : List (Subscription (Subscriber ω))) (wish : Bool)
    (pool : Pool capacity τ σ ω) :
    leaving (subscriptions.foldlM (m := StateT (Pool capacity τ σ ω) (StateM ω))
        (fun yield subscription => do
          let wish ← notify subscription.handler subscription.context
          return yield || wish) wish pool) =
      leaving (pool.errands (subscriptions.map Subscription.errand)) := by
  induction subscriptions generalizing wish pool with
  | nil => rfl
  | cons subscription rest ih =>
      funext world
      -- The first subscriber is told, and the others find what that left.
      have hfirst := congrFun (leaving_notify pool subscription) world
      rw [List.map_cons, Pool.leaving_errands_cons, ← hfirst, ← ih]
      rfl

/-- A timer that ticks sends the pool on one errand for each subscription. -/
theorem leaving_fire (timer : Fin tables) (world : ω) :
    leaving (station.fire timer) world =
      let (pool, world) := leaving (station.pool.errands (station.errands (.fire timer))) world
      ({ station with pool }, world) := by
  have hall := leaving_notifyAll (station.table timer).subscriptions false station.pool
  show ({ station with pool := _ }, _) = _
  rw [errands, ← hall]
  rfl

/-- A start ends in one of three ways. The radio is built before anything is
    decided. -/
theorem started (timer : Fin tables) (settings : Settings) (link : σ) (world : ω) :
    let scene : Scene τ σ ω := Scene.start settings (station.table timer).period link world
    ∃ answer after,
      station.execute (.start timer settings link) world = ((answer, after), scene.world) ∧
        station.Started timer scene.radio answer after := by
  intro scene
  have hbuilt : station.pool.allocate settings (station.table timer).period link world =
      (station.pool.insert scene.radio, scene.world) := rfl
  simp only [execute, start, bind, StateT.bind, hbuilt]
  by_cases hroom : station.pool.allocated < capacity
  · have hinsert : station.pool.insert scene.radio =
        (.ok (Handle.ofIndex station.pool.allocated), (station.pool.insert scene.radio).2) := by
      simp only [Pool.insert, dif_pos hroom]
    rw [hinsert]
    -- The slot is taken, whatever becomes of the subscription.
    cases hsubscribe : subscribe { station with pool := (station.pool.insert scene.radio).2 }
        timer .pool (Handle.ofIndex station.pool.allocated).raw with
    | error failure =>
        have hfull := (TickTable.of_register_eq_error (of_subscribe_eq_error hsubscribe)).2
        simp only [hsubscribe]
        exact ⟨_, _, rfl, .refused hroom hfull⟩
    | ok subscribed =>
        rcases of_subscribe hsubscribe with ⟨table, htable, rfl⟩
        simp only [hsubscribe]
        exact ⟨_, _, rfl, .enrolled hroom htable⟩
  · have hinsert : station.pool.insert scene.radio = (.error .outOfDevices, station.pool) := by
      simp only [Pool.insert, dif_neg hroom]
    rw [hinsert]
    exact ⟨_, _, rfl, .full (Nat.le_of_not_lt hroom)⟩

/-- Starting a radio puts a new one into the pool, if there is room. -/
theorem leaving_start (timer : Fin tables) (settings : Settings) (link : σ) (world : ω) :
    let scene : Scene τ σ ω := Scene.start settings (station.table timer).period link world
    let after := leaving (station.execute (.start timer settings link)) world
    (after.1.pool, after.2) = ((station.pool.insert scene.radio).2, scene.world) := by
  intro scene after
  rcases station.started timer settings link world with ⟨answer, ended, hexecute, hstarted⟩
  have hafter : after = (ended, scene.world) := by
    show leaving (station.execute (.start timer settings link)) world = _
    rw [leaving, hexecute]
  rw [hafter]
  cases hstarted with
  | full hfull => rw [Pool.insert, dif_neg (Nat.not_lt.2 hfull)]
  | refused _ _ => rfl
  | enrolled _ _ => rfl

/-- Every other command is carried out by its errands. -/
theorem leaving_execute {command : Command tables σ ω}
    (hstart : ∀ timer settings link, command ≠ .start timer settings link) (world : ω) :
    let after := leaving (station.execute command) world
    (after.1.pool, after.2) = leaving (station.pool.errands (station.errands command)) world := by
  cases command with
  | start timer settings link => exact absurd rfl (hstart timer settings link)
  | request handle request => exact congrFun (station.pool.leaving_perform handle request) world
  | tick context => exact congrFun (station.pool.leaving_tick context) world
  | fire timer =>
      intro after
      have hafter : after = leaving (station.fire timer) world := rfl
      rw [hafter, leaving_fire]
  | subscribe timer subscriber context =>
      intro after
      have hafter : after =
          leaving (station.execute (.subscribe timer subscriber context)) world := rfl
      rcases station.subscribed timer subscriber context world with ⟨_, -, hexecute⟩ | hexecute
      · rw [hafter, leaving, hexecute]
        rfl
      · rw [hafter, leaving, hexecute]
        rfl

/-- A command puts a new radio into the pool, or it comes down to its errands. -/
theorem execute_cases (command : Command tables σ ω) (world : ω) :
    (∃ settings period link, station.errands command = [] ∧
        (leaving (station.execute command) world).1.pool =
          (station.pool.insert (Scene.start settings period link world).radio).2 ∧
        (leaving (station.execute command) world).2 =
          (Scene.start settings period link world : Scene τ σ ω).world) ∨
      (leaving (station.execute command) world).1.pool =
          (leaving (station.pool.errands (station.errands command)) world).1 ∧
        (leaving (station.execute command) world).2 =
          (leaving (station.pool.errands (station.errands command)) world).2 := by
  by_cases hstart : ∃ timer settings link, command = .start timer settings link
  · rcases hstart with ⟨timer, settings, link, rfl⟩
    have hbuilt := station.leaving_start timer settings link world
    exact .inl ⟨settings, (station.table timer).period, link, rfl, congrArg Prod.fst hbuilt,
      congrArg Prod.snd hbuilt⟩
  · have hexecute := station.leaving_execute
      (fun timer settings link heq => hstart ⟨timer, settings, link, heq⟩) world
    exact .inr ⟨congrArg Prod.fst hexecute, congrArg Prod.snd hexecute⟩

/-- A radio ticks, or it does what a command asked of it. -/
theorem turn_of_mem_journal {commands : List (Command tables σ ω)} {world : ω} {entry : Entry ω}
    (h : entry ∈ station.journal commands world) :
    entry.turn = .tick ∨
      ∃ request, entry.turn = .request request ∧ .request entry.handle request ∈ commands := by
  induction commands generalizing station world with
  | nil => exact nomatch h
  | cons command rest ih =>
      rcases List.mem_append.1 h with hfirst | hlater
      · have hmem := Pool.turn_mem_of_mem_entries hfirst
        cases command with
        | start timer settings link => exact nomatch hmem
        | subscribe timer subscriber context => exact nomatch hmem
        | request handle request =>
            rcases Errand.turn.inj (List.mem_singleton.1 hmem) with ⟨hhandle, hturn⟩
            exact .inr ⟨request, hturn, hhandle ▸ List.mem_cons_self⟩
        | tick context => exact .inl (Errand.turn.inj (List.mem_singleton.1 hmem)).2
        | fire timer =>
            rcases List.mem_map.1 hmem with ⟨⟨_ | handler, context⟩, -, herrand⟩
            · exact .inl (Errand.turn.inj herrand).2.symm
            · exact nomatch herrand
      · rcases ih hlater with htick | ⟨request, hturn, hmem⟩
        · exact .inl htick
        · exact .inr ⟨request, hturn, List.mem_cons_of_mem _ hmem⟩

/-- What a run leaves behind, one command after another. -/
theorem leaving_run_cons (command : Command tables σ ω) (rest : List (Command tables σ ω))
    (world : ω) :
    leaving (station.run (command :: rest)) world =
      leaving ((leaving (station.execute command) world).1.run rest)
        (leaving (station.execute command) world).2 := rfl

section

variable (first second : List (Command tables σ ω)) (world : ω)

/-- What a run leaves behind, part after part. -/
theorem leaving_run_append :
    leaving (station.run (first ++ second)) world =
      leaving ((leaving (station.run first) world).1.run second)
        (leaving (station.run first) world).2 := by
  rw [run_append]
  rfl

theorem answers_append :
    (station.run (first ++ second) world).1.1 =
      (station.run first world).1.1 ++
        ((leaving (station.run first) world).1.run second
          (leaving (station.run first) world).2).1.1 := by
  rw [run_append]
  rfl

theorem journal_append :
    station.journal (first ++ second) world =
      station.journal first world ++
        (leaving (station.run first) world).1.journal second
          (leaving (station.run first) world).2 := by
  induction first generalizing station world with
  | nil => rfl
  | cons command rest ih =>
      rw [List.cons_append, journal_cons, journal_cons, ih, leaving_run_cons, List.append_assoc]

end

/-- Every command is answered. -/
theorem length_answers (commands : List (Command tables σ ω)) (world : ω) :
    (station.run commands world).1.1.length = commands.length := by
  induction commands generalizing station world with
  | nil => rfl
  | cons command rest ih => exact congrArg (· + 1) (ih _)

/-- The answer to a command stands where the command stands. -/
theorem getElem?_answers (before rest : List (Command tables σ ω)) (command : Command tables σ ω)
    (world : ω) :
    (station.run (before ++ command :: rest) world).1.1[before.length]? =
      some ((leaving (station.run before) world).1.execute command
        (leaving (station.run before) world).2).1.1 := by
  have hlength := station.length_answers before world
  rw [answers_append, List.getElem?_append_right (Nat.le_of_eq hlength), hlength, Nat.sub_self]
  rfl

end Station

section

variable [Transport τ ω] [Link σ ω]

/-- A property of a pool and of what was entered about it that survives when a radio
    is started and when one takes a turn. -/
structure Pool.Invariant (motive : List (Entry ω) → Pool capacity τ σ ω → Prop) : Prop where
  insert {entries : List (Entry ω)} {pool : Pool capacity τ σ ω} {settings : Settings}
    {period : Period} {link : σ} {radio : Radio τ σ ω} :
    motive entries pool → Possible (Radio.start settings period link) radio →
      motive entries (pool.insert radio).2
  turn {entries : List (Entry ω)} {pool : Pool capacity τ σ ω} {handle : Handle}
    {radio : Radio τ σ ω} (turn : Turn ω) (world : ω) :
    motive entries pool → pool.radio? handle = some radio →
      motive (entries ++
          [⟨handle, turn, (radio.turn turn world).1.1, Scene.calls ⟨radio, world⟩ [turn]⟩])
        (pool.update handle (radio.turn turn world).1.2)

namespace Pool.Invariant

variable {motive : List (Entry ω) → Pool capacity τ σ ω → Prop} {entries : List (Entry ω)}

theorem errands (hmotive : Invariant motive) {pool : Pool capacity τ σ ω}
    (h : motive entries pool) (errands : List (Errand ω)) (world : ω) :
    motive (entries ++ (pool.errands errands world).1.1)
      (leaving (pool.errands errands) world).1 := by
  induction errands generalizing pool entries world with
  | nil => exact (List.append_nil entries).symm ▸ h
  | cons errand rest ih =>
      rw [leaving_errands_cons, entries_cons, ← List.append_assoc]
      refine ih ?_ _
      have hidle : motive (entries ++ []) pool := (List.append_nil entries).symm ▸ h
      cases errand with
      | handler act => exact hidle
      | turn asked turn =>
          cases hradio : pool.radio? asked with
          | none =>
              rw [errand_of_radio?_eq_none hradio]
              exact hidle
          | some radio =>
              rw [leaving_errand hradio, entries_errand hradio]
              exact hmotive.turn turn world h hradio

variable {station : Station tables capacity τ σ ω}

theorem execute (hmotive : Invariant motive) (h : motive entries station.pool)
    (command : Command tables σ ω) (world : ω) :
    motive (entries ++ (station.pool.errands (station.errands command) world).1.1)
      (leaving (station.execute command) world).1.pool := by
  rcases station.execute_cases command world with
    ⟨settings, period, link, hnone, hpool, -⟩ | ⟨hpool, -⟩
  · rw [hpool, hnone]
    exact (List.append_nil entries).symm ▸ hmotive.insert h ⟨world, rfl⟩
  · rw [hpool]
    exact hmotive.errands h _ world

/-- It survives a run. -/
theorem run (hmotive : Invariant motive) (h : motive entries station.pool)
    (commands : List (Command tables σ ω)) (world : ω) :
    motive (entries ++ station.journal commands world)
      (leaving (station.run commands) world).1.pool := by
  induction commands generalizing station entries world with
  | nil => exact (List.append_nil entries).symm ▸ h
  | cons command rest ih =>
      rw [Station.leaving_run_cons, Station.journal_cons, ← List.append_assoc]
      exact ih (hmotive.execute h command world) _

end Pool.Invariant

/-- What holds of a radio and its own entries, for the radio in the slot that a handle
    names. -/
structure Pool.Follows (motive : List (Entry ω) → Radio τ σ ω → Prop) (handle : Handle)
    (entries : List (Entry ω)) (pool : Pool capacity τ σ ω) : Prop where
  radio (radio : Radio τ σ ω) :
    pool.slot? handle.index = some radio → motive (entriesOf handle entries) radio
  vacant : pool.slot? handle.index = none → entriesOf handle entries = []
  -- Slots are filled in their order.
  unused : pool.allocated ≤ handle.index → pool.slot? handle.index = none

namespace Pool

variable {motive : List (Entry ω) → Radio τ σ ω → Prop} {handle : Handle}

omit [Transport τ ω] [Link σ ω] in
theorem follows_empty : (Pool.empty : Pool capacity τ σ ω).Follows motive handle [] where
  radio _ hslot := nomatch (slot?_empty _).symm.trans hslot
  vacant _ := rfl
  unused _ := slot?_empty _

/-- It is enough that it holds of a new radio and is kept by a turn. -/
theorem follows_invariant
    (hstart : ∀ {settings : Settings} {period : Period} {link : σ} {radio : Radio τ σ ω},
      Possible (Radio.start settings period link) radio → motive [] radio)
    (hturn : ∀ {entries : List (Entry ω)} {radio after : Radio τ σ ω} {turn : Turn ω}
      {calls : List (Call ω)} {wish : Bool}, motive entries radio →
      radio.Turned turn calls wish after →
      motive (entries ++ [⟨handle, turn, wish, calls⟩]) after) :
    Invariant fun entries (pool : Pool capacity τ σ ω) => pool.Follows motive handle entries where
  insert {entries pool _ _ _ new} h hbuilt := by
    have hslot := pool.slot?_insert new handle.index
    by_cases hnext : pool.allocated = handle.index ∧ handle.index < capacity
    · have hnone := h.vacant (h.unused (Nat.le_of_eq hnext.1))
      rw [if_pos hnext] at hslot
      refine ⟨fun radio hfound => ?_, fun hempty => ?_, fun hle => ?_⟩
      · cases hslot.symm.trans hfound
        rw [hnone]
        exact hstart hbuilt
      · exact nomatch hslot.symm.trans hempty
      · rw [allocated_insert, if_pos (by omega)] at hle
        omega
    · rw [if_neg hnext] at hslot
      refine ⟨fun radio hfound => h.radio radio (hslot ▸ hfound),
        fun hempty => h.vacant (hslot ▸ hempty), fun hle => hslot ▸ h.unused ?_⟩
      rw [allocated_insert] at hle
      split at hle
      · omega
      · exact hle
  turn {entries pool asked old} turn world h hradio := by
    have hturned := Scene.turned ⟨old, world⟩ turn
    have hslot := slot?_update hradio (old.turn turn world).1.2 handle.index
    have hentries := entriesOf_append handle entries
      [⟨asked, turn, (old.turn turn world).1.1, Scene.calls ⟨old, world⟩ [turn]⟩]
    rw [entriesOf_singleton] at hentries
    by_cases hsame : asked = handle
    · subst hsame
      rw [if_pos rfl] at hslot
      rw [if_pos rfl] at hentries
      refine ⟨fun radio hfound => ?_, fun hempty => ?_, fun hle => ?_⟩
      · cases hslot.symm.trans hfound
        rw [hentries]
        exact hturn (h.radio old (radio?_eq_some_iff.1 hradio).1) hturned
      · exact nomatch hslot.symm.trans hempty
      · exact nomatch (h.unused hle).symm.trans (radio?_eq_some_iff.1 hradio).1
    · -- The turn of another radio.
      rw [if_neg fun heq => hsame (Handle.index_inj heq)] at hslot
      rw [if_neg hsame, List.append_nil] at hentries
      refine ⟨fun radio hfound => ?_, fun hempty => ?_, fun hle => ?_⟩
      · rw [hentries]
        exact h.radio radio (hslot ▸ hfound)
      · rw [hentries]
        exact h.vacant (hslot ▸ hempty)
      · rw [hslot]
        exact h.unused hle

end Pool

/-- Some calls are all that a radio ever made. -/
inductive Radio.Lived : List (Call ω) → Radio τ σ ω → Prop where
  | started {settings : Settings} {period : Period} {link : σ} {radio : Radio τ σ ω}
      (hstart : Possible (Radio.start (ω := ω) settings period link) radio) : Lived [] radio
  | turned {calls more : List (Call ω)} {radio after : Radio τ σ ω} {turn : Turn ω} {wish : Bool}
      (hlived : Lived calls radio) (hturned : radio.Turned turn more wish after) :
      Lived (calls ++ more) after

/-- The entries so far are about all that the radios of a pool ever did. -/
structure Pool.Attested (entries : List (Entry ω)) (pool : Pool capacity τ σ ω) : Prop where
  lived (handle : Handle) (radio : Radio τ σ ω) :
    pool.slot? handle.index = some radio → radio.Lived (callsOf handle entries)
  -- The slots that have not been filled yet.
  vacant (handle : Handle) : pool.allocated ≤ handle.index →
    pool.slot? handle.index = none ∧ callsOf handle entries = []

namespace Pool

variable {pool : Pool capacity τ σ ω} {entries : List (Entry ω)}

theorem attested_empty : (Pool.empty : Pool capacity τ σ ω).Attested [] := by
  refine ⟨fun handle radio hslot => ?_, fun handle _ => ⟨slot?_empty _, rfl⟩⟩
  exact nomatch (slot?_empty _).symm.trans hslot

/-- A radio that goes into a pool has made no calls, and neither has anybody
    under its handle. -/
theorem Attested.insert (h : pool.Attested entries) {settings : Settings} {period : Period}
    {link : σ} {radio : Radio τ σ ω} (hstart : Possible (Radio.start settings period link) radio) :
    (pool.insert radio).2.Attested entries := by
  refine ⟨fun handle other hslot => ?_, fun handle hle => ?_⟩
  · rw [slot?_insert] at hslot
    split at hslot
    · rename_i hnext
      rw [(h.vacant handle (Nat.le_of_eq hnext.1)).2, ← Option.some.inj hslot]
      exact .started hstart
    · exact h.lived handle other hslot
  · rw [slot?_insert]
    rw [allocated_insert] at hle
    by_cases hroom : pool.allocated < capacity
    · rw [if_pos hroom] at hle
      rw [if_neg (by omega)]
      exact h.vacant handle (by omega)
    · rw [if_neg hroom] at hle
      rw [if_neg (by omega)]
      exact h.vacant handle hle

/-- A turn is entered for the radio that took it. -/
theorem Attested.turn (h : pool.Attested entries) {asked : Handle} {radio : Radio τ σ ω}
    (hradio : pool.radio? asked = some radio) (turn : Turn ω) (world : ω) :
    (pool.update asked (radio.turn turn world).1.2).Attested (entries ++
      [⟨asked, turn, (radio.turn turn world).1.1, Scene.calls ⟨radio, world⟩ [turn]⟩]) := by
  have hold := (radio?_eq_some_iff.1 hradio).1
  have hturned := Scene.turned ⟨radio, world⟩ turn
  -- The others neither changed nor were entered.
  have hother (handle : Handle) (hne : asked.index ≠ handle.index) (calls : List (Call ω)) :
      callsOf handle [⟨asked, turn, (radio.turn turn world).1.1, calls⟩] = [] := by
    rw [callsOf_singleton, if_neg fun heq => hne (congrArg Handle.index heq)]
  refine ⟨fun handle now hslot => ?_, fun handle hle => ?_⟩
  · rw [slot?_update hradio] at hslot
    rw [callsOf_append]
    split at hslot
    · rename_i hsame
      rw [← Option.some.inj hslot, ← Handle.index_inj hsame, callsOf_singleton, if_pos rfl]
      exact .turned (h.lived asked radio hold) hturned
    · rename_i hne
      rw [hother handle hne, List.append_nil]
      exact h.lived handle now hslot
  · have hne : asked.index ≠ handle.index := fun heq => by
      rw [← heq] at hle
      exact nomatch (h.vacant asked hle).1.symm.trans hold
    rw [slot?_update hradio, if_neg hne, callsOf_append, hother handle hne, List.append_nil]
    exact h.vacant handle hle

theorem attested_invariant :
    Invariant fun entries (pool : Pool capacity τ σ ω) => pool.Attested entries where
  insert h hstart := h.insert hstart
  turn turn world h hradio := h.turn hradio turn world

end Pool

namespace Station

variable {station : Station tables capacity τ σ ω} {entries : List (Entry ω)}

theorem attested_execute (h : station.pool.Attested entries) (command : Command tables σ ω)
    (world : ω) :
    (leaving (station.execute command) world).1.pool.Attested
      (entries ++ (station.pool.errands (station.errands command) world).1.1) :=
  Pool.attested_invariant.execute h command world

/-- What is found under a handle after a run has done what the journal says. -/
theorem attested_run (h : station.pool.Attested entries) (commands : List (Command tables σ ω))
    (world : ω) :
    (leaving (station.run commands) world).1.pool.Attested
      (entries ++ station.journal commands world) :=
  Pool.attested_invariant.run h commands world

end Station

end

end PacketRadio
