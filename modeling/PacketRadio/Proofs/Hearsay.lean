import PacketRadio.Proofs.Journal

/-!
# Hearsay

What a source says about a yield is not heard.

A source is shown a flag like a sink is, and may raise it as well. The radio shows it
a flag of its own, which is lowered, and forgets how the source has left it. So a
source may say what it likes. Its `Hearsay` is put in its mouth: whatever it did with
the buffer and the world it still does, only what it says about a yield is replaced,
and with it nothing changes.

That nothing changes is said by equations of programs. Each of them is about one
operation of a radio, a pool or a station whose sources say something else, and says
that it is the operation on the old one, except that the sources of what it leaves
behind say something else as well. The equations are proved in the order in which the
operations call each other, and only subscribers and commands need an induction.

## Main definitions

* `Hearsay`: What sources say about a yield.
* `Binding.saying`: A source that says something else.
* `Radio.saying`, `Pool.saying`, `Station.saying`: The same for all sources there are.
* `Radio.Request.saying`, `Command.saying`: And for those that are brought.

## Theorems

* `Radio.perform_saying`, `Radio.tick_saying`: What a radio does.
* `Station.tellAll_saying`: Subscribers, one after another.
* `Station.run_saying`: No command has another answer, whatever sources say.
-/

namespace PacketRadio

variable {tables capacity : Nat} {τ σ ω α : Type}

/-- What sources say about a yield, given what they are asked and when. -/
abbrev Hearsay (ω : Type) := Binding (Source ω) → List UInt8 → ω → Bool

/-- A source that does what it did, and says something else about a yield. -/
def Binding.saying (say : Hearsay ω) (source : Binding (Source ω)) : Binding (Source ω) where
  callback context buffer before world :=
    let ((fill, _), left) := source.callback context buffer before world
    ((fill, say source buffer world), left)
  context := source.context

namespace Radio

variable (say : Hearsay ω)

/-- The radio with a source that says something else. -/
def saying (radio : Radio τ σ ω) : Radio τ σ ω :=
  { radio with source := radio.source.map (Binding.saying say) }

/-- The request with a source that says something else, if it brings one. -/
def Request.saying : Request ω → Request ω
  | .bindSource source => .bindSource (source.saying say)
  | asked => asked

theorem inFlight_saying (radio : Radio τ σ ω) : (radio.saying say).inFlight = radio.inFlight := rfl

theorem settings_saying (radio : Radio τ σ ω) : (radio.saying say).settings = radio.settings := rfl

theorem countdown_saying (radio : Radio τ σ ω) :
    (radio.saying say).countdown = radio.countdown := rfl

theorem source_saying (radio : Radio τ σ ω) :
    (radio.saying say).source = radio.source.map (Binding.saying say) := rfl

variable [Transport τ ω]

theorem current_saying (radio : Radio τ σ ω) :
    (radio.saying say).current = Prod.map id (saying say) <$> radio.current := by
  unfold current
  rw [inFlight_saying]
  cases radio.inFlight with
  | some packet => rfl
  | none => rfl

variable [Link σ ω]

theorem settle_saying (radio : Radio τ σ ω) (packet : Packet) :
    (radio.saying say).settle packet = saying say <$> radio.settle packet := by
  unfold settle
  rw [settings_saying]
  split
  · rfl
  · rfl

theorem transmitReady_saying (radio : Radio τ σ ω) :
    (radio.saying say).transmitReady = saying say <$> radio.transmitReady := by
  unfold transmitReady
  rw [source_saying]
  cases radio.source with
  | none => rfl
  | some source =>
      simp only [Option.map_some, current_saying, bind_map_left, map_bind]
      refine bind_congr fun answer => ?_
      rcases answer with ⟨_ | packet, middle⟩
      · rfl
      · -- The source fills the packet as before, and the rest is not told what it said.
        simp only [Prod.map, id, settle_saying]
        rfl

theorem flush_saying (radio : Radio τ σ ω) :
    (radio.saying say).flush = saying say <$> radio.flush := by
  unfold flush
  rw [inFlight_saying]
  cases radio.inFlight with
  | some packet => rfl
  | none => rfl

theorem tick_saying (radio : Radio τ σ ω) :
    (radio.saying say).tick = Prod.map id (saying say) <$> radio.tick := by
  unfold tick
  rw [countdown_saying]
  simp only [map_bind]
  -- Until the deadline is looked at, nobody has asked for the source.
  refine bind_congr fun polled => bind_congr fun drained => ?_
  rcases radio.countdown.tick with ⟨expired, countdown⟩
  cases expired with
  | false => rfl
  | true =>
      have hflush := flush_saying say
        { radio with junction := drained.2.takeYield.2, countdown }
      exact congrArg (fun act => act >>= fun after => pure (drained.2.takeYield.1, after)) hflush

theorem perform_saying (radio : Radio τ σ ω) (asked : Request ω) :
    (radio.saying say).perform (asked.saying say) =
      Prod.map id (saying say) <$> radio.perform asked := by
  cases asked with
  | transmitReady available =>
      have hready := transmitReady_saying say radio
      exact congrArg (fun act => act >>= fun after => pure (false, after)) hready
  | bindReceiver sink => rfl
  | bindSource source => rfl
  | receiveReady available => rfl
  | setBaud rate => rfl
  | inbound packet => rfl

end Radio

namespace Pool

variable (say : Hearsay ω)

/-- The pool with sources that say something else. -/
def saying (pool : Pool capacity τ σ ω) : Pool capacity τ σ ω :=
  { pool with slots := pool.slots.map fun slot => slot.map (Radio.saying say) }

theorem radio?_saying (pool : Pool capacity τ σ ω) (handle : Handle) :
    (pool.saying say).radio? handle = (pool.radio? handle).map (Radio.saying say) := by
  unfold radio?
  have hslots : (pool.saying say).slots[handle.index]? =
      pool.slots[handle.index]?.map fun slot => slot.map (Radio.saying say) :=
    Vector.getElem?_map
  rw [hslots]
  rcases pool.slots[handle.index]? with _ | _ | radio
  · rfl
  · rfl
  · -- The radio is live or not, and what its source says does not matter to that.
    show Option.filter Radio.isLive (some (radio.saying say)) =
      (Option.filter Radio.isLive (some radio)).map (Radio.saying say)
    have hlive : (radio.saying say).isLive = radio.isLive := rfl
    rw [Option.filter_some, Option.filter_some, hlive]
    split <;> rfl

theorem update_saying (pool : Pool capacity τ σ ω) (handle : Handle) (radio : Radio τ σ ω) :
    (pool.saying say).update handle (radio.saying say) = (pool.update handle radio).saying say := by
  unfold update saying
  rw [Vector.map_setIfInBounds]
  rfl

theorem insert_saying (pool : Pool capacity τ σ ω) (radio : Radio τ σ ω) :
    (pool.saying say).insert (radio.saying say) = Prod.map id (saying say) (pool.insert radio) := by
  unfold insert saying
  by_cases hroom : pool.allocated < capacity
  · rw [dif_pos hroom, dif_pos hroom]
    simp only [Prod.map, id, Vector.map_set, Option.map_some]
  · rw [dif_neg hroom, dif_neg hroom]
    rfl

section

variable [Transport τ ω]

theorem allocate_saying (pool : Pool capacity τ σ ω) (settings : Settings) (period : Period)
    (link : σ) :
    (pool.saying say).allocate settings period link =
      Prod.map id (saying say) <$> pool.allocate settings period link := by
  -- A radio that was just built has no source.
  have hbuilt : Radio.start settings period link =
      Radio.saying say <$> (Radio.start settings period link : StateM ω (Radio τ σ ω)) := rfl
  unfold allocate
  rw [hbuilt]
  simp only [bind_map_left, map_bind, map_pure, insert_saying]
  rfl

variable [Link σ ω]

theorem perform_saying (pool : Pool capacity τ σ ω) (handle : Handle) (asked : Radio.Request ω) :
    (pool.saying say).perform handle (asked.saying say) =
      Prod.map id (saying say) <$> pool.perform handle asked := by
  unfold perform
  rw [radio?_saying]
  cases pool.radio? handle with
  | none => rfl
  | some radio =>
      simp only [Option.map_some, Radio.perform_saying, bind_map_left, map_bind, map_pure,
        Prod.map, id, update_saying]

theorem tick_saying (pool : Pool capacity τ σ ω) (context : UInt32) :
    (pool.saying say).tick context = Prod.map id (saying say) <$> pool.tick context := by
  unfold tick
  rw [radio?_saying]
  cases pool.radio? ⟨context⟩ with
  | none => rfl
  | some radio =>
      simp only [Option.map_some, Radio.tick_saying, bind_map_left, map_bind, map_pure,
        Prod.map, id, update_saying]

end

end Pool

namespace Station

variable (say : Hearsay ω)

/-- The station with sources that say something else. -/
def saying (station : Station tables capacity τ σ ω) : Station tables capacity τ σ ω :=
  { station with pool := station.pool.saying say }

theorem subscribe_saying (station : Station tables capacity τ σ ω) (timer : Fin tables)
    (subscriber : Subscriber ω) (context : UInt32) :
    (station.saying say).subscribe timer subscriber context =
      (station.subscribe timer subscriber context).map (saying say) := by
  unfold subscribe
  have htable : (station.saying say).table timer = station.table timer := rfl
  rw [htable]
  cases (station.table timer).register subscriber context with
  | error failure => rfl
  | ok table => rfl

variable [Transport τ ω]

theorem start_saying (station : Station tables capacity τ σ ω) (timer : Fin tables)
    (settings : Settings) (link : σ) :
    (station.saying say).start timer settings link =
      Prod.map id (saying say) <$> station.start timer settings link := by
  unfold start
  have hpool : (station.saying say).pool = station.pool.saying say := rfl
  have htable : (station.saying say).table timer = station.table timer := rfl
  rw [hpool, htable, Pool.allocate_saying]
  simp only [bind_map_left, map_bind]
  refine bind_congr fun answer => ?_
  rcases answer with ⟨failure | handle, pool⟩
  · rfl
  · have hsubscribe := subscribe_saying say { station with pool } timer .pool handle.raw
    have hafter : { station.saying say with pool := pool.saying say } =
      ({ station with pool } : Station tables capacity τ σ ω).saying say := rfl
    simp only [Prod.map, id, hafter, hsubscribe]
    cases subscribe { station with pool } timer .pool handle.raw with
    | error failure => rfl
    | ok after => rfl

variable [Link σ ω]

theorem notify_saying (subscriber : Subscriber ω) (context : UInt32) (pool : Pool capacity τ σ ω) :
    notify subscriber context (pool.saying say) =
      Prod.map id (Pool.saying say) <$> notify subscriber context pool := by
  cases subscriber with
  | pool => exact pool.tick_saying say context
  | other handler => rfl

/-- Subscribers are told one after another, whatever sources say. -/
theorem tellAll_saying (subscriptions : List (Subscription (Subscriber ω))) (wish : Bool)
    (pool : Pool capacity τ σ ω) :
    let tell := fun (yield : Bool) (subscription : Subscription (Subscriber ω)) => (do
      let wish ← notify subscription.handler subscription.context
      return yield || wish : StateT (Pool capacity τ σ ω) (StateM ω) Bool)
    subscriptions.foldlM tell wish (pool.saying say) =
      Prod.map id (Pool.saying say) <$> subscriptions.foldlM tell wish pool := by
  intro tell
  induction subscriptions generalizing wish pool with
  | nil => rfl
  | cons subscription rest ih =>
      have hstep (pool : Pool capacity τ σ ω) :
          (subscription :: rest).foldlM tell wish pool =
            notify subscription.handler subscription.context pool >>= fun answer =>
              rest.foldlM tell (wish || answer.1) answer.2 := rfl
      -- The first one is told, and the others are told of the pool that it leaves.
      rw [hstep, hstep, notify_saying]
      simp only [bind_map_left, map_bind]
      exact bind_congr fun answer => ih _ _

theorem fire_saying (station : Station tables capacity τ σ ω) (timer : Fin tables) :
    (station.saying say).fire timer = Prod.map id (saying say) <$> station.fire timer := by
  have hall := tellAll_saying say (station.table timer).subscriptions false station.pool
  exact congrArg (fun act => act >>= fun answer =>
    pure (answer.1, { station with pool := answer.2 })) hall

end Station

/-- The command with a source that says something else, if it brings one. -/
def Command.saying (say : Hearsay ω) : Command tables σ ω → Command tables σ ω
  | .request handle asked => .request handle (asked.saying say)
  | command => command

namespace Station

variable (say : Hearsay ω) [Transport τ ω] [Link σ ω]

theorem execute_saying (station : Station tables capacity τ σ ω) (command : Command tables σ ω) :
    (station.saying say).execute (command.saying say) =
      Prod.map id (saying say) <$> station.execute command := by
  have hpool : (station.saying say).pool = station.pool.saying say := rfl
  cases command with
  | start timer settings link =>
      simp only [execute, Command.saying, start_saying, bind_map_left, map_bind, map_pure,
        Prod.map, id]
  | request handle asked =>
      simp only [execute, Command.saying, hpool, Pool.perform_saying, bind_map_left, map_bind,
        map_pure, Prod.map, id]
      rfl
  | tick context =>
      simp only [execute, Command.saying, hpool, Pool.tick_saying, bind_map_left, map_bind,
        map_pure, Prod.map, id]
      rfl
  | subscribe timer subscriber context =>
      simp only [execute, Command.saying, subscribe_saying]
      cases station.subscribe timer subscriber context with
      | error failure => rfl
      | ok after => rfl
  | fire timer =>
      simp only [execute, Command.saying, fire_saying, bind_map_left, map_bind, map_pure,
        Prod.map, id]

/-- No command has another answer, whatever sources say about a yield, and nothing but
    that is different in the end. -/
theorem run_saying (station : Station tables capacity τ σ ω)
    (commands : List (Command tables σ ω)) :
    (station.saying say).run (commands.map (Command.saying say)) =
      Prod.map id (saying say) <$> station.run commands := by
  induction commands generalizing station with
  | nil => rfl
  | cons command rest ih =>
      simp only [List.map_cons, run, execute_saying, ih, bind_map_left, map_bind, map_pure,
        Prod.map, id]

omit [Transport τ ω] [Link σ ω] in
/-- Where there is no radio, there is no source either. -/
theorem saying_ofTimers (timers : Vector (TickTable (Subscriber ω)) tables) :
    (ofTimers timers : Station tables capacity τ σ ω).saying say = ofTimers timers := by
  unfold ofTimers saying Pool.saying Pool.empty
  rw [Vector.map_replicate]
  rfl

end Station

end PacketRadio
