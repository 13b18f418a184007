import PacketRadio.Pool
import PacketRadio.TickTable

/-!
# Stations

A pool of radios together with the timers that drive it.

To start a radio is to build it into the pool and to subscribe the pool, under
the radio's handle, to the tick table of its timer. A full pool is noticed
before anything is subscribed. A full table is noticed when the radio already
has its slot, and as a radio without a timer must not run, that is fatal; the
slot stays taken all the same.

A tick table does not know radios. Its subscribers are the pool, which passes
a tick on to the radio its context names, and whoever else was subscribed.

Everything that can happen to a station is a `Command`, and a history of it is
a list of commands. A command that fails, even fatally, leaves a station
behind on which the next one can be carried out.

## Main definitions

* `Subscriber`: Who can be told about ticks.
* `Station`: The pool and the tick tables.
* `Station.table`, `Station.withTable`: The table of one timer, and a station
  with another table for it.
* `Station.start`: Starting a radio on a timer.
* `Station.fire`: One tick of a timer.
* `Command`, `Station.execute`, `Station.run`: Everything that can happen, one
  at a time and one after another.

## Theorems

* `Station.table_withTable`: To change one table leaves the others.
* `Station.run_append`: A history is carried out part after part.
-/

namespace PacketRadio

/-- Somebody who is told about ticks. -/
inductive Subscriber (ω : Type) where
  /-- The pool, for the radio that the context names. -/
  | pool
  /-- Somebody else, who answers whether to yield. -/
  | other (handler : UInt32 → StateM ω Bool)

/-- A pool of radios and a number of timers. -/
structure Station (tables capacity : Nat) (τ σ ω : Type) where
  pool : Pool capacity τ σ ω
  /-- What each timer drives. -/
  timers : Vector (TickTable (Subscriber ω)) tables

namespace Station

variable {tables capacity : Nat} {τ σ ω : Type}

/-- A station without radios. -/
def ofTimers (timers : Vector (TickTable (Subscriber ω)) tables) :
    Station tables capacity τ σ ω :=
  ⟨Pool.empty, timers⟩

/-- What a timer drives. -/
def table (station : Station tables capacity τ σ ω) (timer : Fin tables) :
    TickTable (Subscriber ω) :=
  station.timers.get timer

@[simp] theorem table_ofTimers (timers : Vector (TickTable (Subscriber ω)) tables)
    (timer : Fin tables) :
    (ofTimers timers : Station tables capacity τ σ ω).table timer = timers.get timer := rfl

/-- The station with another table for a timer. -/
def withTable (station : Station tables capacity τ σ ω) (timer : Fin tables)
    (table : TickTable (Subscriber ω)) : Station tables capacity τ σ ω :=
  { station with timers := station.timers.set timer table }

theorem table_withTable (station : Station tables capacity τ σ ω) (timer other : Fin tables)
    (table : TickTable (Subscriber ω)) :
    (station.withTable timer table).table other =
      if timer = other then table else station.table other := by
  show (station.timers.set timer table)[other.val] = if _ then _ else station.timers[other.val]
  rw [Vector.getElem_set]
  simp only [Fin.ext_iff]

/-- Subscribe somebody to a timer. -/
def subscribe (station : Station tables capacity τ σ ω) (timer : Fin tables)
    (subscriber : Subscriber ω) (context : UInt32) :
    Except Failure (Station tables capacity τ σ ω) := do
  let table ← (station.table timer).register subscriber context
  return station.withTable timer table

/-- Start a radio on a timer. The answer is the handle under which the radio is
    reached. -/
def start [Transport τ ω] (station : Station tables capacity τ σ ω) (timer : Fin tables)
    (settings : Settings) (link : σ) :
    StateM ω (Except Failure Handle × Station tables capacity τ σ ω) := do
  let (allocated, pool) ← station.pool.allocate settings (station.table timer).period link
  -- From here on the radio has its slot, whatever the timer says.
  let station := { station with pool }
  match allocated with
  | .error failure => return (.error failure, station)
  | .ok handle =>
    match station.subscribe timer .pool handle.raw with
    | .error _ => return (.error (.subscriptionRefused handle), station)
    | .ok station => return (.ok handle, station)

/-- Tell one subscriber about a tick. -/
def notify [Transport τ ω] [Link σ ω] (subscriber : Subscriber ω) (context : UInt32) :
    StateT (Pool capacity τ σ ω) (StateM ω) Bool :=
  match subscriber with
  | .pool => fun pool => pool.tick context
  | .other handler => StateT.lift (handler context)

/-- One tick of a timer. The answer is whether anybody asked for a yield. -/
def fire [Transport τ ω] [Link σ ω] (station : Station tables capacity τ σ ω)
    (timer : Fin tables) : StateM ω (Bool × Station tables capacity τ σ ω) := do
  let (yield, pool) ← ((station.table timer).fire notify).run station.pool
  return (yield, { station with pool })

end Station

/-- Something that happens to a station. -/
inductive Command (tables : Nat) (σ ω : Type) where
  | start (timer : Fin tables) (settings : Settings) (link : σ)
  /-- Something is asked of the radio that a handle names. -/
  | request (handle : Handle) (request : Radio.Request ω)
  -- A tick reaches the pool from outside its timers.
  | tick (context : UInt32)
  | subscribe (timer : Fin tables) (subscriber : Subscriber ω) (context : UInt32)
  | fire (timer : Fin tables)

/-- The answer to a command that was carried out. -/
inductive Reply where
  | started (handle : Handle)
  /-- Whether a yield was asked for. -/
  | yield (wish : Bool)
  | subscribed
deriving DecidableEq

namespace Station

variable {tables capacity : Nat} {τ σ ω : Type}

/-- Carry out one command. -/
def execute [Transport τ ω] [Link σ ω] (station : Station tables capacity τ σ ω) :
    Command tables σ ω → StateM ω (Except Failure Reply × Station tables capacity τ σ ω)
  | .start timer settings link => do
    let (handle, station) ← station.start timer settings link
    return (handle.map .started, station)
  | .request handle request => do
    let (yield, pool) ← station.pool.perform handle request
    return (yield.map .yield, { station with pool })
  | .tick context => do
    let (yield, pool) ← station.pool.tick context
    return (.ok (.yield yield), { station with pool })
  | .subscribe timer subscriber context =>
    match station.subscribe timer subscriber context with
    | .error failure => pure (.error failure, station)
    | .ok station => pure (.ok .subscribed, station)
  | .fire timer => do
    let (yield, station) ← station.fire timer
    return (.ok (.yield yield), station)

/-- Carry out commands one after another. The answers come in their order. -/
def run [Transport τ ω] [Link σ ω] (station : Station tables capacity τ σ ω) :
    List (Command tables σ ω) →
      StateM ω (List (Except Failure Reply) × Station tables capacity τ σ ω)
  | [] => pure ([], station)
  | command :: rest => do
    let (answer, station) ← station.execute command
    let (answers, station) ← station.run rest
    return (answer :: answers, station)

theorem run_append [Transport τ ω] [Link σ ω] (station : Station tables capacity τ σ ω)
    (first second : List (Command tables σ ω)) :
    station.run (first ++ second) =
      (do
        let (answers, station) ← station.run first
        let (more, station) ← station.run second
        return (answers ++ more, station)) := by
  induction first generalizing station with
  | nil => rfl
  | cons command rest ih => simp only [List.cons_append, run, ih, bind_assoc, pure_bind]

end Station

end PacketRadio
