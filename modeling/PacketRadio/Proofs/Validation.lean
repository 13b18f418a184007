import PacketRadio.Proofs.Isolation
import PacketRadio.Proofs.Tenancy

/-!
# Handles That Name No Radio

What comes of a command under a handle that was made up.

A handle is checked before anything else is done, so a command that is given
under one that names no radio is as good as no command. It is answered, and
that is all: the station and the world are the same ones. This is said of the
command as a program, for any world. A world that keeps a record of calls is
one of them, and nothing is written down in it.

Which handles these are is known from `Pool.Houses`, whatever happened before,
failures that were fatal included: those whose slot has not been filled yet.

## Main definitions

* `Turn.refusal`: The answer to a turn that nobody takes.

## Theorems

* `Station.execute_of_gives`: A command for nobody is answered, and that is all.
* `Station.validation`: Exactly the handles of empty slots are refused, and
  without a trace.
-/

namespace PacketRadio

variable {tables capacity : Nat} {τ σ ω : Type}

/-- The answer to a turn that nobody takes. A request is fatal, and a tick asks
    for no yield. -/
def Turn.refusal (handle : Handle) : Turn ω → Except Failure Reply
  | .request _ => .error (.invalidHandle handle)
  | .tick => .ok (.yield false)

namespace Station

variable [Transport τ ω] [Link σ ω] {station : Station tables capacity τ σ ω} {handle : Handle}

theorem execute_of_gives {command : Command tables σ ω} {turn : Turn ω}
    (hgives : command.Gives handle turn) (hnone : station.pool.radio? handle = none) :
    station.execute command = pure (turn.refusal handle, station) := by
  cases hgives with
  | request request =>
      rw [execute, Pool.perform_of_radio?_eq_none hnone]
      rfl
  | tick =>
      rw [execute, Pool.tick_of_radio?_eq_none hnone]
      rfl

/-- The commands behind it are carried out as if it had not been there. -/
theorem run_of_refused {command : Command tables σ ω} {turn : Turn ω}
    (hgives : command.Gives handle turn) (hnone : station.pool.radio? handle = none)
    (later : List (Command tables σ ω)) :
    station.run (command :: later) =
      (do
        let (answers, last) ← station.run later
        return (turn.refusal handle :: answers, last)) := by
  rw [run, execute_of_gives hgives hnone, pure_bind]

/-- Nothing of it is found in the journal. -/
theorem journal_of_refused {command : Command tables σ ω} {turn : Turn ω}
    (hgives : command.Gives handle turn) (hnone : station.pool.radio? handle = none)
    (later : List (Command tables σ ω)) (world : ω) :
    station.journal (command :: later) world = station.journal later world := by
  have herrands : (station.pool.errands [Errand.turn handle turn] world).1.1 = [] := by
    rw [Pool.entries_cons, Pool.errand_of_radio?_eq_none hnone]
    rfl
  rw [journal, errands_of_gives station hgives, herrands, leaving, execute_of_gives hgives hnone]
  rfl

/-- A request is refused if the handle names no radio, and only then. -/
theorem execute_request_eq_error_iff (request : Radio.Request ω) (world : ω) :
    (station.execute (.request handle request) world).1.1 = .error (.invalidHandle handle) ↔
      station.pool.radio? handle = none := by
  cases hradio : station.pool.radio? handle with
  | none =>
      rw [execute_of_gives (.request request) hradio]
      exact ⟨fun _ => rfl, fun _ => rfl⟩
  | some radio =>
      rw [answer_of_gives (.request request) hradio]
      exact ⟨nofun, nofun⟩

/-- Exactly the handles of empty slots are refused, and without a trace.

    Whatever happened to a station, a request under a handle is answered that
    the handle is invalid, which is fatal, if and only if the slot it refers to
    has not been filled. These are also the handles about which nothing can be
    asked. A command under such a handle, be it a request or a tick, is answered
    in any world and leaves the station and the world as they are; a tick is
    answered that no yield is asked for, and so is one that comes from a timer.
    Commands that follow find no difference, and no radio takes a turn. -/
theorem validation (timers : Vector (TickTable (Subscriber ω)) tables)
    (commands : List (Command tables σ ω)) (world : ω) (handle : Handle) :
    let fresh : Station tables capacity τ σ ω := ofTimers timers
    let station := (fresh.run commands world).1.2
    let vacant := station.pool.allocated ≤ handle.index
    (∀ request world', (station.execute (.request handle request) world').1.1 =
        .error (.invalidHandle handle) ↔ vacant) ∧
      (Failure.invalidHandle handle).isFatal = true ∧
      (station.pool.countdown? handle = none ↔ vacant) ∧
      (station.pool.pendingLength? handle = none ↔ vacant) ∧
      (station.pool.inFlight? handle = none ↔ vacant) ∧
      (station.pool.settings? handle = none ↔ vacant) ∧
      (vacant →
        notify .pool handle.raw station.pool = pure (false, station.pool) ∧
        ∀ command turn, command.Gives handle turn →
          station.execute command = pure (turn.refusal handle, station) ∧
          ∀ later, station.run (command :: later) =
              (do
                let (answers, last) ← station.run later
                return (turn.refusal handle :: answers, last)) ∧
            station.journal (command :: later) = station.journal later) := by
  intro fresh station vacant
  have hempty : fresh.pool.Houses [] := Pool.houses_empty
  have hvacant : station.pool.radio? handle = none ↔ vacant :=
    (houses_run hempty commands world).radio?_eq_none_iff handle
  refine ⟨fun request world' => (execute_request_eq_error_iff request world').trans hvacant, rfl,
    Option.map_eq_none_iff.trans hvacant, Option.map_eq_none_iff.trans hvacant,
    Option.map_eq_none_iff.trans hvacant, Option.map_eq_none_iff.trans hvacant, fun hout => ?_⟩
  have hnone := hvacant.2 hout
  refine ⟨Pool.tick_of_radio?_eq_none hnone, fun command turn hgives => ?_⟩
  exact ⟨execute_of_gives hgives hnone, fun later => ⟨run_of_refused hgives hnone later,
    funext fun world' => journal_of_refused hgives hnone later world'⟩⟩

/-- A timer has refused the only radio, which keeps its slot. The pool has room
    for another, and a handle of that is as good as none. -/
theorem validation_of_empty_slot :
    let timers : Vector (TickTable (Subscriber Unit)) 1 := #v[.empty Period.standard 0]
    let fresh : Station 1 2 Immediate (SerialLink ScriptedChannel) Unit := ofTimers timers
    let commands : List (Command 1 (SerialLink ScriptedChannel) Unit) :=
      [.start 0 Settings.standard (.ofChannel ⟨[], []⟩)]
    let ended := fresh.run commands ()
    let station := ended.1.2
    ended.1.1 = [.error (.subscriptionRefused ⟨0⟩)] ∧
      station.pool.countdown? ⟨0⟩ ≠ none ∧ station.pool.countdown? ⟨1⟩ = none ∧
      (∀ request, station.execute (.request ⟨1⟩ request) =
        pure (.error (.invalidHandle ⟨1⟩), station)) ∧
      station.execute (.tick 1) = pure (.ok (.yield false), station) ∧
      ∀ request later, station.journal (.request ⟨1⟩ request :: later) = station.journal later := by
  intro timers fresh commands ended station
  have hanswer : ended.1.1 = [.error (.subscriptionRefused ⟨0⟩)] := by decide +kernel
  have hcount : station.pool.allocated = 1 := by decide +kernel
  -- What the commands are has been used, and would only be computed again.
  clear_value commands
  have hvacant : station.pool.allocated ≤ (⟨1⟩ : Handle).index := Nat.le_of_eq hcount
  have hfilled : ¬ station.pool.allocated ≤ (⟨0⟩ : Handle).index := by
    rw [hcount]
    decide
  rcases @validation 1 2 Immediate _ _ _ _ timers commands () ⟨0⟩ with
    ⟨-, -, hlive, -⟩
  rcases @validation 1 2 Immediate _ _ _ _ timers commands () ⟨1⟩ with
    ⟨-, -, hcountdown, -, -, -, hnothing⟩
  rcases hnothing hvacant with ⟨-, hcommand⟩
  exact ⟨hanswer, fun hnone => hfilled (hlive.1 hnone), hcountdown.2 hvacant,
    fun request => (hcommand _ _ (.request request)).1, (hcommand _ _ .tick).1,
    fun request later => ((hcommand _ _ (.request request)).2 later).2⟩

end Station

end PacketRadio
