import Mathlib.Algebra.Group.Nat.Defs
import PacketRadio.Proofs.Journal

/-!
# Rosters

Who is told when a timer ticks.

A tick table keeps contexts and does not know what they stand for. After a
number of radios were started, and nothing else was done, the subscriptions
are those of the pool, and a handle occurs in a table as often as a radio was
started on that timer under that handle. A handle is a word, so it is given
out again only when all words have been used up. Fewer radios than that are
told once each, by their own timers.

Subscriptions are made where a radio is started and where somebody is
subscribed, and only if that succeeds. A run in which neither does has the
same roster from beginning to end.

## Main definitions

* `Station.ticksFor`: How often a timer has the pool tell one radio.
* `Station.Pooled`: Nobody but the pool is told.
* `OnlyStarts`, `enrolls`: Commands that enroll radios, and answers that say so.
* `Command.timerOf?`, `timersOf`: The timers that a radio was started on.

## Theorems

* `Station.ticksFor_withTable`: One more subscription is one more tick.
* `Station.timers_start`: What starting a radio does to the timers.
* `Station.timers_execute`: Other commands leave the timers alone.
* `Station.ticksFor_run`: Radios are told where they were started.
* `Station.length_timersOf_le_one`: No handle is given out twice.
-/

namespace PacketRadio

variable {tables capacity : Nat} {τ σ ω : Type}

/-- The subscription gives a tick to the radio that a handle names. -/
def Subscription.isFor (handle : Handle) (subscription : Subscription (Subscriber ω)) : Bool :=
  match subscription.handler with
  | .pool => subscription.context = handle.raw
  | .other _ => false

theorem Subscription.isFor_pool (handle named : Handle) :
    Subscription.isFor handle (⟨.pool, named.raw⟩ : Subscription (Subscriber ω)) =
      decide (named = handle) := by
  show decide (named.raw = handle.raw) = decide (named = handle)
  rw [decide_eq_decide]
  exact ⟨fun h => congrArg Handle.mk h, fun h => congrArg Handle.raw h⟩

/-- Handles tell the slots apart of any pool that has no more slots than there are
    words. -/
theorem Handle.index_ofIndex {index : Nat} (h : index < 2 ^ 32) :
    (Handle.ofIndex index).index = index :=
  Nat.mod_eq_of_lt h

theorem count_toList_ite {chosen : Prop} [Decidable chosen] (timer other : Fin tables) :
    (if chosen then some timer else none).toList.count other =
      if chosen ∧ timer = other then 1 else 0 := by
  by_cases h : chosen
  · simp [h, List.count_singleton]
  · simp [h]

/-- The commands start radios, and do nothing else. -/
def OnlyStarts (commands : List (Command tables σ ω)) : Prop :=
  ∀ command ∈ commands, ∃ timer settings link, command = .start timer settings link

/-- The answer says that somebody was put on a roster. -/
def enrolls : Except Failure Reply → Bool
  | .ok (.started _) => true
  | .ok .subscribed => true
  | _ => false

/-- The timer on which a radio was started, if the command did that and was
    answered with this handle. -/
def Command.timerOf? (handle : Handle) :
    Command tables σ ω → Except Failure Reply → Option (Fin tables)
  | .start timer _ _, .ok (.started started) => if started = handle then some timer else none
  | _, _ => none

/-- The timers on which radios were started under a handle. -/
def timersOf (handle : Handle) (commands : List (Command tables σ ω))
    (answers : List (Except Failure Reply)) : List (Fin tables) :=
  (commands.zip answers).filterMap fun carried => carried.1.timerOf? handle carried.2

theorem timersOf_cons (handle : Handle) (command : Command tables σ ω)
    (commands : List (Command tables σ ω)) (answer : Except Failure Reply)
    (answers : List (Except Failure Reply)) :
    timersOf handle (command :: commands) (answer :: answers) =
      (command.timerOf? handle answer).toList ++ timersOf handle commands answers := by
  rw [timersOf, List.zip_cons_cons, List.filterMap_cons]
  cases h : command.timerOf? handle answer with
  | none => rfl
  | some timer => rfl

/-- A start that failed started nothing. -/
theorem Command.timerOf?_of_failed (handle : Handle) (command : Command tables σ ω)
    {answer : Except Failure Reply} (h : ∀ reply, answer ≠ .ok reply) :
    command.timerOf? handle answer = none := by
  cases answer with
  | ok reply => exact absurd rfl (h reply)
  | error failure => cases command <;> rfl

namespace Station

/-- How often a radio is told when a timer ticks. -/
def ticksFor (station : Station tables capacity τ σ ω) (handle : Handle) (timer : Fin tables) :
    Nat :=
  (station.table timer).subscriptions.countP (Subscription.isFor handle)

/-- Nobody but the pool was subscribed to a timer. -/
def Pooled (station : Station tables capacity τ σ ω) : Prop :=
  ∀ timer : Fin tables, ∀ subscription ∈ (station.table timer).subscriptions,
    subscription.handler = .pool

variable {station : Station tables capacity τ σ ω}

theorem table_congr {after : Station tables capacity τ σ ω} (h : after.timers = station.timers)
    (timer : Fin tables) : after.table timer = station.table timer :=
  congrArg (fun timers => timers.get timer) h

theorem errands_eq_of_timers {after : Station tables capacity τ σ ω}
    (h : after.timers = station.timers) : after.errands = station.errands := by
  funext command
  cases command with
  | fire timer => rw [errands, errands, table_congr h]
  | _ => rfl

/-- One more subscription is one more tick for the radio it is for. -/
theorem ticksFor_withTable {timer : Fin tables} {table : TickTable (Subscriber ω)}
    {subscription : Subscription (Subscriber ω)}
    (h : table.subscriptions = (station.table timer).subscriptions ++ [subscription])
    (handle : Handle) (other : Fin tables) :
    (station.withTable timer table).ticksFor handle other =
      station.ticksFor handle other +
        if subscription.isFor handle ∧ timer = other then 1 else 0 := by
  rw [ticksFor, table_withTable]
  by_cases htimer : timer = other
  · rw [if_pos htimer, h, List.countP_append, List.countP_singleton, htimer, ticksFor]
    simp only [and_true]
  · rw [if_neg htimer, if_neg fun hboth => htimer hboth.2]
    rfl

theorem Pooled.of_timers {after : Station tables capacity τ σ ω} (h : station.Pooled)
    (htimers : after.timers = station.timers) : after.Pooled := by
  intro timer subscription hmem
  rw [table_congr htimers] at hmem
  exact h timer subscription hmem

/-- A timer sends the pool nowhere but to its radios. -/
theorem Pooled.handler_notMem (h : station.Pooled) (command : Command tables σ ω)
    (act : StateM ω Bool) : .handler act ∉ station.errands command := by
  intro hmem
  cases command with
  | start timer settings link => exact nomatch hmem
  | subscribe timer subscriber context => exact nomatch hmem
  | request asked request => exact nomatch List.mem_singleton.1 hmem
  | tick context => exact nomatch List.mem_singleton.1 hmem
  | fire timer =>
      rcases List.mem_map.1 hmem with ⟨subscription, hin, herrand⟩
      rw [Subscription.errand, h timer subscription hin] at herrand
      exact nomatch herrand

variable [Transport τ ω] [Link σ ω]

/-- To start a radio subscribes the pool to its timer, for the new handle, or it
    fails and subscribes nobody. -/
theorem timers_start (timer : Fin tables) (settings : Settings) (link : σ) (world : ω) :
    ((∀ reply, (station.execute (.start timer settings link) world).1.1 ≠ .ok reply) ∧
        (leaving (station.execute (.start timer settings link)) world).1.timers =
          station.timers) ∨
      ∃ table, station.pool.allocated < capacity ∧
        (station.execute (.start timer settings link) world).1.1 =
          .ok (.started (Handle.ofIndex station.pool.allocated)) ∧
        table.subscriptions = (station.table timer).subscriptions ++
          [⟨.pool, (Handle.ofIndex station.pool.allocated).raw⟩] ∧
        (leaving (station.execute (.start timer settings link)) world).1.timers =
          (station.withTable timer table).timers := by
  rcases station.started timer settings link world with ⟨answer, after, hexecute, hstarted⟩
  rw [leaving, hexecute]
  cases hstarted with
  | full | refused =>
      refine .inl ⟨fun reply hanswer => ?_, rfl⟩
      cases hanswer
  | @enrolled table hroom htable =>
      exact .inr ⟨table, hroom, rfl, TickTable.subscriptions_register htable, rfl⟩

/-- Who is subscribed changes only where somebody is enrolled. -/
theorem timers_execute {command : Command tables σ ω} {world : ω}
    (h : enrolls (station.execute command world).1.1 = false) :
    (leaving (station.execute command) world).1.timers = station.timers := by
  cases command with
  | request asked request => rfl
  | tick context => rfl
  | fire timer => rfl
  | subscribe timer subscriber context =>
      rcases station.subscribed timer subscriber context world with ⟨_, -, hexecute⟩ | hexecute
      · rw [hexecute] at h
        cases h
      · rw [leaving, hexecute]
  | start timer settings link =>
      rcases station.timers_start timer settings link world with ⟨-, hsame⟩ | ⟨_, -, hstarted, -⟩
      · exact hsame
      · rw [hstarted] at h
        cases h

theorem Pooled.start (h : station.Pooled) (timer : Fin tables) (settings : Settings) (link : σ)
    (world : ω) : (leaving (station.execute (.start timer settings link)) world).1.Pooled := by
  rcases station.timers_start timer settings link world with
    ⟨-, hsame⟩ | ⟨table, -, -, hsubscribed, hset⟩
  · exact h.of_timers hsame
  · intro other subscription hmem
    rw [table_congr hset, table_withTable] at hmem
    split at hmem
    · rw [hsubscribed] at hmem
      rcases List.mem_append.1 hmem with hold | hnew
      · exact h timer subscription hold
      · rw [List.mem_singleton.1 hnew]
    · exact h other subscription hmem

/-- A radio that is started will be told once more, by its own timer. -/
theorem ticksFor_start (timer : Fin tables) (settings : Settings) (link : σ) (world : ω)
    (handle : Handle) (other : Fin tables) :
    let command : Command tables σ ω := .start timer settings link
    (leaving (station.execute command) world).1.ticksFor handle other =
      station.ticksFor handle other +
        (command.timerOf? handle (station.execute command world).1.1).toList.count other := by
  intro command
  rcases station.timers_start timer settings link world with
    ⟨hfailed, hsame⟩ | ⟨table, -, hstarted, hsubscribed, hset⟩
  · rw [ticksFor, table_congr hsame, command.timerOf?_of_failed handle hfailed]
    rfl
  · have hnow : (leaving (station.execute command) world).1.ticksFor handle other =
        (station.withTable timer table).ticksFor handle other := by
      rw [ticksFor, table_congr hset, ticksFor]
    rw [hnow, ticksFor_withTable hsubscribed, hstarted, Command.timerOf?, count_toList_ite,
      Subscription.isFor_pool]
    simp only [decide_eq_true_eq]

/-- Radios are told where they were started. -/
theorem ticksFor_run {setup : List (Command tables σ ω)} (hsetup : OnlyStarts setup)
    (world : ω) (handle : Handle) (timer : Fin tables) :
    (leaving (station.run setup) world).1.ticksFor handle timer =
      station.ticksFor handle timer +
        (timersOf handle setup (station.run setup world).1.1).count timer := by
  induction setup generalizing station world with
  | nil => rfl
  | cons command rest ih =>
      rcases List.forall_mem_cons.1 hsetup with ⟨⟨started, settings, link, rfl⟩, hrest⟩
      have hfirst := station.ticksFor_start started settings link world handle timer
      rw [leaving_run_cons, ih hrest, hfirst, Nat.add_assoc, ← List.count_append, ← timersOf_cons]
      rfl

theorem timersOf_run_cons (handle : Handle) (command : Command tables σ ω)
    (rest : List (Command tables σ ω)) (world : ω) :
    timersOf handle (command :: rest) (station.run (command :: rest) world).1.1 =
      (command.timerOf? handle (station.execute command world).1.1).toList ++
        timersOf handle rest ((leaving (station.execute command) world).1.run rest
          (leaving (station.execute command) world).2).1.1 :=
  timersOf_cons handle command rest _ _

/-- The handle that a start hands out is that of the slot it fills. -/
theorem timerOf?_start (timer : Fin tables) (settings : Settings) (link : σ) (world : ω)
    (handle : Handle) :
    let command : Command tables σ ω := .start timer settings link
    let after := (leaving (station.execute command) world).1
    station.pool.allocated ≤ after.pool.allocated ∧
      after.pool.allocated ≤ station.pool.allocated + 1 ∧
      (command.timerOf? handle (station.execute command world).1.1 = none ∨
        handle = Handle.ofIndex station.pool.allocated ∧
          station.pool.allocated < after.pool.allocated) := by
  intro command after
  have hbuilt := congrArg Prod.fst (station.leaving_start timer settings link world)
  have hallocated : after.pool.allocated =
      if station.pool.allocated < capacity then station.pool.allocated + 1
        else station.pool.allocated :=
    (congrArg Pool.allocated hbuilt).trans (Pool.allocated_insert _)
  rw [hallocated]
  rcases station.timers_start timer settings link world with
    ⟨hfailed, -⟩ | ⟨table, hroom, hstarted, -⟩
  · rw [command.timerOf?_of_failed handle hfailed]
    exact ⟨by split <;> omega, by split <;> omega, .inl rfl⟩
  · rw [if_pos hroom, hstarted, Command.timerOf?]
    refine ⟨Nat.le_succ _, Nat.le_refl _, ?_⟩
    split
    · rename_i hhandle
      exact .inr ⟨hhandle.symm, Nat.lt_succ_self _⟩
    · exact .inl rfl

/-- A slot that was filled is not filled again, as long as there are words left. -/
theorem timersOf_eq_nil {setup : List (Command tables σ ω)} (hsetup : OnlyStarts setup)
    (hwords : station.pool.allocated + setup.length ≤ 2 ^ 32) {handle : Handle}
    (hhandle : handle.index < station.pool.allocated) (world : ω) :
    timersOf handle setup (station.run setup world).1.1 = [] := by
  induction setup generalizing station world with
  | nil => rfl
  | cons command rest ih =>
      rcases List.forall_mem_cons.1 hsetup with ⟨⟨timer, settings, link, rfl⟩, hrest⟩
      rw [List.length_cons] at hwords
      rcases station.timerOf?_start timer settings link world handle with
        ⟨hle, hsucc, hnone | ⟨hnext, -⟩⟩
      · rw [timersOf_run_cons, hnone, ih hrest (by omega) (by omega)]
        rfl
      · have hindex : handle.index = station.pool.allocated := by
          rw [hnext]
          exact Handle.index_ofIndex (by omega)
        omega

/-- No handle is given out twice, as long as there are words left. -/
theorem length_timersOf_le_one {setup : List (Command tables σ ω)} (hsetup : OnlyStarts setup)
    (hwords : station.pool.allocated + setup.length ≤ 2 ^ 32) (handle : Handle) (world : ω) :
    (timersOf handle setup (station.run setup world).1.1).length ≤ 1 := by
  induction setup generalizing station world with
  | nil => exact Nat.zero_le 1
  | cons command rest ih =>
      rcases List.forall_mem_cons.1 hsetup with ⟨⟨timer, settings, link, rfl⟩, hrest⟩
      rw [List.length_cons] at hwords
      rcases station.timerOf?_start timer settings link world handle with
        ⟨hle, hsucc, hnone | ⟨hnext, hlt⟩⟩
      · rw [timersOf_run_cons, hnone]
        exact ih hrest (by omega) _
      · have hindex : handle.index = station.pool.allocated := by
          rw [hnext]
          exact Handle.index_ofIndex (by omega)
        rw [timersOf_run_cons, timersOf_eq_nil hrest (by omega) (by omega), List.append_nil]
        exact Option.length_toList_le

theorem Pooled.run (h : station.Pooled) {setup : List (Command tables σ ω)}
    (hsetup : OnlyStarts setup) (world : ω) : (leaving (station.run setup) world).1.Pooled := by
  induction setup generalizing station world with
  | nil => exact h
  | cons command rest ih =>
      rcases List.forall_mem_cons.1 hsetup with ⟨⟨timer, settings, link, rfl⟩, hrest⟩
      rw [leaving_run_cons]
      exact ih (h.start timer settings link world) hrest _

end Station

end PacketRadio
