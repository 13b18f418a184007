import Mathlib.Data.List.Nodup
import PacketRadio.Proofs.Deadline
import PacketRadio.Proofs.Roster

/-!
# Tenancy

Who has a slot of a pool, and on what terms.

Slots are filled by starting radios and by nothing else, one slot for each
start until there are no more. What a radio was started with is its
`Charter`: its settings, and what its countdown is armed to. No turn changes
either of them, so the slots of a pool hold nothing but the charters of the
first starts, in their order (`Pool.Houses`). Everything there is to know about
handles follows, as a handle is valid if its slot is filled.

A radio whose timer refuses it keeps its slot, and the start has subscribed
nobody. Whether a timer ever tells that radio is another question: a tick table
keeps words, and somebody may have subscribed the pool under the same word
before the handle was given out (`directs`). Such a subscription comes to life
with the radio. There is no other way, since a handle that has not been given
out occurs in no table otherwise.

## Main definitions

* `Charter`, `Radio.charter`: What a radio was started with.
* `Command.charter?`, `charters`: The charters that are asked for.
* `Pool.Houses`: The slots of a pool are filled by charters, in their order.
* `named?`: The handle of a slot that an answer says was filled.
* `Command.direct?`, `directs`: The timers on which the pool was subscribed for a
  handle, and not by a start.

## Theorems

* `Station.houses_run`: After any run a pool houses the charters that were asked
  for.
* `Station.named_run`: Slots are named in their order.
* `Station.ticksFor_run_eq`: Why a timer tells a radio.
* `Station.ticksFor_run_of_unissued`: How a timer can tell a radio that has not
  been started.
* `Station.tenancy`: Who has a slot, and on what terms.
-/

namespace PacketRadio

variable {tables capacity : Nat} {τ σ ω : Type}

/-- What a radio is given for good when it is started. -/
structure Charter where
  settings : Settings
  /-- What its countdown is armed to. -/
  reload : UInt32
deriving DecidableEq

namespace Radio

/-- What a radio goes by. -/
def charter (radio : Radio τ σ ω) : Charter := ⟨radio.settings, radio.countdown.reload⟩

variable [Transport τ ω]

theorem charter_start (settings : Settings) (period : Period) (link : σ) (world : ω) :
    (Scene.start settings period link world : Scene τ σ ω).radio.charter =
      ⟨settings, settings.flushTicks period⟩ := by
  unfold charter
  rw [Scene.reload_start]
  rfl

theorem isLive_start (settings : Settings) (period : Period) (link : σ) (world : ω) :
    (Scene.start settings period link world : Scene τ σ ω).radio.isLive = true :=
  decide_eq_true rfl

variable [Link σ ω] {radio after : Radio τ σ ω} {turn : Turn ω} {calls : List (Call ω)}
  {wish : Bool}

theorem HandedOver.tag_eq {packet : Packet} (h : radio.HandedOver packet calls after) :
    after.tag = radio.tag := by
  rcases h with ⟨_⟩
  rfl

theorem Turned.tag_eq (h : radio.Turned turn calls wish after) : after.tag = radio.tag := by
  cases h with
  | bindReceiver => rfl
  | bindSource => rfl
  | receiveReady => rfl
  | setBaud => rfl
  | inbound _ => rfl
  | transmitReady hfill =>
      cases hfill with
      | unsourced _ => rfl
      | unfetched _ _ => rfl
      | kept _ _ _ _ => rfl
      | sent _ _ _ _ hover => exact hover.tag_eq
  | tick htick =>
      cases htick with
      | waiting _ _ => rfl
      | empty _ _ _ => rfl
      | flushed _ _ _ hover => exact hover.tag_eq

/-- A turn leaves a radio usable, and on the same terms. -/
theorem Turned.charter_eq (h : radio.Turned turn calls wish after) :
    after.isLive = radio.isLive ∧ after.charter = radio.charter := by
  rcases h.unaltered with ⟨hreload, hsettings⟩
  unfold isLive charter
  rw [h.tag_eq, hreload, hsettings]
  exact ⟨rfl, rfl⟩

end Radio

/-- The charter that a command asks for, with the periods of these timers. -/
def Command.charter? (timers : Vector (TickTable (Subscriber ω)) tables) :
    Command tables σ ω → Option Charter
  | .start timer settings _ => some ⟨settings, settings.flushTicks (timers.get timer).period⟩
  | _ => none

/-- The charters that commands ask for, one for each start. -/
def charters (timers : Vector (TickTable (Subscriber ω)) tables)
    (commands : List (Command tables σ ω)) : List Charter :=
  commands.filterMap (Command.charter? timers)

theorem charters_cons (timers : Vector (TickTable (Subscriber ω)) tables)
    (command : Command tables σ ω) (rest : List (Command tables σ ω)) :
    charters timers (command :: rest) =
      (command.charter? timers).toList ++ charters timers rest := by
  rw [charters, List.filterMap_cons]
  cases command.charter? timers <;> rfl

namespace Pool

variable {pool : Pool capacity τ σ ω} {given : List Charter}

/-- The slots of a pool are filled by radios with these charters, in their
    order, as far as there are slots. -/
structure Houses (pool : Pool capacity τ σ ω) (given : List Charter) : Prop where
  allocated_eq : pool.allocated = min given.length capacity
  live (index : Nat) (radio : Radio τ σ ω) :
    pool.slot? index = some radio → radio.isLive = true
  -- A slot is empty where the charters end.
  charter_eq (index : Nat) :
    (pool.slot? index).map Radio.charter = (given.take capacity)[index]?

theorem houses_empty : (Pool.empty : Pool capacity τ σ ω).Houses [] := by
  refine ⟨(Nat.zero_min _).symm, fun index radio hslot => ?_, fun index => ?_⟩
  · rw [slot?_empty] at hslot
    cases hslot
  · rw [slot?_empty, List.take_nil]
    rfl

theorem Houses.insert (h : pool.Houses given) {radio : Radio τ σ ω} (hlive : radio.isLive = true) :
    (pool.insert radio).2.Houses (given ++ [radio.charter]) := by
  have hallocated := h.allocated_eq
  have hlength : (given ++ [radio.charter]).length = given.length + 1 := List.length_append
  refine ⟨?_, fun index held hheld => ?_, fun index => ?_⟩
  · rw [allocated_insert, hlength]
    split <;> omega
  · rw [slot?_insert] at hheld
    split at hheld
    · rw [← Option.some.inj hheld]
      exact hlive
    · exact h.live index held hheld
  · have hold := h.charter_eq index
    rw [List.getElem?_take] at hold
    rw [slot?_insert, List.getElem?_take]
    by_cases hin : index < capacity
    · rw [if_pos hin] at hold ⊢
      by_cases hnext : pool.allocated = index
      · -- The slot is the one after all that are filled.
        have hindex : index = given.length := by omega
        rw [if_pos ⟨hnext, hin⟩, hindex, List.getElem?_concat_length]
        rfl
      · rw [if_neg fun hboth => hnext hboth.1, hold]
        by_cases hfilled : index < given.length
        · rw [List.getElem?_append_left hfilled]
        · rw [List.getElem?_eq_none (by omega), List.getElem?_eq_none (by omega)]
    · rw [if_neg hin] at hold
      rw [if_neg hin, if_neg fun hboth => hin hboth.2, hold]

theorem Houses.radio?_eq (h : pool.Houses given) (handle : Handle) :
    pool.radio? handle = pool.slot? handle.index := by
  cases hslot : pool.slot? handle.index with
  | none => exact congrArg (Option.filter Radio.isLive) hslot
  | some radio => exact radio?_eq_some_iff.2 ⟨hslot, h.live _ radio hslot⟩

/-- A handle names a radio if and only if its slot was filled. -/
theorem Houses.radio?_eq_none_iff (h : pool.Houses given) (handle : Handle) :
    pool.radio? handle = none ↔ pool.allocated ≤ handle.index := by
  have hcharter := h.charter_eq handle.index
  rw [h.radio?_eq, ← Option.map_eq_none_iff, hcharter, List.getElem?_eq_none_iff,
    List.length_take, h.allocated_eq, Nat.min_comm]

theorem Houses.validates_iff (h : pool.Houses given) (handle : Handle) :
    pool.validates handle = true ↔ handle.index < pool.allocated := by
  unfold validates
  rw [Option.isSome_iff_ne_none, Ne, h.radio?_eq_none_iff, Nat.not_le]

/-- What is found under a handle has the charter of its slot. -/
theorem Houses.charter_ofIndex (h : pool.Houses given) (hwords : capacity ≤ 2 ^ 32) {index : Nat}
    (hindex : index < pool.allocated) :
    (pool.radio? (Handle.ofIndex index)).map Radio.charter = given[index]? := by
  have hallocated := h.allocated_eq
  have hslot := h.charter_eq index
  rw [List.getElem?_take, if_pos (by omega)] at hslot
  rw [h.radio?_eq, Handle.index_ofIndex (by omega), hslot]

theorem radio?_insert_next (hwords : capacity ≤ 2 ^ 32) (hroom : pool.allocated < capacity)
    {radio : Radio τ σ ω} (hlive : radio.isLive = true) :
    (pool.insert radio).2.radio? (Handle.ofIndex pool.allocated) = some radio := by
  refine radio?_eq_some_iff.2 ⟨?_, hlive⟩
  rw [Handle.index_ofIndex (by omega), slot?_insert, if_pos ⟨rfl, hroom⟩]

theorem radio?_insert_of_ne {handle : Handle} (h : handle ≠ Handle.ofIndex pool.allocated)
    (radio : Radio τ σ ω) : (pool.insert radio).2.radio? handle = pool.radio? handle := by
  have hslot : (pool.insert radio).2.slot? handle.index = pool.slot? handle.index := by
    rw [slot?_insert, if_neg]
    intro hnext
    rw [hnext.1] at h
    exact h (congrArg Handle.mk UInt32.ofNat_toNat).symm
  exact congrArg (Option.filter Radio.isLive) hslot

variable [Transport τ ω] [Link σ ω]

/-- A turn changes one slot, and nothing in it that a charter speaks of. -/
theorem Houses.errand (h : pool.Houses given) (errand : Errand ω) (world : ω) :
    (leaving (pool.errand errand) world).1.Houses given := by
  rcases pool.errand_cases errand world with hsame | ⟨asked, radio, turn, hradio, hupdate⟩
  · rw [hsame]
    exact h
  · rcases radio?_eq_some_iff.1 hradio with ⟨hslot, hlive⟩
    rcases (Scene.turned ⟨radio, world⟩ turn).charter_eq with ⟨hstill, hcharter⟩
    rw [hupdate]
    refine ⟨h.allocated_eq, fun index held hheld => ?_, fun index => ?_⟩
    · rw [slot?_update hradio] at hheld
      split at hheld
      · rw [← Option.some.inj hheld]
        exact hstill.trans hlive
      · exact h.live index held hheld
    · rw [slot?_update hradio, ← h.charter_eq index]
      split
      · rename_i hsame
        rw [← hsame, hslot]
        exact congrArg some hcharter
      · rfl

theorem Houses.errands (h : pool.Houses given) (errands : List (Errand ω)) (world : ω) :
    (leaving (pool.errands errands) world).1.Houses given :=
  errands_preserve (motive := fun after => after.Houses given)
    (fun _ errand world h => h.errand errand world) h errands world

theorem allocated_errands (errands : List (Errand ω)) (world : ω) :
    (leaving (pool.errands errands) world).1.allocated = pool.allocated := by
  refine errands_preserve (motive := fun after => after.allocated = pool.allocated)
    (fun before errand world h => ?_) rfl errands world
  rcases before.errand_cases errand world with hsame | ⟨_, _, _, -, hupdate⟩
  · rw [hsame, h]
  · rw [hupdate]
    exact h

end Pool

/-- The handle of a slot, if the answer says that a radio has got it. -/
def named? : Except Failure Reply → Option Handle
  | .ok (.started handle) => some handle
  | .error (.subscriptionRefused handle) => some handle
  | _ => none

/-- The timer on which the pool was subscribed for a handle, if the command did
    that directly and was successful. -/
def Command.direct? (handle : Handle) :
    Command tables σ ω → Except Failure Reply → Option (Fin tables)
  | .subscribe timer .pool context, .ok .subscribed =>
    if ⟨context⟩ = handle then some timer else none
  | _, _ => none

/-- The timers on which the pool was subscribed for a handle directly. -/
def directs (handle : Handle) (commands : List (Command tables σ ω))
    (answers : List (Except Failure Reply)) : List (Fin tables) :=
  (commands.zip answers).filterMap fun carried => carried.1.direct? handle carried.2

theorem directs_cons (handle : Handle) (command : Command tables σ ω)
    (commands : List (Command tables σ ω)) (answer : Except Failure Reply)
    (answers : List (Except Failure Reply)) :
    directs handle (command :: commands) (answer :: answers) =
      (command.direct? handle answer).toList ++ directs handle commands answers := by
  rw [directs, List.zip_cons_cons, List.filterMap_cons]
  cases h : command.direct? handle answer with
  | none => rfl
  | some timer => rfl

/-- The handles of slots are different, as long as there are words left. -/
theorem nodup_map_ofIndex {count : Nat} (h : count ≤ 2 ^ 32) :
    ((List.range count).map Handle.ofIndex).Nodup := by
  refine List.nodup_range.map_on fun first hfirst second hsecond heq => ?_
  have hindex := congrArg Handle.index heq
  rw [List.mem_range] at hfirst hsecond
  rw [Handle.index_ofIndex (by omega), Handle.index_ofIndex (by omega)] at hindex
  exact hindex

/-- A handle is named where it is handed out, and where its timer has refused it. -/
theorem count_named (handle : Handle) (answers : List (Except Failure Reply)) :
    (answers.filterMap named?).count handle =
      answers.count (.ok (.started handle)) +
        answers.count (.error (.subscriptionRefused handle)) := by
  induction answers with
  | nil => rfl
  | cons answer rest ih =>
      have hone : ([answer].filterMap named?).count handle =
          [answer].count (.ok (.started handle)) +
            [answer].count (.error (.subscriptionRefused handle)) := by
        cases answer with
        | ok reply => cases reply <;> simp [named?, List.filterMap_cons, List.count_singleton]
        | error failure =>
            cases failure <;> simp [named?, List.filterMap_cons, List.count_singleton]
      have hsplit : answer :: rest = [answer] ++ rest := rfl
      rw [hsplit, List.filterMap_append, List.count_append, List.count_append, List.count_append,
        hone, ih]
      omega

/-- A radio is started on a timer for every answer that hands its handle out. -/
theorem length_timersOf_le (handle : Handle) (commands : List (Command tables σ ω))
    (answers : List (Except Failure Reply)) :
    (timersOf handle commands answers).length ≤ answers.count (.ok (.started handle)) := by
  induction commands generalizing answers with
  | nil => exact Nat.zero_le _
  | cons command rest ih =>
      cases answers with
      | nil => exact Nat.le_refl 0
      | cons answer answers =>
          have hfirst : (command.timerOf? handle answer).toList.length ≤
              if answer == .ok (.started handle) then 1 else 0 := by
            by_cases hstarted : answer = .ok (.started handle)
            · rw [if_pos (beq_iff_eq.2 hstarted)]
              exact Option.length_toList_le
            · -- The handle was not handed out, so no timer is found.
              have hnone : command.timerOf? handle answer = none := by
                unfold Command.timerOf?
                split
                · rename_i named
                  exact if_neg fun hsame => hstarted (by rw [hsame])
                · rfl
              rw [hnone]
              exact Nat.zero_le _
          rw [timersOf_cons, List.length_append, List.count_cons]
          have hlater := ih answers
          omega

namespace Station

variable [Transport τ ω] [Link σ ω] {station : Station tables capacity τ σ ω}

/-- No command but a start asks for a charter, or fills a slot. -/
theorem execute_of_charter?_eq_none {command : Command tables σ ω}
    (h : command.charter? station.timers = none) (world : ω) :
    (leaving (station.execute command) world).1.pool =
      (leaving (station.pool.errands (station.errands command)) world).1 := by
  refine congrArg Prod.fst (station.leaving_execute (fun timer settings link heq => ?_) world)
  rw [heq] at h
  exact nomatch h

theorem houses_execute {given : List Charter} (h : station.pool.Houses given)
    (command : Command tables σ ω) (world : ω) :
    (leaving (station.execute command) world).1.pool.Houses
      (given ++ (command.charter? station.timers).toList) := by
  cases hcharter : command.charter? station.timers with
  | none =>
      rw [execute_of_charter?_eq_none hcharter, Option.toList_none, List.append_nil]
      exact h.errands _ world
  | some charter =>
      cases command with
      | start timer settings link =>
          have hnext := h.insert
            (Radio.isLive_start (τ := τ) settings (station.table timer).period link world)
          rw [Radio.charter_start, table, Option.some.inj hcharter] at hnext
          have hbuilt : (leaving (station.execute (.start timer settings link)) world).1.pool = _ :=
            congrArg Prod.fst (station.leaving_start timer settings link world)
          rw [hbuilt]
          exact hnext
      | _ => exact nomatch hcharter

/-- A timer keeps its period. -/
theorem period_execute (command : Command tables σ ω) (world : ω) (timer : Fin tables) :
    ((leaving (station.execute command) world).1.table timer).period =
      (station.table timer).period := by
  have hset {other : Fin tables} {table : TickTable (Subscriber ω)}
      (htable : table.period = (station.table other).period) :
      ((station.withTable other table).table timer).period = (station.table timer).period := by
    rw [table_withTable]
    split
    · rename_i hsame
      rw [htable, hsame]
    · rfl
  cases command with
  | request asked request => rfl
  | tick context => rfl
  | fire fired => rfl
  | subscribe subscribed subscriber context =>
      rcases station.subscribed subscribed subscriber context world with
        ⟨table, htable, hexecute⟩ | hexecute
      · rw [leaving, hexecute]
        exact hset (TickTable.period_register htable)
      · rw [leaving, hexecute]
  | start started settings link =>
      rcases station.started started settings link world with ⟨answer, after, hnext, hstarted⟩
      rw [leaving, hnext]
      cases hstarted with
      | full _ => rfl
      | refused _ _ => rfl
      | enrolled _ htable => exact hset (TickTable.period_register htable)

/-- So the charters that are asked for are known from the beginning. -/
theorem charter?_execute (command : Command tables σ ω) (world : ω) :
    Command.charter? (σ := σ) (leaving (station.execute command) world).1.timers =
      Command.charter? station.timers := by
  funext asked
  cases asked with
  | start timer settings link =>
      have hperiod := station.period_execute command world timer
      unfold table at hperiod
      rw [Command.charter?, Command.charter?, hperiod]
  | _ => rfl

/-- After any run a pool houses the charters that were asked for. -/
theorem houses_run {given : List Charter} (h : station.pool.Houses given)
    (commands : List (Command tables σ ω)) (world : ω) :
    (leaving (station.run commands) world).1.pool.Houses
      (given ++ charters station.timers commands) := by
  induction commands generalizing station given world with
  | nil => exact (List.append_nil given).symm ▸ h
  | cons command rest ih =>
      have hlast := ih (houses_execute h command world)
        (leaving (station.execute command) world).2
      rw [charters, charter?_execute] at hlast
      rw [leaving_run_cons, charters_cons, ← List.append_assoc]
      exact hlast

/-- An answer names the slot that was filled, if one was. -/
theorem named_execute (command : Command tables σ ω) (world : ω) :
    let answer := (station.execute command world).1.1
    let after := (leaving (station.execute command) world).1
    named? answer = none ∧ after.pool.allocated = station.pool.allocated ∨
      named? answer = some (Handle.ofIndex station.pool.allocated) ∧
        after.pool.allocated = station.pool.allocated + 1 := by
  intro answer after
  have hkept (h : command.charter? station.timers = none) :
      after.pool.allocated = station.pool.allocated := by
    rw [execute_of_charter?_eq_none h, Pool.allocated_errands]
  cases command with
  | request asked request =>
      refine .inl ⟨?_, hkept rfl⟩
      show named? (Except.map _ (station.pool.perform asked request world).1.1) = none
      rw [Pool.perform]
      cases station.pool.radio? asked <;> rfl
  | tick context => exact .inl ⟨rfl, hkept rfl⟩
  | fire timer => exact .inl ⟨rfl, hkept rfl⟩
  | subscribe timer subscriber context =>
      refine .inl ⟨?_, hkept rfl⟩
      show named? (station.execute (.subscribe timer subscriber context) world).1.1 = none
      rcases station.subscribed timer subscriber context world with ⟨_, -, hexecute⟩ | hexecute
      · rw [hexecute]
        rfl
      · rw [hexecute]
        rfl
  | start timer settings link =>
      have hinsert (radio : Radio τ σ ω) (hroom : station.pool.allocated < capacity) :
          (station.pool.insert radio).2.allocated = station.pool.allocated + 1 := by
        rw [Pool.allocated_insert, if_pos hroom]
      rcases station.started timer settings link world with ⟨_, _, hnext, hstarted⟩
      simp only [answer, after, leaving, hnext]
      cases hstarted with
      | full _ => exact .inl ⟨rfl, rfl⟩
      | refused hroom _ => exact .inr ⟨rfl, hinsert _ hroom⟩
      | enrolled hroom _ => exact .inr ⟨rfl, hinsert _ hroom⟩

/-- Slots are named in their order, each of them once. -/
theorem named_run (commands : List (Command tables σ ω)) (world : ω) :
    (List.range station.pool.allocated).map Handle.ofIndex ++
        (station.run commands world).1.1.filterMap named? =
      (List.range (leaving (station.run commands) world).1.pool.allocated).map
        Handle.ofIndex := by
  induction commands generalizing station world with
  | nil => exact List.append_nil _
  | cons command rest ih =>
      have hlater := @ih (leaving (station.execute command) world).1
        (leaving (station.execute command) world).2
      rw [leaving_run_cons, ← hlater]
      show _ ++ ((station.execute command world).1.1 :: _).filterMap named? = _
      rcases station.named_execute command world with ⟨hnone, hsame⟩ | ⟨hsome, hnext⟩
      · rw [List.filterMap_cons_none hnone, hsame]
        rfl
      · rw [List.filterMap_cons_some hsome, hnext, List.range_succ, List.map_append,
          List.append_assoc]
        rfl

theorem allocated_le (commands : List (Command tables σ ω)) (world : ω) :
    station.pool.allocated ≤ (leaving (station.run commands) world).1.pool.allocated := by
  have hlength := congrArg List.length (station.named_run commands world)
  simp only [List.length_append, List.length_map, List.length_range] at hlength
  omega

omit [Transport τ ω] [Link σ ω] in
/-- Who else is subscribed makes no difference to a radio, and neither does a
    subscription of the pool under another word. -/
theorem ticksFor_subscribe {timer : Fin tables} {subscriber : Subscriber ω} {context : UInt32}
    {table : TickTable (Subscriber ω)}
    (h : (station.table timer).register subscriber context = .ok table) (handle : Handle)
    (other : Fin tables) :
    (station.withTable timer table).ticksFor handle other = station.ticksFor handle other +
      ((Command.subscribe timer subscriber context : Command tables σ ω).direct? handle
        (.ok .subscribed)).toList.count other := by
  rw [ticksFor_withTable (TickTable.subscriptions_register h)]
  cases subscriber with
  | other handler => exact congrArg _ (if_neg fun hboth => nomatch hboth.1)
  | pool =>
      rw [Command.direct?, count_toList_ite,
        show Subscription.isFor handle ⟨.pool, context⟩ = _ from
          Subscription.isFor_pool handle ⟨context⟩]
      simp only [decide_eq_true_eq]

/-- A radio is told once more by the timer it is started on, and by one on which
    the pool is subscribed for it directly. -/
theorem ticksFor_execute (command : Command tables σ ω) (world : ω) (handle : Handle)
    (timer : Fin tables) :
    let next := station.execute command world
    next.1.2.ticksFor handle timer =
      station.ticksFor handle timer +
        ((command.timerOf? handle next.1.1).toList.count timer +
          (command.direct? handle next.1.1).toList.count timer) := by
  intro next
  cases command with
  | request named asked => rfl
  | tick context => rfl
  | fire fired => rfl
  | start started settings link =>
      have hstart := station.ticksFor_start started settings link world handle timer
      have hnone : (Command.start started settings link : Command tables σ ω).direct? handle
          next.1.1 = none := by
        cases next.1.1 <;> rfl
      rw [hnone, Option.toList_none, List.count_nil, Nat.add_zero]
      exact hstart
  | subscribe subscribed subscriber context =>
      have hnone (answer : Except Failure Reply) :
          (Command.subscribe subscribed subscriber context : Command tables σ ω).timerOf? handle
            answer = none := by
        cases subscriber <;> cases answer <;> rfl
      rw [hnone, Option.toList_none, List.count_nil, Nat.zero_add]
      rcases station.subscribed subscribed subscriber context world with
        ⟨table, htable, hexecute⟩ | hexecute
      · have hnext : next = ((.ok .subscribed, station.withTable subscribed table), world) :=
          hexecute
        rw [hnext]
        exact ticksFor_subscribe htable handle timer
      · have hnext : next = ((.error .tableFull, station), world) := hexecute
        rw [hnext]
        cases subscriber <;> rfl

/-- Why a timer tells a radio. -/
theorem ticksFor_run_eq (commands : List (Command tables σ ω)) (world : ω) (handle : Handle)
    (timer : Fin tables) :
    let ended := station.run commands world
    ended.1.2.ticksFor handle timer =
      station.ticksFor handle timer +
        ((timersOf handle commands ended.1.1).count timer +
          (directs handle commands ended.1.1).count timer) := by
  induction commands generalizing station world with
  | nil => rfl
  | cons command rest ih =>
      intro ended
      have hfirst := station.ticksFor_execute command world handle timer
      have hlater := @ih (station.execute command world).1.2 (station.execute command world).2
      have hsplit : ended.1.1 = (station.execute command world).1.1 ::
          ((station.execute command world).1.2.run rest (station.execute command world).2).1.1 :=
        rfl
      rw [hsplit, timersOf_cons, directs_cons, List.count_append, List.count_append]
      simp only [] at hfirst hlater
      show (((station.execute command world).1.2.run rest
        (station.execute command world).2).1.2).ticksFor handle timer = _
      omega

/-- A handle whose slot is still empty gets into a table by the hand of somebody
    who made it up, and in no other way. -/
theorem ticksFor_run_of_unissued {handle : Handle} {commands : List (Command tables σ ω)}
    {world : ω} (h : (leaving (station.run commands) world).1.pool.allocated ≤ handle.index)
    (timer : Fin tables) :
    (leaving (station.run commands) world).1.ticksFor handle timer =
      station.ticksFor handle timer +
        (directs handle commands (station.run commands world).1.1).count timer := by
  have hcount := station.ticksFor_run_eq commands world handle timer
  have hnamed := congrArg (List.count handle) (station.named_run commands world)
  have hunnamed : ((List.range (leaving (station.run commands) world).1.pool.allocated).map
      Handle.ofIndex).count handle = 0 := by
    refine List.count_eq_zero.2 fun hmem => ?_
    rcases List.mem_map.1 hmem with ⟨index, hindex, hhandle⟩
    rw [List.mem_range] at hindex
    have hword := handle.raw.toNat_lt
    have hsame : handle.index = index := by
      rw [← hhandle]
      refine Handle.index_ofIndex ?_
      unfold Handle.index at h
      omega
    omega
  rw [hunnamed, List.count_append, count_named] at hnamed
  have hstarted := length_timersOf_le handle commands (station.run commands world).1.1
  have hnone : timersOf handle commands (station.run commands world).1.1 = [] :=
    List.eq_nil_of_length_eq_zero (by omega)
  simp only [hnone, List.count_nil, Nat.zero_add] at hcount
  exact hcount

/-- Who has a slot, and on what terms.

    The number of slots that are filled is the number of starts so far, or the
    capacity if there were more. A handle is valid if and only if its slot is
    one of them, and it stays valid. The answers name the filled slots one
    after another, and no handle twice; what is found under each of them has
    the settings it was started with and a countdown that is armed for these
    and for the period of its timer.

    A start for which there is no slot says so and changes nothing. Any other
    start fills the next slot with the radio it has built and touches no other
    radio. If the timer has no room for it, then the start is fatal and names
    the handle, all timers are as they were, and a timer tells the radio no
    more often than the pool was subscribed under that handle directly. -/
theorem tenancy {timers : Vector (TickTable (Subscriber ω)) tables} (hwords : capacity ≤ 2 ^ 32)
    (htimers : ∀ timer : Fin tables, (timers.get timer).subscriptions = [])
    (commands : List (Command tables σ ω)) (world : ω) :
    let fresh : Station tables capacity τ σ ω := ofTimers timers
    let ended := fresh.run commands world
    let station := ended.1.2
    let pool := station.pool
    let named := ended.1.1.filterMap named?
    let given := charters timers commands
    pool.allocated = min given.length capacity ∧
      (∀ handle, pool.validates handle = true ↔ handle.index < pool.allocated) ∧
      (∀ later handle, pool.validates handle = true →
        (leaving (station.run later) ended.2).1.pool.validates handle = true) ∧
      named = (List.range pool.allocated).map Handle.ofIndex ∧ named.Nodup ∧
      (∀ index, index < pool.allocated →
        pool.settings? (Handle.ofIndex index) = given[index]?.map Charter.settings ∧
        (pool.countdown? (Handle.ofIndex index)).map Countdown.reload =
          given[index]?.map Charter.reload) ∧
      ∀ timer settings link,
        let next := station.execute (.start timer settings link) ended.2
        let handle := Handle.ofIndex pool.allocated
        let built : Scene τ σ ω := Scene.start settings (station.table timer).period link ended.2
        let full := (station.table timer).capacity ≤ (station.table timer).size
        (capacity ≤ pool.allocated → next.1 = (.error .outOfDevices, station)) ∧
        (pool.allocated < capacity →
          next.1.2.pool.radio? handle = some built.radio ∧
          (∀ other, other ≠ handle → next.1.2.pool.radio? other = pool.radio? other) ∧
          (¬ full → next.1.1 = .ok (.started handle)) ∧
          (full → next.1.1 = .error (.subscriptionRefused handle) ∧
            (Failure.subscriptionRefused handle).isFatal = true ∧
            next.1.2.timers = station.timers ∧
            ∀ other, next.1.2.ticksFor handle other =
              (directs handle commands ended.1.1).count other)) := by
  intro fresh ended station pool named given
  have hempty : fresh.pool.Houses [] := Pool.houses_empty
  have hhouses : pool.Houses given := houses_run hempty commands world
  have hallocated := hhouses.allocated_eq
  have hnamed : named = (List.range pool.allocated).map Handle.ofIndex :=
    fresh.named_run commands world
  have hdistinct : ((List.range pool.allocated).map Handle.ofIndex).Nodup :=
    nodup_map_ofIndex (by omega)
  refine ⟨hallocated, hhouses.validates_iff, fun later handle hvalid => ?_, hnamed,
    hnamed ▸ hdistinct, fun index hindex => ?_, fun timer settings link => ?_⟩
  · rw [hhouses.validates_iff] at hvalid
    rw [(houses_run hhouses later ended.2).validates_iff]
    exact Nat.lt_of_lt_of_le hvalid (station.allocated_le later ended.2)
  · rw [← hhouses.charter_ofIndex hwords hindex, Option.map_map, Option.map_map, Pool.countdown?,
      Option.map_map]
    exact ⟨rfl, rfl⟩
  · intro next handle built full
    have hlive : built.radio.isLive = true := Radio.isLive_start _ _ _ _
    have hunissued : pool.allocated < capacity → pool.allocated ≤ handle.index := fun hroom =>
      Nat.le_of_eq (Handle.index_ofIndex (by omega)).symm
    rcases station.started timer settings link ended.2 with ⟨answer, after, hnext, hstarted⟩
    have heq : next = ((answer, after), built.world) := hnext
    rw [heq]
    cases hstarted with
    | full hfull => exact ⟨fun _ => rfl, fun hroom => absurd hroom (Nat.not_lt.2 hfull)⟩
    | refused hroom htable =>
        refine ⟨fun hfull => absurd hroom (Nat.not_lt.2 hfull), fun _ =>
          ⟨Pool.radio?_insert_next hwords hroom hlive, fun other hother =>
            Pool.radio?_insert_of_ne hother _, fun hspare => absurd htable hspare, fun _ =>
            ⟨rfl, rfl, rfl, fun other => ?_⟩⟩⟩
        -- The start has left the timers alone, so the run alone counts.
        have hcount : station.ticksFor handle other =
            fresh.ticksFor handle other + (directs handle commands ended.1.1).count other :=
          ticksFor_run_of_unissued (hunissued hroom) other
        have hnone : fresh.ticksFor handle other = 0 := by
          rw [ticksFor, table_ofTimers, htimers]
          rfl
        rw [hnone, Nat.zero_add] at hcount
        exact hcount
    | enrolled hroom htable =>
        refine ⟨fun hfull => absurd hroom (Nat.not_lt.2 hfull), fun _ =>
          ⟨Pool.radio?_insert_next hwords hroom hlive, fun other hother =>
            Pool.radio?_insert_of_ne hother _, fun _ => rfl, fun hfull => ?_⟩⟩
        have hrefused := (TickTable.register_eq_error_iff _ .pool handle.raw).2 hfull
        rw [hrefused] at htable
        cases htable

/-- Two radios, of which a timer without room has refused the second, and a third
    that is refused by a timer which tells its handle. -/
theorem tenancy_refused_twice :
    let timers : Vector (TickTable (Subscriber Unit)) 2 :=
      #v[.empty Period.standard 2, .empty Period.standard 0]
    let fresh : Station 2 3 Immediate (SerialLink ScriptedChannel) Unit := ofTimers timers
    let link : SerialLink ScriptedChannel := .ofChannel ⟨[], []⟩
    let commands : List (Command 2 (SerialLink ScriptedChannel) Unit) :=
      [.start 0 ⟨16, 1, 1, 1, 0⟩ link, .start 1 ⟨32, 2, 1, 1, 1⟩ link,
        .request ⟨1⟩ (.transmitReady 16), .subscribe 0 .pool 2, .request ⟨2⟩ (.setBaud 9600)]
    let ended := fresh.run commands ()
    let station := ended.1.2
    let next := station.execute (.start 0 Settings.standard link) ended.2
    ended.1.1 = [.ok (.started ⟨0⟩), .error (.subscriptionRefused ⟨1⟩), .ok (.yield false),
        .ok .subscribed, .error (.invalidHandle ⟨2⟩)] ∧
      station.pool.allocated = 2 ∧
      ended.1.1.filterMap named? = [⟨0⟩, ⟨1⟩] ∧
      station.pool.validates ⟨1⟩ = true ∧
      station.pool.settings? ⟨1⟩ = some ⟨32, 2, 1, 1, 1⟩ ∧
      (station.pool.countdown? ⟨1⟩).map Countdown.reload = some 20 ∧
      next.1.1 = .error (.subscriptionRefused ⟨2⟩) ∧
      next.1.2.pool.radio? ⟨1⟩ = station.pool.radio? ⟨1⟩ ∧
      next.1.2.ticksFor ⟨2⟩ 0 = 1 ∧ next.1.2.ticksFor ⟨2⟩ 1 = 0 := by
  intro timers fresh link commands ended station next
  have hempty : ∀ timer : Fin 2, (timers.get timer).subscriptions = [] := by decide +kernel
  have hanswers : ended.1.1 = [.ok (.started ⟨0⟩), .error (.subscriptionRefused ⟨1⟩),
      .ok (.yield false), .ok .subscribed, .error (.invalidHandle ⟨2⟩)] := by
    decide +kernel
  have hgiven : charters timers commands =
      [⟨⟨16, 1, 1, 1, 0⟩, 10⟩, ⟨⟨32, 2, 1, 1, 1⟩, 20⟩] := by
    decide +kernel
  have hdirects : directs ⟨2⟩ commands ended.1.1 = [0] := by decide +kernel
  have htable : (station.table 0).capacity ≤ (station.table 0).size := by decide +kernel
  -- What the commands are has been used, and would only be computed again.
  clear_value commands
  rcases @tenancy 2 3 Immediate _ _ _ _ _ (by decide) hempty commands () with
    ⟨hallocated, hvalid, -, hnamed, -, hcharter, hstart⟩
  rw [hgiven] at hallocated
  have hcount : station.pool.allocated = 2 := hallocated
  have hhandle : Handle.ofIndex station.pool.allocated = ⟨2⟩ := congrArg Handle.ofIndex hcount
  have hsecond : Handle.ofIndex 1 = ⟨1⟩ := rfl
  rcases hcharter 1 (by rw [hcount]; decide) with ⟨hsettings, hreload⟩
  rw [hsecond, hgiven] at hsettings hreload
  rcases (hstart 0 Settings.standard link).2 (by rw [hcount]; decide) with
    ⟨-, hothers, -, hfull⟩
  rcases hfull htable with ⟨hrefused, -, -, htold⟩
  rw [hhandle] at hrefused hothers htold
  rw [hdirects] at htold
  exact ⟨hanswers, hcount, hnamed.trans (by rw [hcount]; rfl),
    (hvalid ⟨1⟩).2 (by rw [hcount]; decide), hsettings, hreload, hrefused,
    hothers ⟨1⟩ (by decide), htold 0, htold 1⟩

/-- A timer that has refused a radio tells it all the same, if the pool was
    subscribed under the word of its handle before. -/
theorem refused_yet_told :
    let timers : Vector (TickTable (Subscriber Unit)) 1 := #v[.empty Period.standard 1]
    let fresh : Station 1 1 Immediate (SerialLink ScriptedChannel) Unit := ofTimers timers
    let ended := fresh.run [.subscribe 0 .pool 0] ()
    let next := ended.1.2.execute (.start 0 Settings.standard (.ofChannel ⟨[], []⟩)) ended.2
    let fired := leaving (next.1.2.execute (.fire 0)) next.2
    next.1.1 = .error (.subscriptionRefused ⟨0⟩) ∧
      next.1.2.pool.validates ⟨0⟩ = true ∧
      next.1.2.ticksFor ⟨0⟩ 0 = 1 ∧
      (next.1.2.pool.countdown? ⟨0⟩).map Countdown.remaining = some 62 ∧
      (fired.1.pool.countdown? ⟨0⟩).map Countdown.remaining = some 61 := by
  decide +kernel

end Station

end PacketRadio
