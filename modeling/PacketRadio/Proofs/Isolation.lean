import PacketRadio.Proofs.Roster
import PacketRadio.Proofs.Territory

/-!
# Isolation

Radios of one station do not influence each other.

A radio of a station is served among others. Requests to it come between
requests to the others, a timer that ticks serves it in passing, and on the
way radios may be asked for that do not exist, or started where there is no
room. None of that is to make a difference. To say so, the run is compared
with one of the same station in which only the commands for that radio are
carried out, and of every firing only the ticks that are given to it. These
commands are what is `kept` of the run.

The two runs are seen to agree by way of their errands. The errands of the
kept commands are the errands of all commands that are for the radio, and
these are all that the radio can tell, if everybody keeps to a territory. As
territories serve the lines of a radio and the contexts of the callbacks it
was brought. They are taken from the end of the run, when it is known which
radios there are and what was bound to them; a radio stays on its lines, so
it was in its territory before.

## Main definitions

* `Station.kept`: What is kept of a run for one radio.
* `Station.Apart`, `Unshared`: Radios have lines and contexts to themselves.
* `Station.territory`: The lines of a radio, and its contexts.
* `Station.Orderly`: What a radio relies on while others are served.

## Theorems

* `Station.errands_kept`: The kept commands have the errands for the radio.
* `Station.Orderly.agrees_run`: All that a radio can tell of a run are its own
  errands.
* `Station.Orderly.run_kept`, `Station.Orderly.reply_of_gives`: The answers to what
  is kept of a run, and the answers in the run itself.
* `Station.isolated`: Radios of one station do not influence each other.
-/

namespace PacketRadio

variable {tables capacity : Nat} {ι ρ τ σ ω : Type}

/-- The command gives a turn to one radio, and that is all. -/
inductive Command.Gives (handle : Handle) : Command tables σ ω → Turn ω → Prop where
  | request (request : Radio.Request ω) : Gives handle (.request handle request) (.request request)
  | tick : Gives handle (.tick handle.raw) .tick

/-- The answer to a command that gave this turn. -/
def Entry.reply (entry : Entry ω) : Except Failure Reply := .ok (.yield entry.wish)

namespace Station

/-- What is kept of a command if only one radio is of interest: a request to it,
    a tick for it, and of a timer that ticks the ticks that it is given. -/
def kept (station : Station tables capacity τ σ ω) (handle : Handle) :
    Command tables σ ω → List (Command tables σ ω)
  | .start _ _ _ => []
  | .request asked request => if asked = handle then [.request asked request] else []
  | .tick context => if ⟨context⟩ = handle then [.tick context] else []
  | .subscribe _ _ _ => []
  | .fire timer => List.replicate (station.ticksFor handle timer) (.tick handle.raw)

end Station

theorem Subscription.errand_concerns (handle : Handle)
    (subscription : Subscription (Subscriber ω)) :
    subscription.errand.concerns handle = subscription.isFor handle := by
  rcases subscription with ⟨_ | handler, context⟩
  · exact (isFor_pool handle ⟨context⟩).symm
  · rfl

theorem Subscription.errand_of_isFor {handle : Handle}
    {subscription : Subscription (Subscriber ω)} (h : subscription.isFor handle = true) :
    subscription.errand = .turn handle .tick := by
  rcases subscription with ⟨_ | handler, context⟩
  · have hcontext : context = handle.raw := of_decide_eq_true h
    rw [hcontext]
    rfl
  · exact nomatch h

/-- The errands of a firing that are for one radio are ticks. -/
theorem errandsOf_fire (handle : Handle) (subscriptions : List (Subscription (Subscriber ω))) :
    errandsOf handle (subscriptions.map Subscription.errand) =
      List.replicate (subscriptions.countP (Subscription.isFor handle)) (.turn handle .tick) := by
  induction subscriptions with
  | nil => rfl
  | cons subscription rest ih =>
      rw [List.map_cons]
      by_cases h : subscription.isFor handle = true
      · rw [Subscription.errand_of_isFor h, errandsOf_own, ih, List.countP_cons_of_pos h,
          List.replicate_succ]
      · have hnot : ¬ subscription.errand.concerns handle = true := by
          rw [Subscription.errand_concerns]
          exact h
        rw [errandsOf, List.filter_cons_of_neg hnot, List.countP_cons_of_neg h]
        exact ih

namespace Station

variable {station : Station tables capacity τ σ ω}

/-- What is kept of a command takes the errands for that radio. -/
theorem errands_kept (handle : Handle) (command : Command tables σ ω) :
    (station.kept handle command).flatMap station.errands =
      errandsOf handle (station.errands command) := by
  cases command with
  | start timer settings link => rfl
  | subscribe timer subscriber context => rfl
  | request asked request =>
      rw [kept, errands]
      by_cases h : asked = handle
      · rw [if_pos h, h, errandsOf_own]
        rfl
      · rw [if_neg h, errandsOf_other h]
        rfl
  | tick context =>
      rw [kept, errands]
      by_cases h : (⟨context⟩ : Handle) = handle
      · rw [if_pos h, h, errandsOf_own, ← h]
        rfl
      · rw [if_neg h, errandsOf_other h]
        rfl
  | fire timer =>
      rw [kept, errands, errandsOf_fire, ticksFor, List.flatMap_replicate]
      exact List.flatten_replicate_singleton

/-- Only turns for that radio are kept. -/
theorem gives_of_mem_kept {handle : Handle} {command command' : Command tables σ ω}
    (h : command' ∈ station.kept handle command) : ∃ turn, command'.Gives handle turn := by
  cases command with
  | start timer settings link => exact nomatch h
  | subscribe timer subscriber context => exact nomatch h
  | request asked request =>
      rw [kept] at h
      split at h
      · rename_i hsame
        rw [List.mem_singleton.1 h, hsame]
        exact ⟨_, .request request⟩
      · exact nomatch h
  | tick context =>
      rw [kept] at h
      split at h
      · rename_i hsame
        rw [List.mem_singleton.1 h, ← hsame]
        exact ⟨_, .tick⟩
      · exact nomatch h
  | fire timer =>
      rw [(List.mem_replicate.1 h).2]
      exact ⟨_, .tick⟩

theorem errands_of_gives (station : Station tables capacity τ σ ω) {handle : Handle}
    {command : Command tables σ ω} {turn : Turn ω} (h : command.Gives handle turn) :
    station.errands command = [.turn handle turn] := by
  cases h with
  | request request => rfl
  | tick => rfl

/-- What is kept of a run takes the errands for that radio. -/
theorem errands_flatMap_kept (handle : Handle) (commands : List (Command tables σ ω)) :
    (commands.flatMap (station.kept handle)).flatMap station.errands =
      errandsOf handle (commands.flatMap station.errands) := by
  induction commands with
  | nil => rfl
  | cons command rest ih =>
      rw [List.flatMap_cons, List.flatMap_cons, List.flatMap_append, errandsOf_append, ih,
        errands_kept]

variable [Transport τ ω] [Link σ ω]

/-- A radio that is found answers for itself. -/
theorem answer_of_gives {handle : Handle} {command : Command tables σ ω} {turn : Turn ω}
    (h : command.Gives handle turn) {radio : Radio τ σ ω}
    (hradio : station.pool.radio? handle = some radio) (world : ω) :
    (station.execute command world).1.1 = .ok (.yield (radio.turn turn world).1.1) := by
  cases h with
  | request request =>
      rw [execute, Pool.perform, hradio]
      rfl
  | tick =>
      rw [execute, Pool.tick, hradio]
      rfl

/-- A turn that was given is entered, and answered with its entry. -/
theorem entry_of_gives {handle : Handle} {command : Command tables σ ω} {turn : Turn ω}
    (h : command.Gives handle turn) {radio : Radio τ σ ω}
    (hradio : station.pool.radio? handle = some radio) (world : ω) :
    ∃ entry, (station.pool.errands (station.errands command) world).1.1 = [entry] ∧
      entry.handle = handle ∧ entry.turn = turn ∧
      (station.execute command world).1.1 = entry.reply := by
  refine ⟨⟨handle, turn, (radio.turn turn world).1.1, Scene.calls ⟨radio, world⟩ [turn]⟩, ?_,
    rfl, rfl, answer_of_gives h hradio world⟩
  rw [errands_of_gives station h, Pool.entries_cons, Pool.entries_errand hradio]
  rfl

/-- Commands that do no more than give turns come down to their errands. -/
theorem run_of_gives (station : Station tables capacity τ σ ω) {handle : Handle}
    (commands : List (Command tables σ ω))
    (hgives : ∀ command ∈ commands, ∃ turn, command.Gives handle turn) (world : ω) :
    ((leaving (station.run commands) world).1.pool, (leaving (station.run commands) world).2) =
        leaving (station.pool.errands (commands.flatMap station.errands)) world ∧
      station.journal commands world =
        (station.pool.errands (commands.flatMap station.errands) world).1.1 := by
  induction commands generalizing station world with
  | nil => exact ⟨rfl, rfl⟩
  | cons command rest ih =>
      rcases List.forall_mem_cons.1 hgives with ⟨⟨turn, hturn⟩, hrest⟩
      have hstart : ∀ timer settings link, command ≠ .start timer settings link := by
        intro timer settings link hstart
        rw [hstart] at hturn
        exact nomatch hturn
      have hexecute := station.leaving_execute hstart world
      rcases hafter : leaving (station.execute command) world with ⟨after, world'⟩
      rw [hafter] at hexecute
      have hpool : after.pool = _ := congrArg Prod.fst hexecute
      have hworld : world' = _ := congrArg Prod.snd hexecute
      -- The rest has the same errands, whatever the first command left.
      have hsame : rest.flatMap after.errands = rest.flatMap station.errands := by
        rw [List.flatMap_def, List.flatMap_def, List.map_congr_left]
        intro next hnext
        rcases hrest next hnext with ⟨turn, hturn⟩
        rw [after.errands_of_gives hturn, station.errands_of_gives hturn]
      rcases ih after hrest world' with ⟨hrun, hjournal⟩
      rw [List.flatMap_cons, Pool.leaving_errands_append, Pool.entries_append, ← hpool, ← hworld,
        ← hsame, leaving_run_cons, journal, hafter]
      exact ⟨hrun, congrArg _ hjournal⟩

/-- The answers to such commands are those in the journal. -/
theorem answers_of_gives (layout : Layout ι ρ σ ω) (hsecluded : Transport.Secluded τ ω)
    {entries : List (Entry ω)} (hattested : station.pool.Attested entries) {handle : Handle}
    {radio : Radio τ σ ω} (hradio : station.pool.radio? handle = some radio)
    (commands : List (Command tables σ ω))
    (hgives : ∀ command ∈ commands, ∃ turn, command.Gives handle turn) (world : ω) :
    (station.run commands world).1.1 = (station.journal commands world).map Entry.reply := by
  induction commands generalizing station entries radio world with
  | nil => rfl
  | cons command rest ih =>
      rcases List.forall_mem_cons.1 hgives with ⟨⟨turn, hturn⟩, hrest⟩
      rcases retains_execute layout hsecluded hattested command world handle radio hradio with
        ⟨now, hnow, -⟩
      have hlater := ih (attested_execute hattested command world) hnow hrest
        (leaving (station.execute command) world).2
      rcases entry_of_gives hturn hradio world with ⟨entry, hentry, -, -, hanswer⟩
      show (station.execute command world).1.1 :: _ = _
      rw [journal_cons, List.map_append, hentry, ← hlater, hanswer]
      rfl

/-- A station in good order, and a handle under which one of its radios is
    found. -/
structure Orderly (layout : Layout ι ρ σ ω) (territory : Handle → Place ι → Prop) (handle : Handle)
    (station : Station tables capacity τ σ ω) : Prop where
  attested : ∃ entries, station.pool.Attested entries
  pooled : station.Pooled
  guarded : station.pool.Guarded layout territory
  found : ∃ radio, station.pool.radio? handle = some radio

variable {layout : Layout ι ρ σ ω} {territory : Handle → Place ι → Prop}
  (hsecluded : Transport.Secluded τ ω) {handle : Handle}

include hsecluded

/-- Order is kept by every command that enrolls nobody, though it may have tried. -/
theorem Orderly.execute (h : station.Orderly layout territory handle)
    {command : Command tables σ ω} {world : ω}
    (hanswer : enrolls (station.execute command world).1.1 = false)
    (hcovered : (leaving (station.execute command) world).1.pool.Covered layout territory)
    (hentries : ∀ entry ∈ (station.pool.errands (station.errands command) world).1.1,
      entry.Within layout territory) :
    (leaving (station.execute command) world).1.Orderly layout territory handle := by
  rcases h.attested with ⟨entries, hattested⟩
  rcases h.found with ⟨radio, hradio⟩
  rcases retains_execute layout hsecluded hattested command world handle radio hradio with
    ⟨now, hnow, -⟩
  have hpooled : (leaving (station.execute command) world).1.Pooled :=
    h.pooled.of_timers (timers_execute hanswer)
  exact ⟨⟨_, attested_execute hattested command world⟩, hpooled,
    guarded_execute hsecluded h.guarded command world hcovered hentries, now, hnow⟩

/-- What a command does is, for one radio, what its own errands do. -/
theorem Orderly.agrees_execute (h : station.Orderly layout territory handle)
    (hseparate : Separate territory) {pool' : Pool capacity τ σ ω} {world world' : ω}
    (hagrees : station.pool.Agrees layout territory handle pool' world world')
    (command : Command tables σ ω)
    (hentries : ∀ entry ∈ (station.pool.errands (station.errands command) world).1.1,
      entry.Within layout territory) :
    let own := errandsOf handle (station.errands command)
    (leaving (station.execute command) world).1.pool.Agrees layout territory handle
        (leaving (pool'.errands own) world').1 (leaving (station.execute command) world).2
        (leaving (pool'.errands own) world').2 ∧
      entriesOf handle (station.pool.errands (station.errands command) world).1.1 =
        (pool'.errands own world').1.1 := by
  intro own
  rcases h.attested with ⟨entries, hattested⟩
  rcases h.found with ⟨radio, hradio⟩
  rcases station.execute_cases command world with
    ⟨settings, period, link, hnone, hpool, hworld⟩ | ⟨hpool, hworld⟩
  · have hown : own = [] := by
      show errandsOf handle (station.errands command) = []
      rw [hnone]
      rfl
    rw [hown, hnone, hpool, hworld, hsecluded.world_start]
    refine ⟨⟨?_, hagrees.inside_eq⟩, rfl⟩
    rw [Pool.radio?_insert hattested hradio, ← hradio]
    exact hagrees.radio_eq
  · rw [hpool, hworld]
    exact hagrees.errands hsecluded hseparate _ (h.pooled.handler_notMem command) h.guarded hentries

/-- What a run does is, for one radio, what its own errands do. -/
theorem Orderly.agrees_run (h : station.Orderly layout territory handle)
    (hseparate : Separate territory) {pool' : Pool capacity τ σ ω} {world world' : ω}
    (hagrees : station.pool.Agrees layout territory handle pool' world world')
    (commands : List (Command tables σ ω))
    (hanswers : ∀ answer ∈ (station.run commands world).1.1, enrolls answer = false)
    (hcovered : (leaving (station.run commands) world).1.pool.Covered layout territory)
    (hentries : ∀ entry ∈ station.journal commands world, entry.Within layout territory) :
    let own := errandsOf handle (commands.flatMap station.errands)
    (leaving (station.run commands) world).1.pool.Agrees layout territory handle
        (leaving (pool'.errands own) world').1 (leaving (station.run commands) world).2
        (leaving (pool'.errands own) world').2 ∧
      entriesOf handle (station.journal commands world) = (pool'.errands own world').1.1 := by
  intro own
  induction commands generalizing station pool' world world' with
  | nil => exact ⟨hagrees, rfl⟩
  | cons command rest ih =>
      rcases List.forall_mem_append.1 hentries with ⟨hfirst, hlater⟩
      rcases List.forall_mem_cons.1 hanswers with ⟨hanswer, hothers⟩
      rcases h.attested with ⟨entries, hattested⟩
      have hretains := retains_run layout hsecluded (attested_execute hattested command world) rest
        (leaving (station.execute command) world).2
      rcases h.agrees_execute hsecluded hseparate hagrees command hfirst with ⟨hstep, hentry⟩
      rcases ih (h.execute hsecluded hanswer (hretains.covered hcovered) hfirst) hstep hothers
        hcovered hlater with ⟨hlast, hmore⟩
      -- The timers tell the same radios as before.
      rw [errands_eq_of_timers (timers_execute hanswer)] at hlast hmore
      have hown : own = errandsOf handle (station.errands command) ++
          errandsOf handle (rest.flatMap station.errands) := by
        show errandsOf handle ((command :: rest).flatMap station.errands) = _
        rw [List.flatMap_cons, errandsOf_append]
      rw [hown, Pool.leaving_errands_append, Pool.entries_append, ← hentry, ← hmore]
      exact ⟨hlast, entriesOf_append handle _ _⟩

/-- What a run does is, for one radio, what the kept commands do, and these are
    answered as the journal says. -/
theorem Orderly.run_kept (h : station.Orderly layout territory handle)
    (hseparate : Separate territory) {commands : List (Command tables σ ω)} {world : ω}
    (hanswers : ∀ answer ∈ (station.run commands world).1.1, enrolls answer = false)
    (hcovered : (leaving (station.run commands) world).1.pool.Covered layout territory)
    (hentries : ∀ entry ∈ station.journal commands world, entry.Within layout territory) :
    let kept := commands.flatMap (station.kept handle)
    (leaving (station.run commands) world).1.pool.Agrees layout territory handle
        (leaving (station.run kept) world).1.pool (leaving (station.run commands) world).2
        (leaving (station.run kept) world).2 ∧
      entriesOf handle (station.journal commands world) = station.journal kept world ∧
      (station.run kept world).1.1 = (station.journal kept world).map Entry.reply := by
  intro kept
  rcases h.attested with ⟨entries, hattested⟩
  rcases h.found with ⟨radio, hradio⟩
  have hgives : ∀ command ∈ kept, ∃ turn, command.Gives handle turn := by
    intro command hmem
    rcases List.mem_flatMap.1 hmem with ⟨whole, -, hkept⟩
    exact gives_of_mem_kept hkept
  -- The kept commands go on the errands that are for the radio.
  rcases station.run_of_gives kept hgives world with ⟨hrun, hjournal⟩
  rw [errands_flatMap_kept] at hrun hjournal
  rcases h.agrees_run hsecluded hseparate ⟨rfl, rfl⟩ commands hanswers hcovered hentries with
    ⟨hlast, hsame⟩
  rw [← hrun] at hlast
  exact ⟨hlast, hsame.trans hjournal.symm,
    answers_of_gives layout hsecluded hattested hradio kept hgives world⟩

/-- In a run of all commands, too, one that is for the radio is answered as the
    journal says. Its entry comes behind those of the commands before it, and
    there are as many of these as were kept. -/
theorem Orderly.reply_of_gives (h : station.Orderly layout territory handle)
    (hseparate : Separate territory) {before rest : List (Command tables σ ω)}
    {command : Command tables σ ω} {turn : Turn ω} (hturn : command.Gives handle turn) {world : ω}
    (hanswers : ∀ answer ∈ (station.run (before ++ command :: rest) world).1.1,
      enrolls answer = false)
    (hcovered : (leaving (station.run (before ++ command :: rest)) world).1.pool.Covered layout
      territory)
    (hentries : ∀ entry ∈ station.journal (before ++ command :: rest) world,
      entry.Within layout territory) :
    ∃ entry,
      (entriesOf handle (station.journal (before ++ command :: rest) world))[
        (before.flatMap (station.kept handle)).length]? = some entry ∧
      entry.turn = turn ∧
      (station.run (before ++ command :: rest) world).1.1[before.length]? = some entry.reply := by
  rcases h.attested with ⟨entries, hattested⟩
  rcases h.found with ⟨old, hold⟩
  rw [answers_append] at hanswers
  rw [leaving_run_append] at hcovered
  rw [journal_append] at hentries
  -- The radio is still there when the command comes.
  rcases retains_run layout hsecluded hattested before world handle old hold with
    ⟨radio, hradio, -⟩
  have hretains := retains_run layout hsecluded (attested_run hattested before world)
    (command :: rest) (leaving (station.run before) world).2
  rcases h.run_kept hsecluded hseparate (List.forall_mem_append.1 hanswers).1
    (hretains.covered hcovered) (List.forall_mem_append.1 hentries).1 with ⟨-, hsame, hreplies⟩
  have hcount : (entriesOf handle (station.journal before world)).length =
      (before.flatMap (station.kept handle)).length := by
    rw [hsame, ← List.length_map Entry.reply, ← hreplies, length_answers]
  rcases entry_of_gives hturn hradio (leaving (station.run before) world).2 with
    ⟨entry, hentry, hhandle, hgiven, hanswer⟩
  refine ⟨entry, ?_, hgiven, ?_⟩
  · rw [journal_append, entriesOf_append, List.getElem?_append_right (Nat.le_of_eq hcount), hcount,
      Nat.sub_self, journal_cons, hentry, entriesOf_append, entriesOf_singleton, if_pos hhandle]
    rfl
  · rw [getElem?_answers, hanswer]

omit hsecluded in
/-- No radio takes a turn while radios are started. -/
theorem journal_of_starts {setup : List (Command tables σ ω)} (hsetup : OnlyStarts setup)
    (world : ω) : station.journal setup world = [] := by
  induction setup generalizing station world with
  | nil => rfl
  | cons command rest ih =>
      rcases List.forall_mem_cons.1 hsetup with ⟨⟨timer, settings, link, rfl⟩, hrest⟩
      exact ih hrest _

/-- A station is in good order when its radios were just started. -/
theorem orderly_of_starts {timers : Vector (TickTable (Subscriber ω)) tables}
    (htimers : ∀ timer : Fin tables, (timers.get timer).subscriptions = [])
    {setup : List (Command tables σ ω)} (hsetup : OnlyStarts setup)
    (world : ω) :
    let ready := (leaving ((ofTimers timers : Station tables capacity τ σ ω).run setup) world).1
    ready.pool.Covered layout territory → (∃ radio, ready.pool.radio? handle = some radio) →
      ready.Orderly layout territory handle := by
  intro ready hcovered hfound
  have hpooled : (ofTimers timers : Station tables capacity τ σ ω).Pooled := by
    intro timer subscription hmem
    rw [table_ofTimers, htimers timer] at hmem
    exact nomatch hmem
  have hnobody : ∀ entry ∈ (ofTimers timers : Station tables capacity τ σ ω).journal setup world,
      entry.Within layout territory := by
    rw [journal_of_starts hsetup]
    exact fun entry hentry => nomatch hentry
  exact ⟨⟨_, attested_run Pool.attested_empty setup world⟩, hpooled.run hsetup world,
    guarded_run hsecluded Pool.attested_empty Pool.guarded_empty setup world hcovered hnobody,
    hfound⟩

end Station

section

variable [Link σ ω] (layout : Layout ι ρ σ ω)

/-- No two radios of a station are connected to the same line. -/
def Station.Apart (station : Station tables capacity τ σ ω) : Prop :=
  ∀ first second radio radio', station.pool.radio? first = some radio →
    station.pool.radio? second = some radio' → ∀ line, layout.lines radio.junction.link line →
      layout.lines radio'.junction.link line → first = second

/-- No context was bound to two radios. -/
def Unshared (entries : List (Entry ω)) : Prop :=
  ∀ first ∈ entries, ∀ second ∈ entries, first.turn.context?.isSome = true →
    first.turn.context? = second.turn.context? → first.handle = second.handle

instance (entries : List (Entry ω)) : Decidable (Unshared entries) :=
  inferInstanceAs <| Decidable <| ∀ first ∈ entries, ∀ second ∈ entries,
    first.turn.context?.isSome = true → first.turn.context? = second.turn.context? →
      first.handle = second.handle

/-- What a radio has to itself: the lines of its link, and what the contexts of
    the callbacks stand for that it was brought. -/
def Station.territory (station : Station tables capacity τ σ ω) (entries : List (Entry ω))
    (handle : Handle) : Place ι → Prop
  | .line line =>
    ∃ radio, station.pool.radio? handle = some radio ∧ layout.lines radio.junction.link line
  | .endpoint context =>
    ∃ entry ∈ entriesOf handle entries, entry.turn.context? = some context

end

namespace Station

variable [Link σ ω] {layout : Layout ι ρ σ ω} {station : Station tables capacity τ σ ω}
  {entries : List (Entry ω)}

theorem covered_territory : station.pool.Covered layout (station.territory layout entries) :=
  fun _ radio hradio _ hline => ⟨radio, hradio, hline⟩

theorem separate_territory (hapart : station.Apart layout) (hcontexts : Unshared entries) :
    Separate (station.territory layout entries) := by
  intro first second place hfirst hsecond
  cases place with
  | line line =>
      rcases hfirst with ⟨radio, hradio, hline⟩
      rcases hsecond with ⟨radio', hradio', hline'⟩
      exact hapart first second radio radio' hradio hradio' line hline hline'
  | endpoint context =>
      rcases hfirst with ⟨entry, hentry, hbound⟩
      rcases hsecond with ⟨entry', hentry', hbound'⟩
      rcases mem_entriesOf.1 hentry with ⟨hmem, rfl⟩
      rcases mem_entriesOf.1 hentry' with ⟨hmem', rfl⟩
      exact hcontexts entry hmem entry' hmem' (hbound ▸ rfl) (hbound.trans hbound'.symm)

theorem within_territory (hlocal : ∀ entry ∈ entries, entry.turn.Local layout.part) :
    ∀ entry ∈ entries, entry.Within layout (station.territory layout entries) := by
  intro entry hmem
  refine (hlocal entry hmem).within fun context hbound => ?_
  exact ⟨entry, mem_entriesOf.2 ⟨hmem, rfl⟩, hbound⟩

/-- Radios of one station do not influence each other.

    Some radios are started, and then things happen to the station, though no
    more radios are started and nobody else is subscribed. The radios are
    connected to different lines, no context is bound to two of them, and every
    callback keeps to what its context stands for. Then any of them ends up as it
    would if only the commands for it had been carried out, with a tick in place
    of every firing of its timer. The same goes for its lines, for what its
    contexts stand for, for its answers, and for the calls it makes. A firing is
    replaced with as many ticks as there were starts on that timer under this
    handle, and as long as there are words for handles that is one at most. Among
    all the commands as well, one that is for the radio is answered with its entry,
    which stands behind as many others as were kept of the commands before it. -/
theorem isolated [Transport τ ω] (layout : Layout ι ρ σ ω) (hsecluded : Transport.Secluded τ ω)
    {timers : Vector (TickTable (Subscriber ω)) tables}
    (htimers : ∀ timer : Fin tables, (timers.get timer).subscriptions = [])
    {setup : List (Command tables σ ω)} (hsetup : OnlyStarts setup)
    (later : List (Command tables σ ω)) (world : ω) (handle : Handle) :
    let begun := (ofTimers timers : Station tables capacity τ σ ω).run setup world
    let ready := begun.1.2
    let ended := ready.run later begun.2
    let journal := ready.journal later begun.2
    let kept := later.flatMap (ready.kept handle)
    let alone := ready.run kept begun.2
    (∀ answer ∈ ended.1.1, enrolls answer = false) →
    ended.1.2.Apart layout →
    Unshared journal →
    (∀ entry ∈ journal, entry.turn.Local layout.part) →
    ready.pool.validates handle = true →
    (∃ radio, ended.1.2.pool.radio? handle = some radio ∧
        alone.1.2.pool.radio? handle = some radio) ∧
      (∀ place, ended.1.2.territory layout journal handle place →
        layout.part place ended.2 = layout.part place alone.2) ∧
      entriesOf handle journal = ready.journal kept begun.2 ∧
      alone.1.1 = (entriesOf handle journal).map Entry.reply ∧
      (∀ before command rest turn, later = before ++ command :: rest →
        command.Gives handle turn → ∃ entry,
          (entriesOf handle journal)[(before.flatMap (ready.kept handle)).length]? = some entry ∧
            entry.turn = turn ∧ ended.1.1[before.length]? = some entry.reply) ∧
      (∀ timer, ready.ticksFor handle timer = (timersOf handle setup begun.1.1).count timer) ∧
      (setup.length ≤ 2 ^ 32 → (timersOf handle setup begun.1.1).length ≤ 1) := by
  intro begun ready ended journal kept alone hanswers hapart hcontexts hlocal hvalid
  rcases Option.isSome_iff_exists.1 hvalid with ⟨old, hold⟩
  have hattested : ready.pool.Attested _ := attested_run Pool.attested_empty setup world
  have hretains := retains_run layout hsecluded hattested later begun.2
  rcases hretains handle old hold with ⟨radio, hradio, -⟩
  -- The territories are those of the radios that are there in the end.
  have hcovered : ended.1.2.pool.Covered layout (ended.1.2.territory layout journal) :=
    covered_territory
  have horderly : ready.Orderly layout (ended.1.2.territory layout journal) handle :=
    orderly_of_starts hsecluded htimers hsetup world (hretains.covered hcovered) ⟨old, hold⟩
  have hseparate := separate_territory hapart hcontexts
  have hwithin : ∀ entry ∈ journal, entry.Within layout (ended.1.2.territory layout journal) :=
    within_territory hlocal
  rcases horderly.run_kept hsecluded hseparate hanswers hcovered hwithin with
    ⟨hagrees, hsame, hreplies⟩
  refine ⟨⟨radio, hradio, hagrees.radio_eq ▸ hradio⟩, inside_eq_iff.1 hagrees.inside_eq, hsame, ?_,
    ?_, ?_, ?_⟩
  · rw [hsame]
    exact hreplies
  · rintro before command rest turn rfl hturn
    exact horderly.reply_of_gives hsecluded hseparate hturn hanswers hcovered hwithin
  · intro timer
    have hcount : ready.ticksFor handle timer =
        (ofTimers timers : Station tables capacity τ σ ω).ticksFor handle timer +
          (timersOf handle setup begun.1.1).count timer := ticksFor_run hsetup world handle timer
    have hnone : (ofTimers timers : Station tables capacity τ σ ω).ticksFor handle timer = 0 := by
      rw [ticksFor, table_ofTimers, htimers]
      rfl
    rw [hcount, hnone, Nat.zero_add]
  · intro hwords
    have hempty : (ofTimers timers : Station tables capacity τ σ ω).pool.allocated = 0 := rfl
    exact length_timersOf_le_one hsetup (by omega) handle world

/-- Callbacks are brought by requests. -/
theorem local_of_requests [Transport τ ω] {part : Place ι → ω → ρ}
    {commands : List (Command tables σ ω)} {world : ω}
    (h : ∀ asked request, .request asked request ∈ commands → Turn.Local part (.request request)) :
    ∀ entry ∈ station.journal commands world, entry.turn.Local part := by
  intro entry hentry
  rcases turn_of_mem_journal hentry with htick | ⟨request, hturn, hmem⟩
  · rw [htick]
    exact nofun
  · rw [hturn]
    exact h entry.handle request hmem

end Station

/-- Radios are apart whose loops are numbered like their slots. -/
theorem Loop.apart {station : Station tables capacity τ Loop (Place Nat → List UInt8)}
    (h : ∀ index : Fin capacity, ∀ radio ∈ station.pool.slots.get index,
      radio.junction.link.line = index.val) : station.Apart Loop.layout := by
  have hline (named : Handle) (radio : Radio τ Loop (Place Nat → List UInt8))
      (hradio : station.pool.radio? named = some radio) :
      radio.junction.link.line = named.index := by
    have hslot := Option.join_eq_some_iff.1 (Pool.radio?_eq_some_iff.1 hradio).1
    rcases Vector.getElem?_eq_some_iff.1 hslot with ⟨hlt, hheld⟩
    exact h ⟨named.index, hlt⟩ radio hheld
  intro first second radio radio' hradio hradio' line hfirst hsecond
  apply Handle.index_inj
  rw [← hline first radio hradio, ← hline second radio' hradio']
  exact hfirst.symm.trans hsecond

namespace Station

/-- Two radios on one timer, each in a loop. -/
theorem isolated_loops :
    let timers : Vector (TickTable (Subscriber (Place Nat → List UInt8))) 1 :=
      Vector.replicate 1 TickTable.standard
    let setup : List (Command 1 Loop (Place Nat → List UInt8)) :=
      [.start 0 ⟨100, 2, 1, 1, 0⟩ ⟨0, 0⟩, .start 0 ⟨100, 2, 1, 1, 1⟩ ⟨1, 0⟩]
    let later : List (Command 1 Loop (Place Nat → List UInt8)) :=
      [.request ⟨0⟩ (.bindSource (Loop.source 5)), .request ⟨1⟩ (.bindReceiver (Loop.sink 7)),
        .request ⟨0⟩ (.bindReceiver (Loop.sink 6)), .start 0 Settings.standard ⟨0, 0⟩,
        .request ⟨0⟩ (.transmitReady 16), .request ⟨2⟩ (.transmitReady 16), .fire 0,
        .request ⟨1⟩ (.setBaud 9600), .tick 0, .tick 9]
    let world : Place Nat → List UInt8 := fun place =>
      if place = .endpoint 5 then [1, 2, 3] else if place = .line 1 then [4] else []
    let begun := (ofTimers timers : Station 1 2 Immediate Loop (Place Nat → List UInt8)).run
      setup world
    let ready := begun.1.2
    let ended := ready.run later begun.2
    let journal := ready.journal later begun.2
    let kept := later.flatMap (ready.kept ⟨0⟩)
    let alone := ready.run kept begun.2
    ended.1.1.map Except.toOption = [some (.yield false), some (.yield false), some (.yield false),
        none, some (.yield false), none, some (.yield true), some (.yield false),
        some (.yield false), some (.yield false)] ∧
      ended.2 (.endpoint 6) = [1, 2, 3] ∧ ended.2 (.endpoint 7) = [4] ∧
      (∃ radio, ended.1.2.pool.radio? ⟨0⟩ = some radio ∧
        alone.1.2.pool.radio? ⟨0⟩ = some radio) ∧
      (∀ place, ended.1.2.territory Loop.layout journal ⟨0⟩ place →
        ended.2 place = alone.2 place) ∧
      entriesOf ⟨0⟩ journal = ready.journal kept begun.2 ∧
      alone.1.1 = (entriesOf ⟨0⟩ journal).map Entry.reply ∧
      (∀ before command rest turn, later = before ++ command :: rest →
        command.Gives ⟨0⟩ turn → ∃ entry,
          (entriesOf ⟨0⟩ journal)[(before.flatMap (ready.kept ⟨0⟩)).length]? = some entry ∧
            entry.turn = turn ∧ ended.1.1[before.length]? = some entry.reply) ∧
      (∀ timer, ready.ticksFor ⟨0⟩ timer = (timersOf ⟨0⟩ setup begun.1.1).count timer) ∧
      (setup.length ≤ 2 ^ 32 → (timersOf ⟨0⟩ setup begun.1.1).length ≤ 1) := by
  intro timers setup later world begun ready ended journal kept alone
  have hanswers : ended.1.1.map Except.toOption = [some (.yield false), some (.yield false),
      some (.yield false), none, some (.yield false), none, some (.yield true),
      some (.yield false), some (.yield false), some (.yield false)] := by
    decide +kernel
  have hstored : ended.2 (.endpoint 6) = [1, 2, 3] ∧ ended.2 (.endpoint 7) = [4] := by
    decide +kernel
  have hcontexts : Unshared journal := by
    decide +kernel
  have hvalid : ready.pool.validates ⟨0⟩ = true := by
    decide +kernel
  have hnobody : ∀ answer ∈ ended.1.1, enrolls answer = false := by
    decide +kernel
  have hsetup : OnlyStarts setup := by
    simp [setup, OnlyStarts]
  have hapart : ended.1.2.Apart Loop.layout := Loop.apart (by decide +kernel)
  have hlocal : ∀ entry ∈ journal, entry.turn.Local Loop.layout.part := by
    refine local_of_requests fun asked request hmem => ?_
    simp only [later, List.mem_cons, Command.request.injEq, reduceCtorEq, List.not_mem_nil,
      or_self, or_false, false_or] at hmem
    rcases hmem with ⟨-, rfl⟩ | ⟨-, rfl⟩ | ⟨-, rfl⟩ | ⟨-, rfl⟩ | ⟨-, rfl⟩ | ⟨-, rfl⟩
    · exact Loop.local_source 5
    · exact Loop.local_sink 7
    · exact Loop.local_sink 6
    -- The others bring no callback.
    all_goals exact nofun
  have htimers : ∀ timer : Fin 1, (timers.get timer).subscriptions = [] := by
    intro timer
    show (Vector.replicate 1 TickTable.standard)[timer.val].subscriptions = []
    rw [Vector.getElem_replicate]
    rfl
  -- What the commands are has been used, and would only be computed again.
  clear_value later
  exact ⟨hanswers, hstored.1, hstored.2, isolated Loop.layout Immediate.secluded htimers hsetup
    later world ⟨0⟩ hnobody hapart hcontexts hlocal hvalid⟩

end Station

end PacketRadio
