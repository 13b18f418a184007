import PacketRadio.Proofs.Serial.Bounds

/-!
# What a Write Is Offered

Which bytes each write of a serial link is offered, and no more than two writes
where a channel takes them.

A write is offered what lies in one piece in the ring, and that depends on where
the ring begins in its row. Whoever only sees the steps of a link can work it
out. The head moves by as many cells as bytes are taken out, it closes on itself
at the end of the row, and it returns to the beginning only when the backlog is
thrown away. So a `Ledger` of two entries is enough: the bytes that wait, and how
many were taken out since the ring was new or thrown away. What a channel claims
above what waits is not taken out and does not count.

`Tracks` says that a ledger and a ring agree. The rules for pumps and sends keep
them in agreement step by step, and where they agree, the front of the ring is
the offer of the ledger.

A front goes up to the end of the row or holds everything. Once it is taken,
what is left begins at the beginning of the row and is in one piece. That is why
a channel that takes everything needs two writes at most.

## Main definitions

* `Ledger`: What can be known of a backlog from the steps of its link.
* `Ledger.offer`: What a write has to be offered.
* `Ledger.Offers`: Every write among some steps is offered that.
* `Ledger.Tracks`: A ledger agrees with a ring.
* `Ledger.Accounts`: Some steps offer what they have to and lead to a ring.
* `Access.Willing`: An access in which the channel takes what it is offered.

## Theorems

* `Ledger.Tracks.front`: The front of a ring is the offer of its ledger.
* `SerialLink.Rounds.accounts`, `SerialLink.Despatch.accounts`,
  `SerialLink.accounts_deal`, `SerialLink.accounts_history`: Steps and ledgers,
  from a pump to a run.
* `SerialLink.Rounds.length_writes_le_two`: A pump over a channel that takes
  everything.
* `SerialLink.offered_up_to_end`: The offers of a run, and the two writes.
-/

namespace PacketRadio

open Access

/-- The channel is ready, or it takes all that it is offered. -/
def Access.Willing : Access → Prop
  | .writeReady answer => answer = some true
  | .write offered taken => taken = some offered.length
  | .readReady _ => True
  | .read _ _ => True

instance : DecidablePred Access.Willing
  | .writeReady answer => inferInstanceAs (Decidable (answer = some true))
  | .write offered taken => inferInstanceAs (Decidable (taken = some offered.length))
  | .readReady _ => isTrue trivial
  | .read _ _ => isTrue trivial

/-- What can be known of a backlog from the steps of its link. -/
structure Ledger where
  pending : List UInt8
  -- How many bytes were taken out since the ring was new or thrown away.
  popped : Nat

namespace Ledger

/-- Nothing waits, and nothing was taken out. -/
def fresh : Ledger := ⟨[], 0⟩

/-- What a write has to be offered: the bytes that wait, up to the end of the
    row. -/
def offer (ledger : Ledger) : List UInt8 :=
  ledger.pending.take
    (min ledger.pending.length (maxPayload - ledger.popped % maxPayload))

/-- A channel claims to have taken some bytes. Only bytes that wait can be taken
    out. -/
def pop (ledger : Ledger) (count : Nat) : Ledger :=
  ⟨ledger.pending.drop count, ledger.popped + min count ledger.pending.length⟩

/-- What a step makes of a ledger. -/
def step (ledger : Ledger) : SerialLink.Step → Ledger
  | .access made => ledger.pop made.claim
  | .queued payload => { ledger with pending := ledger.pending ++ payload }
  | .discarded => fresh

/-- What some steps make of a ledger. -/
def after (ledger : Ledger) (steps : List SerialLink.Step) : Ledger := steps.foldl step ledger

/-- Every write among the steps is offered what it has to be. -/
def Offers (ledger : Ledger) (steps : List SerialLink.Step) : Prop :=
  ∀ before offered taken rest, steps = before ++ .access (.write offered taken) :: rest →
    offered = (ledger.after before).offer

/-- A ledger agrees with a ring. -/
structure Tracks (ledger : Ledger) (ring : RingBuffer UInt8 maxPayload) : Prop where
  pending : ring.toList = ledger.pending
  head : ring.head = ledger.popped % maxPayload

/-- The steps offer what they have to, and they lead to a ring. -/
structure Accounts (ledger : Ledger) (steps : List SerialLink.Step)
    (ring : RingBuffer UInt8 maxPayload) : Prop where
  offers : ledger.Offers steps
  tracks : (ledger.after steps).Tracks ring

@[simp] theorem pop_zero (ledger : Ledger) : ledger.pop 0 = ledger := by
  simp [pop]

theorem offers_cons_iff (ledger : Ledger) (step : SerialLink.Step) (steps : List SerialLink.Step) :
    ledger.Offers (step :: steps) ↔
      (∀ offered taken, step = .access (.write offered taken) → offered = ledger.offer) ∧
        (ledger.step step).Offers steps := by
  constructor
  · intro h
    refine ⟨fun offered taken hstep => ?_, fun before offered taken rest hsplit => ?_⟩
    · exact h [] offered taken steps (congrArg (· :: steps) hstep)
    · exact h (step :: before) offered taken rest (congrArg (step :: ·) hsplit)
  · rintro ⟨hstep, hrest⟩ before offered taken rest hsplit
    rcases before with _ | ⟨first, before⟩
    · exact hstep offered taken (List.cons.inj hsplit).1
    · rcases List.cons.inj hsplit with ⟨rfl, hlater⟩
      exact hrest before offered taken rest hlater

variable {ledger : Ledger} {ring : RingBuffer UInt8 maxPayload}

namespace Tracks

theorem empty : fresh.Tracks (RingBuffer.empty maxPayload_pos) := ⟨rfl, rfl⟩

theorem clear (ring : RingBuffer UInt8 maxPayload) : fresh.Tracks ring.clear := ⟨rfl, rfl⟩

/-- The front of a ring is what its ledger offers. -/
theorem front (h : ledger.Tracks ring) : ring.front = ledger.offer := by
  rw [RingBuffer.front_eq_take, h.pending, h.head, offer, Nat.min_comm, ← List.take_take,
    List.take_length]

theorem drop (h : ledger.Tracks ring) (count : Nat) :
    (ledger.pop count).Tracks (ring.drop count) where
  pending := by rw [RingBuffer.toList_drop, h.pending, pop]
  head := by
    show (ring.head + min count ring.size) % maxPayload = _
    rw [h.head, Nat.mod_add_mod, ← ring.length_toList, h.pending, pop]

theorem pushAll (h : ledger.Tracks ring) {payload : List UInt8}
    (hroom : ring.size + payload.length ≤ maxPayload) :
    (ledger.step (.queued payload)).Tracks (ring.pushAll payload) where
  pending := by rw [RingBuffer.toList_pushAll _ _ hroom, h.pending, step]
  head := by rw [RingBuffer.head_pushAll, h.head, step]

end Tracks

namespace Accounts

theorem nil (h : ledger.Tracks ring) : ledger.Accounts [] ring :=
  ⟨fun before _ _ _ hsplit => by simp at hsplit, h⟩

/-- A step that writes nothing, in front of others. -/
theorem cons {step : SerialLink.Step} {steps : List SerialLink.Step}
    (hstep : ∀ offered taken, step ≠ .access (.write offered taken))
    (hrest : (ledger.step step).Accounts steps ring) : ledger.Accounts (step :: steps) ring :=
  ⟨(ledger.offers_cons_iff step steps).2
    ⟨fun offered taken heq => absurd heq (hstep offered taken), hrest.offers⟩, hrest.tracks⟩

/-- A write of the front of a ring, in front of other steps. -/
theorem write (h : ledger.Tracks ring) {after : RingBuffer UInt8 maxPayload}
    {taken : Option Nat} {steps : List SerialLink.Step}
    (hrest : (ledger.pop (claim (.write ring.front taken))).Accounts steps after) :
    ledger.Accounts (.access (.write ring.front taken) :: steps) after := by
  refine ⟨(ledger.offers_cons_iff _ steps).2 ⟨fun offered again heq => ?_, hrest.offers⟩,
    hrest.tracks⟩
  cases heq
  exact h.front

theorem append {first second : List SerialLink.Step} {middle : RingBuffer UInt8 maxPayload}
    (hfirst : ledger.Accounts first middle)
    (hsecond : ∀ ledger : Ledger, ledger.Tracks middle → ledger.Accounts second ring) :
    ledger.Accounts (first ++ second) ring := by
  induction first generalizing ledger with
  | nil => exact hsecond ledger hfirst.tracks
  | cons step steps ih =>
      rcases (ledger.offers_cons_iff step steps).1 hfirst.offers with ⟨hstep, hoffers⟩
      have hrest := ih ⟨hoffers, hfirst.tracks⟩
      exact ⟨(ledger.offers_cons_iff step _).2 ⟨hstep, hrest.offers⟩, hrest.tracks⟩

/-- An access that writes nothing makes no difference. -/
theorem silent {access : Access} {steps : List SerialLink.Step} (hnone : access.write? = none)
    (hrest : ledger.Accounts steps ring) : ledger.Accounts (.access access :: steps) ring := by
  have hclaim : access.claim = 0 := by
    cases access with
    | write _ _ => exact nomatch hnone
    | _ => rfl
  refine cons (fun offered taken heq => ?_) ?_
  · cases heq
    exact nomatch hnone
  · rw [step, hclaim, pop_zero]
    exact hrest

theorem of_write?_eq_none (h : ledger.Tracks ring) {accesses : List Access}
    (hnone : ∀ access ∈ accesses, access.write? = none) :
    ledger.Accounts (accesses.map .access) ring := by
  induction accesses with
  | nil => exact nil h
  | cons access rest ih =>
      rcases List.forall_mem_cons.1 hnone with ⟨haccess, hrest⟩
      exact silent haccess (ih hrest)

end Accounts

end Ledger

namespace SerialLink

open Ledger

/-- Each round writes the front of what its ledger knows. -/
theorem Rounds.accounts {backlog after : RingBuffer UInt8 maxPayload} {accesses : List Access}
    {result : Except LinkError Unit} (h : Rounds backlog accesses result after) {ledger : Ledger}
    (htracks : ledger.Tracks backlog) : ledger.Accounts (accesses.map .access) after := by
  induction h generalizing ledger with
  | finished _ => exact .nil htracks
  | unknown _ => exact .silent rfl (.nil htracks)
  | unready _ => exact .silent rfl (.nil htracks)
  | faulted _ => exact .silent rfl (.write htracks (.nil (by simpa using htracks)))
  | stuck _ => exact .silent rfl (.write htracks (.nil (by simpa using htracks)))
  | round _ _ ih => exact .silent rfl (.write htracks (ih (htracks.drop _)))

variable {κ ω : Type} [Channel κ ω]

theorem accounts_pumpHistory (link : SerialLink κ) (world : ω) {ledger : Ledger}
    (htracks : ledger.Tracks link.backlog) :
    ledger.Accounts (link.pumpHistory world) (link.pump world).1.2.backlog :=
  (link.pump_rounds world).accounts htracks

/-- A payload is queued behind nothing, and then pumped. -/
theorem accounts_queue {link : SerialLink κ} {payload : List UInt8}
    (haccept : link.accepts payload = true) (world : ω) {ledger : Ledger}
    (htracks : ledger.Tracks link.backlog) :
    ledger.Accounts (.queued payload :: (link.queue payload).pumpHistory world)
      ((link.queue payload).pump world).1.2.backlog := by
  exact .cons nofun (accounts_pumpHistory (link.queue payload) world
    (htracks.pushAll (room_of_accepts haccept)))

theorem Despatch.accounts {link after : SerialLink κ} {payload : List UInt8} {world last : ω}
    {steps : List Step} {answer : Except LinkError Unit}
    (h : Despatch link payload world steps answer after last) {ledger : Ledger}
    (htracks : ledger.Tracks link.backlog) : ledger.Accounts steps after.backlog := by
  have hpumped := link.accounts_pumpHistory world htracks
  cases h with
  | blocked hfirst =>
      rw [hfirst] at hpumped
      exact hpumped
  | refused hfirst _ =>
      rw [hfirst] at hpumped
      exact hpumped
  | @broken _ middle after between _ hfirst haccept hsecond =>
      rw [hfirst] at hpumped
      refine hpumped.append fun ledger htracks => ?_
      refine (accounts_queue haccept between htracks).append fun ledger _ => ?_
      -- Whatever was known is forgotten.
      exact .cons nofun (.nil (.clear after.backlog))
  | @accepted middle _ between _ hfirst haccept hsecond =>
      rw [hfirst] at hpumped
      refine hpumped.append fun ledger htracks => ?_
      have hqueued := accounts_queue haccept between htracks
      rw [hsecond] at hqueued
      exact hqueued.append fun _ htracks => .nil htracks

theorem accounts_deal (link : SerialLink κ) (ask : Ask) (world : ω) {ledger : Ledger}
    (htracks : ledger.Tracks link.backlog) :
    ledger.Accounts (link.dealHistory ask world) (link.deal ask world).1.2.backlog := by
  cases ask with
  | send payload => exact (link.send_despatch payload world).accounts htracks
  | receive buffer =>
      rcases (link.mirrors_receive buffer world).recorded.2 with ⟨hnone, hbacklog⟩
      have hsame : (link.deal (.receive buffer) world).1.2.backlog = link.backlog := hbacklog
      rw [hsame]
      exact .of_write?_eq_none htracks hnone
  | poll => exact link.accounts_pumpHistory world htracks

theorem accounts_history (link : SerialLink κ) (asks : List Ask) (world : ω) {ledger : Ledger}
    (htracks : ledger.Tracks link.backlog) :
    ledger.Accounts (link.history asks world) (link.deals asks world).1.2.backlog := by
  induction asks generalizing link world ledger with
  | nil => exact .nil htracks
  | cons ask rest ih =>
      exact (link.accounts_deal ask world htracks).append fun _ htracks => ih _ _ htracks

/-- Where a channel takes everything, a pump ends when nothing waits, and until
    then each round takes out the front. -/
theorem Rounds.of_willing {backlog after : RingBuffer UInt8 maxPayload} {accesses : List Access}
    {result : Except LinkError Unit} (h : Rounds backlog accesses result after)
    (hwilling : ∀ access ∈ accesses, access.Willing) :
    (accesses = [] ∧ result = .ok () ∧ after.toList = []) ∨
      ∃ rest, backlog.toList ≠ [] ∧
        writes accesses = (backlog.front, some backlog.front.length) :: writes rest ∧
        (∀ access ∈ rest, access.Willing) ∧
        Rounds (backlog.drop backlog.front.length) rest result after := by
  cases h with
  | finished hempty => exact .inl ⟨rfl, rfl, backlog.isEmpty_eq_true_iff.1 hempty⟩
  | unknown _ => exact nomatch hwilling _ List.mem_cons_self
  | unready _ => exact nomatch hwilling _ List.mem_cons_self
  | faulted _ => exact nomatch hwilling _ (List.mem_cons_of_mem _ List.mem_cons_self)
  | stuck hmore =>
      have hzero := hwilling _ (List.mem_cons_of_mem _ List.mem_cons_self)
      have hfront := RingBuffer.front_ne_nil hmore
      exact absurd (List.length_eq_zero_iff.1 (Option.some.inj hzero).symm) hfront
  | @round _ _ count rest _ hmore hrest =>
      have hall := Option.some.inj (hwilling _ (List.mem_cons_of_mem _ List.mem_cons_self))
      rw [hall] at hrest ⊢
      rw [backlog.isEmpty_eq_true_iff] at hmore
      refine .inr ⟨rest, hmore, rfl, fun access hmem => ?_, hrest⟩
      exact hwilling _ (List.mem_cons_of_mem _ (List.mem_cons_of_mem _ hmem))

/-- A channel that takes everything is written to at most twice. -/
theorem Rounds.length_writes_le_two {backlog after : RingBuffer UInt8 maxPayload}
    {accesses : List Access} {result : Except LinkError Unit}
    (h : Rounds backlog accesses result after) (hwilling : ∀ access ∈ accesses, access.Willing) :
    result = .ok () ∧ after.toList = [] ∧ (writes accesses).length ≤ 2 := by
  rcases h.of_willing hwilling with ⟨rfl, hok, hnil⟩ | ⟨rest, -, hfirst, hrest, hlater⟩
  · exact ⟨hok, hnil, Nat.zero_le _⟩
  rcases hlater.of_willing hrest with ⟨rfl, hok, hnil⟩ | ⟨last, -, hsecond, hlast, hend⟩
  · exact ⟨hok, hnil, by simp [hfirst]⟩
  rcases hend.of_willing hlast with ⟨rfl, hok, hnil⟩ | ⟨_, hmore, -⟩
  · exact ⟨hok, hnil, by simp [hfirst, hsecond]⟩
  · -- The second front was all that waited.
    rw [RingBuffer.toList_drop, RingBuffer.front_drop_front, List.drop_length] at hmore
    exact absurd rfl hmore

/-- What each write of a link is offered, whatever its channel does.

    Every write is offered the bytes that wait, up to the end of the row. How far
    that is depends only on how many bytes were taken out since the link was new
    or since a send last failed with its payload queued. At the end of a run the
    backlog holds what the steps have left there, and the ring begins where they
    have moved it. And where a channel is ready and takes all it is offered, any
    backlog is gone after two writes. -/
theorem offered_up_to_end (channel : κ) (asks : List Ask) (world : ω) :
    let steps := (ofChannel channel).history asks world
    let ledger := Ledger.fresh.after steps
    let backlog := ((ofChannel channel).deals asks world).1.2.backlog
    Step.accesses steps = (ofChannel channel).accesses asks world ∧
      (∀ before offered taken rest, steps = before ++ .access (.write offered taken) :: rest →
        let ledger := Ledger.fresh.after before
        offered = ledger.pending.take
          (min ledger.pending.length (maxPayload - ledger.popped % maxPayload))) ∧
      backlog.toList = ledger.pending ∧ backlog.head = ledger.popped % maxPayload ∧
      ∀ (link : SerialLink κ) (world : ω),
        (∀ access ∈ link.pumpAccesses world, access.Willing) →
          (link.pump world).1.1 = .ok () ∧ (link.pump world).1.2.backlog.toList = [] ∧
            (writes (link.pumpAccesses world)).length ≤ 2 := by
  intro steps ledger backlog
  have haccounts : Ledger.fresh.Accounts steps backlog :=
    (ofChannel channel).accounts_history asks world .empty
  exact ⟨((ofChannel channel).accesses_eq asks world).symm, haccounts.offers,
    haccounts.tracks.pending, haccounts.tracks.head,
    fun link world hwilling => (link.pump_rounds world).length_writes_le_two hwilling⟩

/-- A write that is cut off by the end of the row, behind 240 bytes of which the
    channel overstated, and one that is not, because the send before it faulted.
    Then a backlog that lies across the end of the row and is taken in two
    pieces. -/
theorem offered_up_to_end_scripted :
    let channel : PresetChannel :=
      ⟨List.replicate 4 (some true), [some 999, some 7, none, some 20]⟩
    let asks : List Ask := [.send (List.replicate 240 1), .send (List.replicate 20 2),
      .send (List.replicate 20 3)]
    let steps := (ofChannel channel).history asks ()
    let asked : Step := .access (.writeReady (some true))
    let cut : List UInt8 := List.replicate 8 2
    let whole : List UInt8 := List.replicate 20 3
    let earlier : List Step := [.queued (List.replicate 240 1), asked,
      .access (.write (List.replicate 240 1) (some 999)), .queued (List.replicate 20 2), asked]
    let faulting : List Step :=
      earlier ++ [.access (.write cut (some 7)), asked, .access (.write [2] none)]
    let later : List Step := faulting ++ [.discarded, .queued whole, asked]
    let offer (ledger : Ledger) :=
      ledger.pending.take (min ledger.pending.length (maxPayload - ledger.popped % maxPayload))
    let turned : RingBuffer UInt8 maxPayload :=
      { RingBuffer.empty maxPayload_pos with head := 246, head_lt := by decide }
    let link :=
      (SerialLink.mk (PresetChannel.mk [some true, some true] [some 2, some 3]) turned).queue
        [1, 2, 3, 4, 5]
    (steps = earlier ++ .access (.write cut (some 7)) :: steps.drop 6 ∧
      (Ledger.fresh.after earlier).popped = 240 ∧ cut = offer (Ledger.fresh.after earlier)) ∧
      (steps = later ++ .access (.write whole (some 20)) :: [] ∧
        (Ledger.fresh.after faulting).popped = 247 ∧ (Ledger.fresh.after later).popped = 0 ∧
        whole = offer (Ledger.fresh.after later)) ∧
      link.pumpAccesses () = [.writeReady (some true), .write [1, 2] (some 2),
        .writeReady (some true), .write [3, 4, 5] (some 3)] ∧
      (∀ access ∈ link.pumpAccesses (), access.Willing) ∧
      (link.pump ()).1.1 = .ok () ∧ (link.pump ()).1.2.backlog.toList = [] ∧
        (writes (link.pumpAccesses ())).length ≤ 2 := by
  intro channel asks steps asked cut whole earlier faulting later offer turned link
  have hwhole : steps = later ++ .access (.write whole (some 20)) :: [] := by decide +kernel
  have hcut : steps = earlier ++ .access (.write cut (some 7)) :: steps.drop 6 := by
    rw [hwhole]
    rfl
  have haccesses : link.pumpAccesses () = [.writeReady (some true), .write [1, 2] (some 2),
      .writeReady (some true), .write [3, 4, 5] (some 3)] := by decide +kernel
  have hwilling : ∀ access ∈ link.pumpAccesses (), access.Willing := by
    rw [haccesses]
    decide
  rcases offered_up_to_end channel asks () with ⟨-, hoffers, -, -, htwo⟩
  exact ⟨⟨hcut, by decide +kernel, hoffers _ _ _ _ hcut⟩,
    ⟨hwhole, by decide +kernel, by decide +kernel, hoffers _ _ _ _ hwhole⟩,
    haccesses, hwilling, htwo link () hwilling⟩

end SerialLink

end PacketRadio
