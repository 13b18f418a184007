import PacketRadio.Proofs.Serial.Conservation

/-!
# A Serial Link as a Plain Queue

A serial link over a channel with room is a list in front of a wire.

The channel is one that never faults. It has room for a number of bytes, it is
ready as long as that is not zero, and a write takes what fits and what one
write may take, which may be a different number of bytes each time. The far
side makes more room whenever it likes. These are the laws of an `Outlet`.

The reference is a `Spool`: the bytes that wait, in a list, the wire, and the
room. It moves bytes onto the wire in one piece, as many as there are and as
fit. A link does the same in pieces, cut by the end of the row in which its ring
lies and by what single writes may take. It makes no difference, because moving
a part and then as much as possible is moving as much as possible
(`Spool.move_part`), and this is the only thing that an induction over the
rounds of a pump needs to know. It ends only when nothing waits or no room is
left: while there is room, something of what waits is offered, and some of it is
taken.

## Main definitions

* `Channel.Outlet`: A channel with room.
* `Spool`: A queue in front of a wire.
* `Spool.send`, `Spool.poll`, `Spool.run`: What happens to it.
* `Channel.Outlet.spool`: A link seen as a spool.
* `SerialLink.undergo`: What happens to a link.
* `RoomyChannel`: A channel whose single writes are limited.

## Theorems

* `Spool.move_part`: Moving in parts.
* `SerialLink.Pumped.spool`, `SerialLink.Sent.spool`: A pump moves what can be
  moved, and a send is a send.
* `SerialLink.spooled`: So is everything that happens to a link.
-/

namespace PacketRadio

variable {κ ω : Type}

/-- A channel that has room for a number of bytes and never faults. It is ready
    if there is room, and a write takes as much as fits and as it may take,
    which is at least one byte. -/
structure Channel.Outlet (κ ω : Type) [Channel κ ω] where
  wire : κ → ω → List UInt8
  room : κ → ω → Nat
  /-- The far side makes more room. -/
  widen : κ → Nat → StateM ω κ
  widened {channel after : κ} {more : Nat} {world last : ω}
    (h : widen channel more world = (after, last)) :
    wire after last = wire channel world ∧ room after last = room channel world + more
  writeReady {channel after : κ} {ready : Option Bool} {world last : ω}
    (h : Channel.writeReady channel world = ((ready, after), last)) :
    ready = some (decide (0 < room channel world)) ∧
      wire after last = wire channel world ∧ room after last = room channel world
  -- Nothing is said of a write for which there is no room.
  write {channel after : κ} {data : List UInt8} {taken : Option Nat} {world last : ω}
    (hroom : 0 < room channel world)
    (h : Channel.write channel data world = ((taken, after), last)) :
    ∃ cap, 1 ≤ cap ∧
      taken = some (min data.length (min (room channel world) cap)) ∧
      wire after last =
        wire channel world ++ data.take (min data.length (min (room channel world) cap)) ∧
      room after last = room channel world - min data.length (min (room channel world) cap)

/-- A queue in front of a wire that has room for a number of bytes. -/
structure Spool where
  pending : List UInt8
  wire : List UInt8
  room : Nat
deriving DecidableEq

namespace Spool

/-- Some bytes are moved onto the wire. -/
def part (spool : Spool) (count : Nat) : Spool where
  pending := spool.pending.drop count
  wire := spool.wire ++ spool.pending.take count
  room := spool.room - count

/-- Move as many bytes onto the wire as there are and as there is room for. -/
def move (spool : Spool) : Spool :=
  spool.part (min spool.pending.length spool.room)

/-- A poll moves what it can. -/
def poll (spool : Spool) : Except LinkError Unit × Spool :=
  (.ok (), spool.move)

/-- A send moves what it can. If something still waits then, or if the payload
    is too long, the payload is refused. Otherwise it is queued, and what can be
    moved of it is moved. -/
def send (spool : Spool) (payload : List UInt8) : Except LinkError Unit × Spool :=
  if spool.move.pending ≠ [] ∨ maxPayload < payload.length then
    (.error .busy, spool.move)
  else
    (.ok (), { spool.move with pending := spool.move.pending ++ payload }.move)

/-- What happens to a spool, or to a link. -/
inductive Event where
  /-- The far side makes more room. -/
  | widen (more : Nat)
  | send (payload : List UInt8)
  | poll

/-- Something happens. Only a send and a poll have an answer. -/
def undergo (spool : Spool) : Event → Option (Except LinkError Unit) × Spool
  | .widen more => (none, { spool with room := spool.room + more })
  | .send payload => ((spool.send payload).1, (spool.send payload).2)
  | .poll => (spool.poll.1, spool.poll.2)

/-- One thing happens after another. -/
def run (spool : Spool) : List Event → List (Option (Except LinkError Unit)) × Spool
  | [] => ([], spool)
  | event :: rest =>
    let (answer, spool) := spool.undergo event
    let (answers, spool) := spool.run rest
    (answer :: answers, spool)

@[simp] theorem part_zero (spool : Spool) : spool.part 0 = spool := by
  simp [part]

theorem part_part (spool : Spool) (first second : Nat) :
    (spool.part first).part second = spool.part (first + second) := by
  simp only [part, List.drop_drop, List.append_assoc, Nat.sub_sub, mk.injEq, true_and, and_true]
  rw [List.take_add]

/-- Moving a part and then the rest is moving all. -/
theorem move_part (spool : Spool) {count : Nat} (hpending : count ≤ spool.pending.length)
    (hroom : count ≤ spool.room) : (spool.part count).move = spool.move := by
  rw [move, move, part_part]
  congr 1
  simp only [part, List.length_drop]
  omega

/-- Nothing can be moved where nothing waits or no room is left. -/
theorem move_of_stuck {spool : Spool} (h : spool.pending = [] ∨ spool.room = 0) :
    spool.move = spool := by
  have hzero : min spool.pending.length spool.room = 0 := by
    rcases h with hnil | hfull
    · rw [hnil]
      exact Nat.zero_min _
    · rw [hfull]
      exact Nat.min_zero _
  rw [move, hzero, part_zero]

end Spool

/-- A channel with room whose single writes are limited. When the limits run
    out, a write takes what fits. -/
structure RoomyChannel where
  wire : List UInt8
  room : Nat
  -- How many bytes each write may take besides the first.
  limits : List Nat

namespace RoomyChannel

-- Nothing ever arrives on a roomy channel.
instance {ω : Type} : Channel RoomyChannel ω where
  writeReady channel := pure (some (decide (0 < channel.room)), channel)
  write channel data :=
    let count := min data.length (min channel.room (channel.limits.headD data.length + 1))
    pure (some count,
      ⟨channel.wire ++ data.take count, channel.room - count, channel.limits.tail⟩)
  readReady channel := pure (some false, channel)
  read channel _ := pure (some Fill.nothing, channel)

/-- A roomy channel keeps to the laws. -/
def outlet {ω : Type} : Channel.Outlet RoomyChannel ω where
  wire channel _ := channel.wire
  room channel _ := channel.room
  widen channel more := pure { channel with room := channel.room + more }
  widened h := by
    cases h
    exact ⟨rfl, rfl⟩
  writeReady h := by
    cases h
    exact ⟨rfl, rfl, rfl⟩
  write _ h := by
    cases h
    exact ⟨_, Nat.le_add_left 1 _, rfl, rfl, rfl⟩

end RoomyChannel

/-- A link as a spool. -/
def Channel.Outlet.spool [Channel κ ω] (outlet : Channel.Outlet κ ω) (link : SerialLink κ)
    (world : ω) : Spool where
  pending := link.backlog.toList
  wire := outlet.wire link.channel world
  room := outlet.room link.channel world

namespace SerialLink

variable [Channel κ ω] (outlet : Channel.Outlet κ ω)

/-- Something happens to a link. -/
def undergo (link : SerialLink κ) :
    Spool.Event → StateM ω (Option (Except LinkError Unit) × SerialLink κ)
  | .widen more => do
    let channel ← outlet.widen link.channel more
    return (none, { link with channel })
  | .send payload => do
    let (answer, link) ← link.send payload
    return (some answer, link)
  | .poll => do
    let (answer, link) ← link.poll
    return (some answer, link)

/-- One thing after another happens to a link. -/
def undergoAll (link : SerialLink κ) :
    List Spool.Event → StateM ω (List (Option (Except LinkError Unit)) × SerialLink κ)
  | [] => pure ([], link)
  | event :: rest => do
    let (answer, link) ← link.undergo outlet event
    let (answers, link) ← link.undergoAll rest
    return (answer :: answers, link)

/-- Asking a channel changes nothing, and it is ready if it has room. -/
theorem spool_of_ready {channel channel' : κ} (backlog : RingBuffer UInt8 maxPayload)
    {ready : Option Bool} {world world' : ω}
    (h : Channel.writeReady channel world = ((ready, channel'), world')) :
    ready = some (decide (0 < (outlet.spool ⟨channel, backlog⟩ world).room)) ∧
      outlet.spool ⟨channel', backlog⟩ world' = outlet.spool ⟨channel, backlog⟩ world := by
  rcases outlet.writeReady h with ⟨hready, hwire, hroom⟩
  refine ⟨hready, ?_⟩
  rw [Channel.Outlet.spool, Channel.Outlet.spool, hwire, hroom]

/-- A write to a channel that is ready takes something, no more than waits or
    fits, and moves it onto the wire. -/
theorem spool_of_write {channel channel' channel'' : κ} {backlog : RingBuffer UInt8 maxPayload}
    {taken : Option Nat} {world world' world'' : ω} (hmore : ¬ backlog.isEmpty = true)
    (hready : Channel.writeReady channel world = ((some true, channel'), world'))
    (hwrite : Channel.write channel' backlog.front world' = ((taken, channel''), world'')) :
    ∃ count, taken = some (count + 1) ∧
      count + 1 ≤ (outlet.spool ⟨channel, backlog⟩ world).pending.length ∧
      count + 1 ≤ (outlet.spool ⟨channel, backlog⟩ world).room ∧
      outlet.spool ⟨channel'', backlog.drop (count + 1)⟩ world'' =
        (outlet.spool ⟨channel, backlog⟩ world).part (count + 1) := by
  rcases spool_of_ready outlet backlog hready with ⟨hanswer, hsame⟩
  have hroom : 0 < outlet.room channel' world' := by
    have hbefore := of_decide_eq_true (Option.some.inj hanswer).symm
    rwa [← hsame] at hbefore
  rcases outlet.write hroom hwrite with ⟨cap, hcap, htaken, hwire, hleft⟩
  generalize hcount : min backlog.front.length (min (outlet.room channel' world') cap) = count
    at htaken hwire hleft
  have hfront := List.length_pos_of_ne_nil (RingBuffer.front_ne_nil hmore)
  have hle := backlog.front_prefix.length_le
  rw [← hsame]
  rcases count with _ | count
  · -- There is a front, and room for one byte of it.
    omega
  · refine ⟨count, htaken, Nat.le_trans (by omega) hle, ?_, ?_⟩
    · show count + 1 ≤ outlet.room channel' world'
      omega
    · rw [backlog.take_front (by omega)] at hwire
      rw [Channel.Outlet.spool, hwire, hleft, RingBuffer.toList_drop]
      rfl

/-- A pump succeeds, and moves what can be moved. -/
theorem Pumped.spool {channel : κ} {backlog : RingBuffer UInt8 maxPayload} {world last : ω}
    {result : Except LinkError Unit} {link : SerialLink κ}
    (h : Pumped channel backlog world result link last) :
    (result, outlet.spool link last) = (outlet.spool ⟨channel, backlog⟩ world).poll := by
  induction h with
  | @finished channel backlog world hempty =>
      have hnil := backlog.isEmpty_eq_true_iff.1 hempty
      rw [Spool.poll, Spool.move_of_stuck (.inl hnil)]
  | @unknown _ _ backlog _ _ _ hready => exact nomatch (spool_of_ready outlet backlog hready).1
  | @unready _ _ backlog _ _ _ hready =>
      rcases spool_of_ready outlet backlog hready with ⟨hanswer, hsame⟩
      have hfull := of_decide_eq_false (Option.some.inj hanswer).symm
      rw [hsame, Spool.poll, Spool.move_of_stuck (.inr (Nat.eq_zero_of_not_pos hfull))]
  | faulted hmore hready hwrite =>
      rcases spool_of_write outlet hmore hready hwrite with ⟨_, hnone, -⟩
      exact nomatch hnone
  | stuck hmore hready hwrite =>
      rcases spool_of_write outlet hmore hready hwrite with ⟨_, hzero, -⟩
      exact nomatch Option.some.inj hzero
  | round hmore hready hwrite _ ih =>
      rcases spool_of_write outlet hmore hready hwrite with ⟨_, hcount, hpending, hfits, hmoved⟩
      cases hcount
      rw [ih, Spool.poll, Spool.poll, hmoved, Spool.move_part _ hpending hfits]

/-- A payload is queued in a link as it is in a spool. -/
theorem spool_queue {link : SerialLink κ} {payload : List UInt8}
    (h : link.accepts payload = true) (world : ω) :
    outlet.spool (link.queue payload) world =
      { outlet.spool link world with
        pending := (outlet.spool link world).pending ++ payload } := by
  have hempty := ((link.accepts_eq_true_iff payload).1 h).1
  show Spool.mk _ _ _ = Spool.mk (link.backlog.toList ++ payload) _ _
  rw [toList_queue h, hempty, List.nil_append]
  rfl

/-- A send is the send of a spool. -/
theorem Sent.spool {link after : SerialLink κ} {payload : List UInt8} {world last : ω}
    {answer : Except LinkError Unit} (h : Sent link payload world answer after last) :
    (answer, outlet.spool after last) = (outlet.spool link world).send payload := by
  cases h with
  | blocked hfirst => exact nomatch congrArg Prod.fst (hfirst.spool outlet)
  | refused hfirst hrefuse =>
      have hmoved : outlet.spool after last = (outlet.spool link world).move :=
        congrArg Prod.snd (hfirst.spool outlet)
      have hbusy : (outlet.spool after last).pending ≠ [] ∨ maxPayload < payload.length := by
        rw [Bool.eq_false_iff, Ne, accepts_eq_true_iff, not_and_or, Nat.not_le] at hrefuse
        exact hrefuse
      rw [hmoved] at hbusy ⊢
      rw [Spool.send, if_pos hbusy]
  | broken _ _ hsecond => exact nomatch congrArg Prod.fst (hsecond.spool outlet)
  | @accepted middle _ between _ hfirst haccept hsecond =>
      have hmoved : outlet.spool middle between = (outlet.spool link world).move :=
        congrArg Prod.snd (hfirst.spool outlet)
      have hfree :
          ¬ ((outlet.spool middle between).pending ≠ [] ∨ maxPayload < payload.length) := by
        rw [not_or, not_not, Nat.not_lt]
        exact (middle.accepts_eq_true_iff payload).1 haccept
      have hqueued := hsecond.spool outlet
      rw [show (⟨middle.channel, (middle.queue payload).backlog⟩ : SerialLink κ) =
        middle.queue payload from rfl, spool_queue outlet haccept, Spool.poll] at hqueued
      rw [hmoved] at hfree hqueued
      rw [Spool.send, if_neg hfree, hqueued]

theorem undergo_spool (link : SerialLink κ) (event : Spool.Event) (world : ω) :
    ((link.undergo outlet event world).1.1,
      outlet.spool (link.undergo outlet event world).1.2 (link.undergo outlet event world).2) =
    (outlet.spool link world).undergo event := by
  cases event with
  | widen more =>
      rcases hwiden : outlet.widen link.channel more world with ⟨channel, last⟩
      rcases outlet.widened hwiden with ⟨hwire, hroom⟩
      simp only [undergo, bind, StateT.bind, hwiden]
      show (none, Spool.mk _ (outlet.wire channel last) (outlet.room channel last)) = _
      rw [hwire, hroom]
      rfl
  | send payload =>
      have hsent := (link.send_sent payload world).spool outlet
      rcases hsend : link.send payload world with ⟨⟨answer, after⟩, last⟩
      rw [hsend] at hsent
      simp only [undergo, bind, StateT.bind, hsend, Spool.undergo, ← hsent]
      rfl
  | poll =>
      have hpumped := (link.pump_pumped world).spool outlet
      rcases hpoll : link.pump world with ⟨⟨answer, after⟩, last⟩
      rw [hpoll] at hpumped
      simp only [undergo, poll, bind, StateT.bind, hpoll, Spool.undergo]
      rw [← hpumped]
      rfl

theorem undergoAll_spool (link : SerialLink κ) (events : List Spool.Event) (world : ω) :
    ((link.undergoAll outlet events world).1.1,
      outlet.spool (link.undergoAll outlet events world).1.2
        (link.undergoAll outlet events world).2) =
    (outlet.spool link world).run events := by
  induction events generalizing link world with
  | nil => rfl
  | cons event rest ih =>
      have hfirst := link.undergo_spool outlet event world
      rcases hevent : link.undergo outlet event world with ⟨⟨answer, middle⟩, between⟩
      rw [hevent] at hfirst
      have hrest := ih middle between
      rcases hlater : middle.undergoAll outlet rest between with ⟨⟨answers, after⟩, last⟩
      rw [hlater] at hrest
      simp only [undergoAll, bind, StateT.bind, hevent, hlater, Spool.run, ← hfirst, ← hrest]
      rfl

/-- A link over a channel with room is a spool.

    Whatever is sent and polled, and however much room is made in between, the
    answers are those of a spool, and so are the wire, the room that is left and
    the bytes that wait. So nothing else about a link makes a difference to them:
    neither where in its row the ring lies nor how much single writes take, for
    another link over another channel with the same bytes on the wire, the same
    room and the same bytes waiting goes the same way. -/
theorem spooled (link : SerialLink κ) (events : List Spool.Event) (world : ω) :
    let run := link.undergoAll outlet events world
    (run.1.1, outlet.spool run.1.2 run.2) = (outlet.spool link world).run events ∧
      ∀ (κ' ω' : Type) [Channel κ' ω'] (outlet' : Channel.Outlet κ' ω') (link' : SerialLink κ')
        (world' : ω'), outlet'.spool link' world' = outlet.spool link world →
        let run' := link'.undergoAll outlet' events world'
        run'.1.1 = run.1.1 ∧ outlet'.spool run'.1.2 run'.2 = outlet.spool run.1.2 run.2 := by
  intro run
  have hrun : (run.1.1, outlet.spool run.1.2 run.2) = _ := link.undergoAll_spool outlet events world
  refine ⟨hrun, fun κ' ω' _ outlet' link' world' hsame => ?_⟩
  have hrun' := link'.undergoAll_spool outlet' events world'
  rw [hsame, ← hrun] at hrun'
  exact ⟨congrArg Prod.fst hrun', congrArg Prod.snd hrun'⟩

/-- Four bytes wait, once across the end of the row and over a channel that
    takes them one by one, and once in one piece and over a channel that takes
    what fits. -/
theorem spooled_in_pieces :
    let outlet : Channel.Outlet RoomyChannel Unit := RoomyChannel.outlet
    let turned : RingBuffer UInt8 maxPayload :=
      { RingBuffer.empty maxPayload_pos with head := 246, head_lt := by decide }
    let pieces := (SerialLink.mk (RoomyChannel.mk [] 3 [0, 0, 0, 0, 1]) turned).queue [1, 2, 3, 4]
    let whole := (ofChannel (RoomyChannel.mk [] 3 [])).queue [1, 2, 3, 4]
    let events : List Spool.Event :=
      [.send [5], .widen 2, .send [5, 6], .send [7], .widen 9, .poll, .send [7, 8]]
    let answers (link : SerialLink RoomyChannel) := (link.undergoAll outlet events ()).1.1
    let left (link : SerialLink RoomyChannel) :=
      outlet.spool (link.undergoAll outlet events ()).1.2 (link.undergoAll outlet events ()).2
    answers pieces = [some (.error .busy), none, some (.ok ()), some (.error .busy), none,
        some (.ok ()), some (.ok ())] ∧
      left pieces = ⟨[], [1, 2, 3, 4, 5, 6, 7, 8], 6⟩ ∧
      (answers pieces, left pieces) = (outlet.spool pieces ()).run events ∧
      outlet.spool whole () = outlet.spool pieces () ∧
      answers whole = answers pieces ∧ left whole = left pieces := by
  intro outlet turned pieces whole events answers left
  have hsame : outlet.spool whole () = outlet.spool pieces () := by decide +kernel
  rcases spooled outlet pieces events () with ⟨hrun, hother⟩
  exact ⟨by decide +kernel, by decide +kernel, hrun, hsame, hother _ _ outlet whole () hsame⟩

end SerialLink

end PacketRadio
