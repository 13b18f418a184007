import PacketRadio.Proofs.Serial.Access
import PacketRadio.Proofs.Serial.Conservation

/-!
# Pumps Do Not Wait

A pump of a serial link comes to an end, and it never offers a channel bytes
that it has not room for.

The channel may be anything. It decides whether there is another round, and it
may claim to have taken any number of bytes, none included. But a round that is
followed by another one has taken something out of the backlog. It was offered
something because the part of a ring that lies in one piece is not empty while
there are elements, wherever in its row the ring begins. So there are no more
rounds than there were bytes waiting. `pumpWithin` is the loop with the number
of its rounds limited from outside; it needs no argument of its own why it
ends, and with a limit of the size of the backlog it is the pump
(`pumpWithin_eq`).

The rest is read off the rules for a pump. Each round asks once and writes at
most once, right after a channel has said that it is ready.

## Main definitions

* `SerialLink.pumpWithin`: A pump that is cut off after a number of rounds.
* `PresetChannel`: A channel whose answers are fixed beforehand.

## Theorems

* `SerialLink.pumpWithin_eq`: The size of the backlog is enough rounds.
* `SerialLink.Rounds.length_queries_le`, `SerialLink.Rounds.length_writes_le`:
  How often a pump asks and writes.
* `SerialLink.Rounds.toList_eq`: A pump takes out of the backlog what the channel
  claims.
* `SerialLink.Rounds.write`: What comes before a write, and what is offered.
* `SerialLink.pump_never_blocks`: All of it, for a pump, a send and a poll.
-/

namespace PacketRadio

open Access

/-- A channel whose answers are fixed beforehand, whatever it is offered. When
    they run out it is not ready and faults. -/
structure PresetChannel where
  ready : List (Option Bool)
  -- How many bytes each write claims to take, or a fault.
  taken : List (Option Nat)

namespace PresetChannel

-- Nothing ever arrives on a preset channel.
instance {ω : Type} : Channel PresetChannel ω where
  writeReady channel := pure (channel.ready.headD (some false),
    { channel with ready := channel.ready.tail })
  write channel _ := pure (channel.taken.headD none, { channel with taken := channel.taken.tail })
  readReady channel := pure (some false, channel)
  read channel _ := pure (some Fill.nothing, channel)

end PresetChannel

namespace SerialLink

variable {κ ω : Type}

/-- A pump that is given up when it needs more than a number of rounds. -/
def pumpWithin [Channel κ ω] : Nat → κ → RingBuffer UInt8 maxPayload →
    StateM ω (Option (Except LinkError Unit × SerialLink κ))
  | 0, channel, backlog =>
    pure (if backlog.isEmpty then some (.ok (), ⟨channel, backlog⟩) else none)
  | rounds + 1, channel, backlog =>
    if backlog.isEmpty then
      pure (some (.ok (), ⟨channel, backlog⟩))
    else do
      let (ready, channel) ← Channel.writeReady channel
      match ready with
      | none => pure (some (.error .io, ⟨channel, backlog⟩))
      | some false => pure (some (.ok (), ⟨channel, backlog⟩))
      | some true => do
        let (taken, channel) ← Channel.write channel backlog.front
        match taken with
        | none => pure (some (.error .io, ⟨channel, backlog⟩))
        | some 0 => pure (some (.ok (), ⟨channel, backlog⟩))
        | some (count + 1) => pumpWithin rounds channel (backlog.drop (count + 1))

theorem pumpWithin_eq [Channel κ ω] (rounds : Nat) (channel : κ)
    (backlog : RingBuffer UInt8 maxPayload) (h : backlog.size ≤ rounds) :
    pumpWithin rounds channel backlog = (some <$> pumpOut channel backlog : StateM ω _) := by
  induction rounds generalizing channel backlog with
  | zero =>
      have hempty : backlog.isEmpty = true := decide_eq_true (Nat.le_zero.1 h)
      rw [pumpWithin, pumpOut, if_pos hempty, dif_pos hempty, map_pure]
  | succ rounds ih =>
      rw [pumpWithin, pumpOut]
      by_cases hempty : backlog.isEmpty = true
      · rw [if_pos hempty, dif_pos hempty, map_pure]
      · rw [if_neg hempty, dif_neg hempty, map_bind]
        refine bind_congr fun answer => ?_
        rcases answer with ⟨_ | _ | _, channel'⟩
        · exact (map_pure _ _).symm
        · exact (map_pure _ _).symm
        · simp only [map_bind]
          refine bind_congr fun answer => ?_
          rcases answer with ⟨_ | _ | count, channel''⟩
          · exact (map_pure _ _).symm
          · exact (map_pure _ _).symm
          · -- One round less, and fewer bytes.
            have hless := size_drop_lt hempty count
            exact ih channel'' (backlog.drop (count + 1)) (by omega)

namespace Rounds

variable {backlog after : RingBuffer UInt8 maxPayload} {accesses : List Access}
  {result : Except LinkError Unit}

/-- A pump asks at most once for every byte that waits. -/
theorem length_queries_le (h : Rounds backlog accesses result after) :
    (queries accesses).length ≤ backlog.size := by
  induction h with
  | finished _ => exact Nat.zero_le _
  | unknown hmore => exact RingBuffer.size_pos hmore
  | unready hmore => exact RingBuffer.size_pos hmore
  | faulted hmore => exact RingBuffer.size_pos hmore
  | stuck hmore => exact RingBuffer.size_pos hmore
  | @round _ _ count _ _ hmore _ ih =>
      have hless := size_drop_lt hmore count
      simp only [queries_cons, query?, Option.toList, List.length_append, List.length_cons,
        List.length_nil]
      omega

/-- It writes no more often than it asks. -/
theorem length_writes_le_queries (h : Rounds backlog accesses result after) :
    (writes accesses).length ≤ (queries accesses).length := by
  induction h with
  | finished _ => exact Nat.le_refl _
  | unknown _ => exact Nat.zero_le _
  | unready _ => exact Nat.zero_le _
  | faulted _ => exact Nat.le_refl _
  | stuck _ => exact Nat.le_refl _
  | round _ _ ih => simpa using ih

theorem length_writes_le (h : Rounds backlog accesses result after) :
    (writes accesses).length ≤ backlog.size :=
  Nat.le_trans h.length_writes_le_queries h.length_queries_le

/-- What the channel claims to have taken leaves the backlog, and nothing else
    does. -/
theorem toList_eq (h : Rounds backlog accesses result after) :
    after.toList = backlog.toList.drop (claims accesses) := by
  induction h with
  | finished _ => rfl
  | unknown _ => rfl
  | unready _ => rfl
  | faulted _ => rfl
  | stuck _ => rfl
  | @round backlog _ count accesses _ _ _ ih =>
      rw [ih, RingBuffer.toList_drop, List.drop_drop]
      simp only [claims, claim, Nat.zero_add]

/-- The first two accesses of a round are a question and a write. A write among
    all accesses is that one, or it comes later. -/
theorem split_write {front offered : List UInt8} {answer taken : Option Nat}
    {before later rest : List Access}
    (h : .writeReady (some true) :: .write front answer :: later =
      before ++ .write offered taken :: rest) :
    (before = [.writeReady (some true)] ∧ offered = front) ∨
      ∃ between, before = .writeReady (some true) :: .write front answer :: between ∧
        later = between ++ .write offered taken :: rest := by
  rcases before with _ | ⟨first, _ | ⟨second, between⟩⟩
  · cases h
  · cases h
    exact .inl ⟨rfl, rfl⟩
  · cases h
    exact .inr ⟨between, rfl, rfl⟩

/-- A write follows a channel's answer that it is ready, and it is offered some
    of the bytes that wait, from the first of them on. -/
theorem write (h : Rounds backlog accesses result after) {before rest : List Access}
    {offered : List UInt8} {taken : Option Nat}
    (hsplit : accesses = before ++ .write offered taken :: rest) :
    (∃ earlier, before = earlier ++ [.writeReady (some true)]) ∧
      offered ≠ [] ∧ offered <+: backlog.toList.drop (claims before) := by
  -- The first write of a pump is offered the front of the ring.
  induction h generalizing before with
  | finished _ => simp at hsplit
  | unknown _ => cases before <;> simp at hsplit
  | unready _ => cases before <;> simp at hsplit
  | @faulted backlog hmore =>
      rcases split_write hsplit with ⟨rfl, rfl⟩ | ⟨between, -, hnil⟩
      · exact ⟨⟨[], rfl⟩, RingBuffer.front_ne_nil hmore, backlog.front_prefix⟩
      · simp at hnil
  | @stuck backlog hmore =>
      rcases split_write hsplit with ⟨rfl, rfl⟩ | ⟨between, -, hnil⟩
      · exact ⟨⟨[], rfl⟩, RingBuffer.front_ne_nil hmore, backlog.front_prefix⟩
      · simp at hnil
  | @round backlog _ count _ _ hmore _ ih =>
      rcases split_write hsplit with ⟨rfl, rfl⟩ | ⟨between, rfl, hlater⟩
      · exact ⟨⟨[], rfl⟩, RingBuffer.front_ne_nil hmore, backlog.front_prefix⟩
      · rcases ih hlater with ⟨⟨earlier, rfl⟩, hne, hprefix⟩
        refine ⟨⟨_ :: _ :: earlier, rfl⟩, hne, ?_⟩
        rw [RingBuffer.toList_drop, List.drop_drop] at hprefix
        simpa using hprefix

end Rounds

variable [Channel κ ω]

/-- The accesses of a pump that had nothing to write. -/
theorem pumpAccesses_of_isEmpty {link : SerialLink κ} (h : link.backlog.isEmpty = true)
    (world : ω) : link.pumpAccesses world = [] := by
  have hobserved : link.observed.backlog.isEmpty = true := h
  rw [pumpAccesses, pump_of_isEmpty _ hobserved]
  rfl

theorem size_queue {link : SerialLink κ} {payload : List UInt8}
    (h : link.accepts payload = true) : (link.queue payload).backlog.size = payload.length := by
  rw [← RingBuffer.length_toList, toList_queue h]

/-- A send writes at most once for every byte that waits or is to be sent. -/
theorem Despatch.length_writes_le {link after : SerialLink κ} {payload : List UInt8}
    {world last : ω} {steps : List Step} {answer : Except LinkError Unit}
    (h : Despatch link payload world steps answer after last) :
    (writes (Step.accesses steps)).length ≤ link.backlog.size + payload.length := by
  have hfirst := (link.pump_rounds world).length_writes_le
  cases h with
  | blocked _ =>
      rw [accesses_pumpHistory]
      omega
  | refused _ _ =>
      rw [accesses_pumpHistory]
      omega
  | @broken _ middle _ between _ _ haccept _ =>
      have hsecond := ((middle.queue payload).pump_rounds between).length_writes_le
      rw [size_queue haccept] at hsecond
      simp
      omega
  | @accepted middle _ between _ _ haccept _ =>
      have hsecond := ((middle.queue payload).pump_rounds between).length_writes_le
      rw [size_queue haccept] at hsecond
      simp
      omega

/-- A pump never waits and always ends, whatever its channel does.

    It needs no more rounds than there are bytes waiting, it asks the channel no
    more often whether it is ready, and it writes no more often. Before every
    write the channel has just said that it is ready, and it is offered some of
    the bytes that wait then, from the first of them on. Those are the bytes
    that the channel has not claimed to have taken. If nothing waits, the
    channel is left alone, and that is a success. So a send writes at most once
    for every byte that waits and every byte of its payload, and a poll for
    every byte that waits. -/
theorem pump_never_blocks (link : SerialLink κ) (payload : List UInt8) (world : ω) :
    let accesses := link.pumpAccesses world
    pumpWithin link.backlog.size link.channel link.backlog =
        (some <$> link.pump : StateM ω _) ∧
      (queries accesses).length ≤ link.backlog.size ∧
      (writes accesses).length ≤ link.backlog.size ∧
      (∀ before offered taken rest, accesses = before ++ .write offered taken :: rest →
        (∃ earlier, before = earlier ++ [.writeReady (some true)]) ∧
          offered ≠ [] ∧ offered <+: link.backlog.toList.drop (claims before)) ∧
      (link.pump world).1.2.backlog.toList = link.backlog.toList.drop (claims accesses) ∧
      (link.backlog.toList = [] →
        accesses = [] ∧ link.pump world = ((.ok (), link), world)) ∧
      (writes (link.accesses [.send payload] world)).length ≤
        link.backlog.size + payload.length ∧
      (writes (link.accesses [.poll] world)).length ≤ link.backlog.size := by
  intro accesses
  have hrounds : Rounds link.backlog accesses _ _ := link.pump_rounds world
  refine ⟨pumpWithin_eq _ _ _ (Nat.le_refl _), hrounds.length_queries_le,
    hrounds.length_writes_le, fun before offered taken rest hsplit => hrounds.write hsplit,
    hrounds.toList_eq, fun hnil => ?_, ?_, ?_⟩
  · have hempty := link.backlog.isEmpty_eq_true_iff.2 hnil
    refine ⟨pumpAccesses_of_isEmpty hempty world, ?_⟩
    rw [pump_of_isEmpty link hempty]
    rfl
  · rw [accesses_send]
    exact (link.send_despatch payload world).length_writes_le
  · rw [accesses_poll]
    exact hrounds.length_writes_le

/-- The channel claims more than it was offered in the second of two writes, and
    then nothing waits. -/
theorem pump_never_blocks_overstated :
    let channel : PresetChannel := ⟨[some true, some true], [some 2, some 7]⟩
    let link := (ofChannel channel).queue [1, 2, 3, 4, 5]
    let before : List Access :=
      [.writeReady (some true), .write [1, 2, 3, 4, 5] (some 2), .writeReady (some true)]
    let offered : List UInt8 := [3, 4, 5]
    link.pumpAccesses () = before ++ .write offered (some 7) :: [] ∧
      ((∃ earlier, before = earlier ++ [.writeReady (some true)]) ∧
        offered ≠ [] ∧ offered <+: link.backlog.toList.drop (claims before)) ∧
      (ofChannel channel).backlog.toList = [] ∧
      (ofChannel channel).pumpAccesses () = [] ∧
      (ofChannel channel).pump () = ((.ok (), ofChannel channel), ()) := by
  intro channel link before offered
  have haccesses : link.pumpAccesses () = before ++ .write offered (some 7) :: [] := by
    decide +kernel
  rcases pump_never_blocks link [] () with ⟨-, -, -, hwrite, -⟩
  rcases pump_never_blocks (ofChannel channel) [] () with ⟨-, -, -, -, -, hnothing, -⟩
  exact ⟨haccesses, hwrite before offered (some 7) [] haccesses, rfl, hnothing rfl⟩

end SerialLink

end PacketRadio
