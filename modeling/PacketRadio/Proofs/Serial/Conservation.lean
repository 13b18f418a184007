import Mathlib.Data.List.Forall2
import PacketRadio.Proofs.Serial.Honest
import PacketRadio.Proofs.Serial.Pump

/-!
# Conservation of Bytes on a Serial Link

What a serial link accepts reaches the wire whole and in order, or still waits
in its backlog.

All that is asked of the channel is that it is honest. The invariant is the
wire with the backlog behind it. A pump moves the border
between the two and changes nothing else, whichever pieces of the ring it
writes and however it ends (`Pumped.conserves`). A send adds to it what
`Contributes` allows. A payload that was accepted is added whole, one that was
refused is not added, and of one that faulted a front part may have gone out
before the rest was thrown away (`Sent.conserves`). Summed up over any number
of dealings this is `wire_append_backlog`.

## Main definitions

* `SerialLink.Contributes`: What a dealing may add.

## Theorems

* `SerialLink.Pumped.conserves`: A pump moves bytes from the backlog to the
  wire.
* `SerialLink.Sent.conserves`, `SerialLink.deal_conserves`: One dealing.
* `SerialLink.wire_append_backlog`: Any number of dealings with a new link.
-/

namespace PacketRadio

variable {κ ω : Type} [Channel κ ω] {wire : κ → ω → List UInt8}

namespace SerialLink

/-- What a dealing may add to the wire and the backlog. -/
inductive Contributes : Dealing → List UInt8 → Prop where
  | accepted (payload : List UInt8) : Contributes (.send payload (.ok ())) payload
  | refused (payload : List UInt8) : Contributes (.send payload (.error .busy)) []
  -- Of a payload that faulted, a front part may be out.
  | faulted {payload part : List UInt8} (h : part <+: payload) :
      Contributes (.send payload (.error .io)) part
  | receive (buffer : List UInt8) (fill : Fill) : Contributes (.receive buffer fill) []
  | poll (answer : Except LinkError Unit) : Contributes (.poll answer) []

-- A pump is never busy.
theorem Pumped.error_eq_io {channel : κ} {backlog : RingBuffer UInt8 maxPayload} {world last : ω}
    {result : Except LinkError Unit} {link : SerialLink κ}
    (h : Pumped channel backlog world result link last) :
    result = .ok () ∨ result = .error .io := by
  induction h with
  | finished _ => exact .inl rfl
  | unknown _ _ => exact .inr rfl
  | unready _ _ => exact .inl rfl
  | faulted _ _ _ => exact .inr rfl
  | stuck _ _ _ => exact .inl rfl
  | round _ _ _ _ ih => exact ih

/-- A pump moves a front part of the backlog onto the wire. -/
theorem Pumped.conserves (honest : Channel.Honest wire) {channel : κ}
    {backlog : RingBuffer UInt8 maxPayload} {world last : ω} {result : Except LinkError Unit}
    {link : SerialLink κ} (h : Pumped channel backlog world result link last) :
    ∃ out, wire link.channel last = wire channel world ++ out ∧
      backlog.toList = out ++ link.backlog.toList := by
  induction h with
  | finished _ => exact ⟨[], (List.append_nil _).symm, rfl⟩
  | unknown _ hready => exact ⟨[], by rw [honest.writeReady hready, List.append_nil], rfl⟩
  | unready _ hready => exact ⟨[], by rw [honest.writeReady hready, List.append_nil], rfl⟩
  | faulted _ hready hwrite =>
      refine ⟨[], ?_, rfl⟩
      rw [honest.write_none hwrite, honest.writeReady hready, List.append_nil]
  | stuck _ hready hwrite =>
      refine ⟨[], ?_, rfl⟩
      rw [(honest.write_some hwrite).2, honest.writeReady hready, List.take_zero]
  | @round channel _ _ backlog world _ _ _ count _ _ _ hready hwrite _ ih =>
      rcases ih with ⟨out, hwire, hrest⟩
      rcases honest.write_some hwrite with ⟨hle, hwrote⟩
      -- What one write is offered is a front part of the backlog.
      refine ⟨backlog.toList.take (count + 1) ++ out, ?_, ?_⟩
      · rw [hwire, hwrote, honest.writeReady hready, backlog.take_front hle, List.append_assoc]
      · rw [List.append_assoc, ← hrest, RingBuffer.toList_drop, List.take_append_drop]

theorem accepts_eq_true_iff (link : SerialLink κ) (payload : List UInt8) :
    link.accepts payload = true ↔ link.backlog.toList = [] ∧ payload.length ≤ maxPayload := by
  rw [accepts, Bool.and_eq_true, RingBuffer.isEmpty_eq_true_iff, decide_eq_true_iff]

/-- A payload that can be queued fits behind what waits, which is nothing. -/
theorem room_of_accepts {link : SerialLink κ} {payload : List UInt8}
    (h : link.accepts payload = true) :
    link.backlog.size + payload.length ≤ maxPayload := by
  rcases (link.accepts_eq_true_iff payload).1 h with ⟨hempty, hfits⟩
  rw [← link.backlog.length_toList, hempty, List.length_nil, Nat.zero_add]
  exact hfits

theorem toList_queue {link : SerialLink κ} {payload : List UInt8}
    (h : link.accepts payload = true) : (link.queue payload).backlog.toList = payload := by
  have hempty := ((link.accepts_eq_true_iff payload).1 h).1
  rw [queue, RingBuffer.toList_pushAll _ _ (room_of_accepts h), hempty, List.nil_append]

/-- A send adds what its answer says, behind what was there. -/
theorem Sent.conserves (honest : Channel.Honest wire) {link after : SerialLink κ}
    {payload : List UInt8} {world last : ω} {answer : Except LinkError Unit}
    (h : Sent link payload world answer after last) :
    ∃ part, Contributes (.send payload answer) part ∧
      wire after.channel last ++ after.backlog.toList =
        wire link.channel world ++ link.backlog.toList ++ part := by
  cases h with
  | blocked hfirst =>
      -- The new payload was not looked at.
      rcases hfirst.conserves honest with ⟨out, hwire, hbacklog⟩
      rcases hfirst.error_eq_io with hok | herror
      · exact nomatch hok
      · refine ⟨[], herror ▸ .faulted List.nil_prefix, ?_⟩
        rw [hwire, hbacklog, List.append_nil, List.append_assoc]
  | refused hfirst _ =>
      rcases hfirst.conserves honest with ⟨out, hwire, hbacklog⟩
      refine ⟨[], .refused payload, ?_⟩
      rw [hwire, hbacklog, List.append_nil, List.append_assoc]
  | @broken _ middle after _ _ hfirst haccept hsecond =>
      rcases hfirst.conserves honest with ⟨out, hwire, hbacklog⟩
      rcases hsecond.conserves honest with ⟨part, hwire', hqueued⟩
      rw [toList_queue haccept] at hqueued
      have hempty := ((middle.accepts_eq_true_iff payload).1 haccept).1
      rcases hsecond.error_eq_io with hok | herror
      · exact nomatch hok
      · -- What was written of the payload is out, and the rest is dropped.
        refine ⟨part, herror ▸ .faulted ⟨_, hqueued.symm⟩, ?_⟩
        show wire after.channel last ++ [] = _
        rw [hwire', hwire, hbacklog, hempty, List.append_nil, List.append_nil]
  | @accepted middle _ _ _ hfirst haccept hsecond =>
      rcases hfirst.conserves honest with ⟨out, hwire, hbacklog⟩
      rcases hsecond.conserves honest with ⟨part, hwire', hqueued⟩
      rw [toList_queue haccept] at hqueued
      have hempty := ((middle.accepts_eq_true_iff payload).1 haccept).1
      refine ⟨payload, .accepted payload, ?_⟩
      rw [hwire', hwire, hbacklog, hempty, List.append_nil, List.append_assoc, ← hqueued]

theorem receive_conserves (honest : Channel.Honest wire) {link after : SerialLink κ}
    {buffer : List UInt8} {world last : ω} {fill : Fill}
    (h : link.receive buffer world = ((fill, after), last)) :
    wire after.channel last = wire link.channel world ∧ after.backlog = link.backlog := by
  rcases hready : Channel.readReady link.channel world with ⟨⟨ready, channel⟩, between⟩
  have hasked := honest.readReady hready
  simp only [receive, bind, StateT.bind, hready] at h
  cases ready with
  | none =>
      cases h
      exact ⟨hasked, rfl⟩
  | some ready =>
      cases ready with
      | false =>
          cases h
          exact ⟨hasked, rfl⟩
      | true =>
          rcases hread : Channel.read channel buffer between with ⟨⟨fill', channel'⟩, last'⟩
          simp only [StateT.bind, hread] at h
          cases h
          exact ⟨(honest.read hread).trans hasked, rfl⟩

theorem deal_conserves (honest : Channel.Honest wire) {link after : SerialLink κ} {ask : Ask}
    {world last : ω} {dealing : Dealing} (h : link.deal ask world = ((dealing, after), last)) :
    dealing.ask = ask ∧ ∃ part, Contributes dealing part ∧
      wire after.channel last ++ after.backlog.toList =
        wire link.channel world ++ link.backlog.toList ++ part := by
  cases ask with
  | send payload =>
      have hsent := link.send_sent payload world
      rcases hsend : link.send payload world with ⟨⟨answer, after'⟩, last'⟩
      rw [hsend] at hsent
      simp only [deal, bind, StateT.bind, hsend] at h
      cases h
      exact ⟨rfl, hsent.conserves honest⟩
  | receive buffer =>
      rcases hreceive : link.receive buffer world with ⟨⟨fill, after'⟩, last'⟩
      simp only [deal, bind, StateT.bind, hreceive] at h
      cases h
      rcases receive_conserves honest hreceive with ⟨hwire, hbacklog⟩
      refine ⟨rfl, [], .receive buffer fill, ?_⟩
      rw [hwire, hbacklog, List.append_nil]
  | poll =>
      have hpumped := link.pump_pumped world
      rcases hpoll : link.pump world with ⟨⟨answer, after'⟩, last'⟩
      rw [hpoll] at hpumped
      simp only [deal, poll, bind, StateT.bind, hpoll] at h
      cases h
      rcases hpumped.conserves honest with ⟨out, hwire, hbacklog⟩
      refine ⟨rfl, [], .poll answer, ?_⟩
      rw [hwire, hbacklog, List.append_nil, List.append_assoc]

/-- Any number of dealings add up. -/
theorem deals_conserves (honest : Channel.Honest wire) {asks : List Ask} {dealings : List Dealing}
    {link after : SerialLink κ} {world last : ω}
    (h : link.deals asks world = ((dealings, after), last)) :
    dealings.map Dealing.ask = asks ∧ ∃ parts, List.Forall₂ Contributes dealings parts ∧
      wire after.channel last ++ after.backlog.toList =
        wire link.channel world ++ link.backlog.toList ++ parts.flatten := by
  induction asks generalizing link world dealings with
  | nil =>
      cases h
      exact ⟨rfl, [], .nil, (List.append_nil _).symm⟩
  | cons ask rest ih =>
      rcases hdeal : link.deal ask world with ⟨⟨dealing, middle⟩, between⟩
      rcases hrest : middle.deals rest between with ⟨⟨dealings', after'⟩, last'⟩
      simp only [deals, bind, StateT.bind, hdeal, hrest] at h
      cases h
      rcases deal_conserves honest hdeal with ⟨hask, part, hpart, hfirst⟩
      rcases ih hrest with ⟨hasks, parts, hparts, hafter⟩
      refine ⟨?_, part :: parts, .cons hpart hparts, ?_⟩
      · rw [List.map_cons, hask, hasks]
      · rw [hafter, hfirst, List.append_assoc, List.flatten_cons]

/-- An accepted payload lies in one piece in all that was contributed. -/
theorem isInfix_of_accepted {dealings : List Dealing} {parts : List (List UInt8)}
    (h : List.Forall₂ Contributes dealings parts) {payload : List UInt8}
    (haccepted : .send payload (.ok ()) ∈ dealings) : payload <:+: parts.flatten := by
  -- The payload is the first part or lies in the others.
  induction h with
  | nil => exact nomatch haccepted
  | @cons _ part _ parts hpart _ ih =>
      rw [List.flatten_cons]
      cases haccepted with
      | head =>
          cases hpart
          exact ⟨[], parts.flatten, rfl⟩
      | tail _ hlater => exact (ih hlater).trans (List.suffix_append part _).isInfix

/-- Whatever is asked of a new link, and however the channel answers, the wire
    with the backlog behind it has grown by what the sends contributed, in
    their order. In particular an accepted payload is there in one piece. -/
theorem wire_append_backlog (honest : Channel.Honest wire) (channel : κ) (asks : List Ask)
    (world last : ω) (dealings : List Dealing) (link : SerialLink κ)
    (h : (ofChannel channel).deals asks world = ((dealings, link), last)) :
    dealings.map Dealing.ask = asks ∧
      (∃ parts, List.Forall₂ Contributes dealings parts ∧
        wire link.channel last ++ link.backlog.toList = wire channel world ++ parts.flatten) ∧
      ∀ payload, .send payload (.ok ()) ∈ dealings →
        payload <:+: wire link.channel last ++ link.backlog.toList := by
  rcases deals_conserves honest h with ⟨hasks, parts, hparts, hall⟩
  have hnew : wire (ofChannel channel).channel world ++
      (ofChannel channel).backlog.toList = wire channel world := by
    rw [ofChannel, RingBuffer.toList_empty, List.append_nil]
  rw [hnew] at hall
  refine ⟨hasks, ⟨parts, hparts, hall⟩, fun payload haccepted => ?_⟩
  rw [hall]
  exact (isInfix_of_accepted hparts haccepted).trans (List.suffix_append _ _).isInfix

/-- A payload that comes out in two pieces with a fault between them, one that
    is cut off, and one that still waits in part. -/
theorem wire_append_backlog_scripted :
    let asks : List Ask :=
      [.send [1, 2, 3], .send [4], .poll, .send [5, 6, 7], .receive [0], .send [8, 9], .send [10]]
    let run := (ofChannel (ScriptedChannel.mk
      [some 2, some 0, none, some 1, some 2, none, some 1] [])).deals asks ()
    run.1.1 = [.send [1, 2, 3] (.ok ()), .send [4] (.error .io), .poll (.ok ()),
        .send [5, 6, 7] (.error .io), .receive [0] Fill.nothing, .send [8, 9] (.ok ()),
        .send [10] (.error .busy)] ∧
      run.1.2.channel.written = [1, 2, 3, 5, 6, 8] ∧ run.1.2.backlog.toList = [9] ∧
      run.1.1.map Dealing.ask = asks ∧
      (∃ parts, List.Forall₂ Contributes run.1.1 parts ∧
        run.1.2.channel.written ++ run.1.2.backlog.toList = [] ++ parts.flatten) ∧
      ∀ payload, .send payload (.ok ()) ∈ run.1.1 →
        payload <:+: run.1.2.channel.written ++ run.1.2.backlog.toList := by
  refine ⟨by decide +kernel, by decide +kernel, by decide +kernel, ?_⟩
  generalize hrun : deals (κ := ScriptedChannel) _ _ () = run
  exact wire_append_backlog ScriptedChannel.honest _ _ () run.2 run.1.1 run.1.2 hrun

end SerialLink

end PacketRadio
