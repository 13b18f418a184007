import Mathlib.Logic.Function.Basic
import PacketRadio.Packet

/-!
# Packets as Append Buffers

What can be done with packets, and what comes of it, without buffers and words.

A packet keeps its length in one byte and its bytes in a buffer of a fixed size, and
both are there whether or not anybody looks at them. What can be seen is a kind and
two lists: the payload, and the spare that a producer may write into. A `Strip` is
that and nothing more. To write changes the spare, to advance moves its first bytes
to the payload, and to start over moves the payload back in front of the spare. The
operations of a strip are these sentences, and no length is bounded in them.

That packets do the same is a statement about all ways of using them. A bench holds
any number of buffers, which are built, copied, and worked on one at a time, and what
happens on it is a list of steps. Whether the bench holds packets or strips is left
open (`AppendBuffer`), so the steps are defined once, and a view that respects the
five operations respects every run (`AppendBuffer.Respects.run`). The view of a packet
as a strip does (`Packet.respects_strip`). It also loses nothing, because the spare
shows every byte that the payload does not (`Packet.strip_injective`).

## Main definitions

* `AppendBuffer`: The operations, whatever they work on.
* `AppendBuffer.Work`, `AppendBuffer.Step`, `AppendBuffer.run`: What is done with one buffer,
  and what happens on a bench.
* `AppendBuffer.Respects`: A view under which the operations are the same.
* `Packet.write`: Writing anywhere into the spare.
* `Packet.Strip`, `Packet.strip`: A packet as it is seen.

## Theorems

* `AppendBuffer.Respects.run`: A view that respects the operations respects runs.
* `Packet.spare_write`, `Packet.spare_advance`, `Packet.spare_ofPayload`: What the
  operations do to the spare.
* `Packet.strip_injective`: Packets that are seen alike are equal.
* `Packet.append_buffer`: Packets are bounded append buffers.
-/

namespace PacketRadio

/-- A kind of buffer that bytes can be appended to. -/
class AppendBuffer (β : Type) where
  blank : β
  ofPayload : Packet.Kind → List UInt8 → β
  /-- Start over with another kind. -/
  reset : β → Packet.Kind → β
  /-- Write bytes into the spare, some way behind its start. -/
  write : β → Nat → List UInt8 → β
  /-- Take bytes of the spare to the payload. The answer is how many there were. -/
  advance : β → Nat → Nat × β

namespace AppendBuffer

/-- What can be done with a buffer. -/
inductive Work where
  | reset (kind : Packet.Kind)
  | write (offset : Nat) (bytes : List UInt8)
  | advance (count : Nat)

/-- Something that happens on a bench with buffers. -/
inductive Step where
  | blank
  | ofPayload (kind : Packet.Kind) (bytes : List UInt8)
  -- A copy goes to the end of the bench, like any other new buffer.
  | clone (place : Nat)
  | edit (place : Nat) (work : Work)

variable {α β : Type} [AppendBuffer α] [AppendBuffer β]

/-- Work on a buffer. Only advancing it has an answer. -/
def perform (buffer : β) : Work → Option Nat × β
  | .reset kind => (none, reset buffer kind)
  | .write offset bytes => (none, write buffer offset bytes)
  | .advance count => Prod.map some id (advance buffer count)

/-- Take a step. Where no buffer lies, nothing happens. -/
def Step.take (bench : List β) : Step → Option Nat × List β
  | .blank => (none, bench ++ [AppendBuffer.blank])
  | .ofPayload kind bytes => (none, bench ++ [AppendBuffer.ofPayload kind bytes])
  | .clone place => (none, bench ++ bench[place]?.toList)
  | .edit place work =>
    (bench[place]?.bind fun buffer => (perform buffer work).1,
      bench.modify place fun buffer => (perform buffer work).2)

/-- Take steps one after another. The answers come in their order. -/
def run (bench : List β) : List Step → List (Option Nat) × List β
  | [] => ([], bench)
  | step :: rest =>
    let (answer, bench) := step.take bench
    let (answers, bench) := run bench rest
    (answer :: answers, bench)

/-- Seen in this way, the operations of one kind of buffer are those of another. -/
structure Respects (view : α → β) : Prop where
  blank : view blank = blank
  ofPayload (kind : Packet.Kind) (bytes : List UInt8) :
    view (ofPayload kind bytes) = ofPayload kind bytes
  reset (buffer : α) (kind : Packet.Kind) : view (reset buffer kind) = reset (view buffer) kind
  write (buffer : α) (offset : Nat) (bytes : List UInt8) :
    view (write buffer offset bytes) = write (view buffer) offset bytes
  advance (buffer : α) (count : Nat) :
    Prod.map id view (advance buffer count) = advance (view buffer) count

namespace Respects

variable {view : α → β}

omit [AppendBuffer α] [AppendBuffer β] in
/-- To change one buffer and to look at all is to look and then to change. -/
theorem map_modify {change : α → α} {change' : β → β}
    (h : ∀ buffer, view (change buffer) = change' (view buffer)) (bench : List α) (place : Nat) :
    (bench.modify place change).map view = (bench.map view).modify place change' := by
  induction bench generalizing place with
  | nil => simp only [List.modify_nil, List.map_nil]
  | cons first rest ih =>
      cases place with
      | zero => simp only [List.modify_zero_cons, List.map_cons, h]
      | succ place => simp only [List.modify_succ_cons, List.map_cons, ih]

theorem perform (h : Respects view) (buffer : α) (work : Work) :
    Prod.map id view (perform buffer work) = AppendBuffer.perform (view buffer) work := by
  cases work with
  | reset kind => exact congrArg (Prod.mk none) (h.reset buffer kind)
  | write offset bytes => exact congrArg (Prod.mk none) (h.write buffer offset bytes)
  | advance count => exact congrArg (Prod.map some id) (h.advance buffer count)

theorem take (h : Respects view) (bench : List α) (step : Step) :
    Prod.map id (List.map view) (step.take bench) = step.take (bench.map view) := by
  cases step with
  | blank =>
      refine Prod.ext rfl ?_
      show (bench ++ [_]).map view = bench.map view ++ [_]
      rw [List.map_append, List.map_singleton, h.blank]
  | ofPayload kind bytes =>
      refine Prod.ext rfl ?_
      show (bench ++ [_]).map view = bench.map view ++ [_]
      rw [List.map_append, List.map_singleton, h.ofPayload]
  | clone place =>
      refine Prod.ext rfl ?_
      show (bench ++ bench[place]?.toList).map view =
        bench.map view ++ (bench.map view)[place]?.toList
      rw [List.map_append, List.getElem?_map, Option.toList_map]
  | edit place work =>
      have hwork (buffer : α) := h.perform buffer work
      refine Prod.ext ?_ (map_modify (fun buffer => congrArg Prod.snd (hwork buffer)) bench place)
      show (bench[place]?.bind fun buffer => (AppendBuffer.perform buffer work).1) =
        (bench.map view)[place]?.bind fun buffer => (AppendBuffer.perform buffer work).1
      rw [List.getElem?_map, Option.bind_map]
      exact congrArg _ (funext fun buffer => congrArg Prod.fst (hwork buffer))

/-- Seen in this way, every run is the same. -/
theorem run (h : Respects view) (bench : List α) (steps : List Step) :
    Prod.map id (List.map view) (AppendBuffer.run bench steps) =
      AppendBuffer.run (bench.map view) steps := by
  induction steps generalizing bench with
  | nil => rfl
  | cons step rest ih =>
      simp only [AppendBuffer.run]
      -- The step is moved in front of the view, and the rest starts from where it leads.
      rw [← h.take bench step, Prod.map_snd, ← ih]
      rfl

end Respects

end AppendBuffer

/-- To put bytes some way behind the start of a buffer is to put them back there
    together with what was in front of them. -/
theorem overlay_take_append (buffer written : List UInt8) (offset : Nat) :
    overlay buffer (buffer.take offset ++ written) =
      buffer.take offset ++ overlay (buffer.drop offset) written := by
  rw [overlay, overlay, List.take_append, List.take_take, List.length_append, List.length_take,
    List.length_drop, List.drop_drop, List.append_assoc]
  -- Behind the end of the buffer there is nothing to write to, on either side.
  rcases Nat.le_total offset buffer.length with hin | hout
  · rw [Nat.min_eq_left hin, Nat.min_eq_right hin]
  · rw [Nat.min_eq_right hout, Nat.min_eq_left hout, Nat.sub_self, Nat.sub_eq_zero_of_le hout,
      List.take_of_length_le hout, List.take_length, List.drop_eq_nil_of_le (by omega),
      List.drop_eq_nil_of_le (by omega)]

namespace Packet

/-- Write bytes into the spare, some way behind its start, as many as fit. What is
    in front of them is put back as it was. -/
def write (packet : Packet) (offset : Nat) (bytes : List UInt8) : Packet :=
  packet.fill (packet.spare.take offset ++ bytes)

theorem payload_write (packet : Packet) (offset : Nat) (bytes : List UInt8) :
    (packet.write offset bytes).payload = packet.payload :=
  packet.payload_fill _

theorem spare_write (packet : Packet) (offset : Nat) (bytes : List UInt8) :
    (packet.write offset bytes).spare =
      packet.spare.take offset ++ overlay (packet.spare.drop offset) bytes := by
  rw [write, spare_fill, overlay_take_append]

/-- What becomes payload is spare no longer. -/
theorem spare_advance (packet : Packet) (count : Nat) :
    (packet.advance count).2.spare = packet.spare.drop (min count packet.remaining) := by
  show packet.buffer.toList.drop (packet.advance count).2.length = _
  rw [length_advance, spare, List.drop_drop]

theorem kind_ofPayload (kind : Kind) (bytes : List UInt8) :
    (ofPayload kind bytes).kind = kind :=
  kind_absorb _ _

theorem spare_blank : blank.spare = List.replicate maxPayload 0 := by
  rw [spare, length_blank, List.drop_zero, blank, Vector.toList_replicate]

/-- Behind the bytes that a packet is built from there are zeros. -/
theorem spare_ofPayload (kind : Kind) (bytes : List UInt8) :
    (ofPayload kind bytes).spare = List.replicate (maxPayload - bytes.length) 0 := by
  have hzeros : (blank.reset kind).spare = List.replicate maxPayload 0 := spare_blank
  have hroom : ((blank.reset kind).fill bytes).remaining = maxPayload := rfl
  have hfront : (bytes.take maxPayload).length = min bytes.length maxPayload := by
    rw [List.length_take, Nat.min_comm]
  rw [ofPayload, absorb, spare_advance, spare_fill, hzeros, hroom, overlay,
    List.length_replicate, List.drop_left' hfront, List.drop_replicate]

/-- A packet as it is seen: its kind, and two lists of bytes. -/
@[ext] structure Strip where
  kind : Kind
  payload : List UInt8
  spare : List UInt8
deriving DecidableEq

namespace Strip

/-- The operations of a packet, on lists. -/
instance : AppendBuffer Strip where
  blank := ⟨.unused, [], List.replicate maxPayload 0⟩
  -- What is too long is cut, and what is too short is followed by zeros.
  ofPayload kind bytes :=
    ⟨kind, bytes.take maxPayload, List.replicate (maxPayload - bytes.length) 0⟩
  reset strip kind := ⟨kind, [], strip.payload ++ strip.spare⟩
  write strip offset bytes :=
    { strip with spare := strip.spare.take offset ++ overlay (strip.spare.drop offset) bytes }
  advance strip count :=
    let grown := min count strip.spare.length
    (grown, ⟨strip.kind, strip.payload ++ strip.spare.take grown, strip.spare.drop grown⟩)

end Strip

instance : AppendBuffer Packet where
  blank := blank
  ofPayload := ofPayload
  reset := reset
  write := write
  advance := advance

/-- What can be seen of a packet. -/
def strip (packet : Packet) : Strip := ⟨packet.kind, packet.payload, packet.spare⟩

/-- Packets that are seen alike are equal: no byte is hidden. -/
theorem strip_injective : Function.Injective strip := by
  intro packet other h
  have hkind : packet.kind = other.kind := congrArg Strip.kind h
  have hpayload : packet.payload = other.payload := congrArg Strip.payload h
  have hspare : packet.spare = other.spare := congrArg Strip.spare h
  -- The length is that of the payload, and payload and spare make up the buffer.
  have hlength : packet.length = other.length := by
    rw [← length_payload, hpayload, length_payload]
  have hbuffer : packet.buffer = other.buffer := by
    rw [← Vector.toList_inj, ← payload_append_spare, ← payload_append_spare, hpayload, hspare]
  have hsize : packet.header.dataSize = other.header.dataSize := UInt8.toNat.inj hlength
  rcases packet with ⟨⟨kind, size⟩, buffer, hle⟩
  rcases other with ⟨⟨kind', size'⟩, buffer', hle'⟩
  cases hkind
  cases hsize
  cases hbuffer
  rfl

/-- Packets are seen to do what strips do. -/
theorem respects_strip : AppendBuffer.Respects strip where
  blank := Strip.ext rfl rfl spare_blank
  ofPayload kind bytes :=
    Strip.ext (kind_ofPayload kind bytes) (payload_ofPayload kind bytes)
      (spare_ofPayload kind bytes)
  reset packet kind := by
    refine Strip.ext rfl (packet.payload_reset kind) ?_
    exact (packet.spare_reset kind).trans packet.payload_append_spare.symm
  write packet offset bytes :=
    Strip.ext rfl (packet.payload_write offset bytes) (packet.spare_write offset bytes)
  advance packet count := by
    have hgrown : min count packet.remaining = min count packet.strip.spare.length := by
      rw [strip, length_spare]
    refine Prod.ext hgrown (Strip.ext rfl ?_ ?_)
    · show (packet.advance count).2.payload = packet.payload ++ packet.spare.take _
      rw [payload_advance, List.take_eq_take_min]
      rfl
    · show (packet.advance count).2.spare = packet.spare.drop _
      rw [spare_advance, hgrown]

/-- There is no spare left in a packet that is full. -/
theorem isFull_iff_remaining_eq_zero (packet : Packet) :
    packet.isFull = true ↔ packet.remaining = 0 := by
  rw [isFull, decide_eq_true_iff, remaining, Nat.sub_eq_zero_iff_le]

/-- Packets that are built from bytes are equal if these agree as far as they fit. -/
theorem ofPayload_eq_iff (kind kind' : Kind) (bytes bytes' : List UInt8) :
    ofPayload kind bytes = ofPayload kind' bytes' ↔
      kind = kind' ∧ bytes.take maxPayload = bytes'.take maxPayload := by
  constructor
  · intro h
    refine ⟨congrArg Packet.kind h, ?_⟩
    rw [← payload_ofPayload kind, ← payload_ofPayload kind', h]
  · rintro ⟨rfl, hbytes⟩
    -- Bytes that are cut alike leave as many zeros behind them.
    have hlength := congrArg List.length hbytes
    rw [List.length_take, List.length_take] at hlength
    refine strip_injective (Strip.ext ?_ ?_ ?_)
    · exact (kind_ofPayload kind bytes).trans (kind_ofPayload kind bytes').symm
    · show (ofPayload kind bytes).payload = (ofPayload kind bytes').payload
      rw [payload_ofPayload, payload_ofPayload, hbytes]
    · show (ofPayload kind bytes).spare = (ofPayload kind bytes').spare
      rw [spare_ofPayload, spare_ofPayload]
      congr 1
      omega

/-- Packets are bounded append buffers.

    Take any steps on a bench that is empty at first: packets are built, blank or from
    bytes, copied, started over, written into and advanced, by any counts. The answers
    are those of the same steps on strips, and so are the packets, as they are seen;
    and what is seen of a packet is all there is to it.

    A packet declares at most 248 bytes. Together with what remains it has 248, and the
    spare is what remains; it is full if nothing does. Advancing takes as many bytes as
    asked for, or all that remain, and takes them from the front of the spare to the end
    of the payload. Writing never changes the payload, and starting over shows all bytes
    as spare again. A packet that is built from bytes has the first 248 of them, with
    zeros behind, so two of them are equal if their kinds are and these bytes are. -/
theorem append_buffer (steps : List AppendBuffer.Step) :
    let (answers, packets) := AppendBuffer.run ([] : List Packet) steps
    let (expected, strips) := AppendBuffer.run ([] : List Strip) steps
    (answers = expected ∧ packets.map strip = strips) ∧
      (∀ packet other : Packet, packet = other ↔
        packet.kind = other.kind ∧ packet.payload = other.payload ∧
          packet.spare = other.spare) ∧
      (∀ packet : Packet, packet.length ≤ 248 ∧ packet.length + packet.remaining = 248 ∧
        packet.payload.length = packet.length ∧ packet.length + packet.spare.length = 248 ∧
        (packet.isFull = true ↔ packet.remaining = 0)) ∧
      (∀ (packet : Packet) (count : Nat),
        let grown := min count packet.remaining
        (packet.advance count).1 = grown ∧
          (packet.advance count).2.kind = packet.kind ∧
          (packet.advance count).2.payload = packet.payload ++ packet.spare.take grown ∧
          (packet.advance count).2.spare = packet.spare.drop grown) ∧
      (∀ (packet : Packet) (offset : Nat) (bytes : List UInt8),
        (packet.write offset bytes).kind = packet.kind ∧
          (packet.write offset bytes).payload = packet.payload ∧
          (packet.write offset bytes).spare =
            packet.spare.take offset ++ overlay (packet.spare.drop offset) bytes) ∧
      (∀ (packet : Packet) (kind : Kind),
        (packet.reset kind).kind = kind ∧ (packet.reset kind).payload = [] ∧
          (packet.reset kind).spare = packet.payload ++ packet.spare) ∧
      (∀ (kind : Kind) (bytes : List UInt8),
        (ofPayload kind bytes).kind = kind ∧
          (ofPayload kind bytes).payload = bytes.take 248 ∧
          (ofPayload kind bytes).spare = List.replicate (248 - bytes.length) 0) ∧
      ∀ (kind kind' : Kind) (bytes bytes' : List UInt8),
        ofPayload kind bytes = ofPayload kind' bytes' ↔
          kind = kind' ∧ bytes.take 248 = bytes'.take 248 := by
  have hrun := respects_strip.run [] steps
  refine ⟨⟨congrArg Prod.fst hrun, congrArg Prod.snd hrun⟩, fun packet other => ?_,
    fun packet => ?_, fun packet count => ?_, fun packet offset bytes => ?_,
    fun packet kind => ?_, fun kind bytes => ?_, ofPayload_eq_iff⟩
  · rw [← strip_injective.eq_iff, Strip.ext_iff]
    rfl
  · have hroom := packet.length_add_remaining
    refine ⟨packet.length_le, hroom, packet.length_payload, ?_,
      packet.isFull_iff_remaining_eq_zero⟩
    rw [length_spare]
    exact hroom
  · refine ⟨rfl, rfl, ?_, packet.spare_advance count⟩
    rw [payload_advance, List.take_eq_take_min, length_spare]
  · exact ⟨rfl, packet.payload_write offset bytes, packet.spare_write offset bytes⟩
  · refine ⟨rfl, packet.payload_reset kind, ?_⟩
    rw [spare_reset, payload_append_spare]
  · exact ⟨kind_ofPayload kind bytes, payload_ofPayload kind bytes, spare_ofPayload kind bytes⟩

/-- Bytes survive a new start, also in a copy, and can be declared again. -/
example :
    let (answers, packets) := AppendBuffer.run ([] : List Packet)
      [.ofPayload .data [1, 2, 3], .clone 0, .edit 1 (.reset .status), .edit 1 (.write 1 [9]),
        .edit 1 (.advance 2), .edit 0 (.advance 1000)]
    answers = [none, none, none, none, some 2, some 245] ∧
      packets.map Packet.length = [248, 2] ∧ (packets.map Packet.payload)[1]? = some [1, 9] := by
  decide +kernel

end Packet

end PacketRadio
