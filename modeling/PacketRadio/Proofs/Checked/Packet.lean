import PacketRadio.Packet
import PacketRadio.Proofs.Checked.Fault

/-!
# Checked Packets

The operations of a packet, with every slice and every word they go through.

A packet in memory is a header and a buffer. The header declares a length in one
byte, and a byte can say more than a buffer of `maxPayload` bytes has. A
`RawPacket` is that much and no more. On it, to look at the payload, to look at
the spare and to ask for the remaining room are steps that need not have an
answer: all three have one as long as no more is declared than there is, and none
of them has one beyond that (`RawPacket.isOk_payload` and the lemmas next to it).

Nobody makes a raw packet up. Whoever has one got it from the operations, by
starting from a blank packet or from some bytes, starting over, filling the spare
and advancing (`RawPacket.Built`). These are the packets that declare no more
than there is (`RawPacket.built_iff`), which is to say that they are the packets
of this library, whose type asks for that bound. On those every operation has an
answer, and it is the one the operation of the same name gives
(`Packet.unfailing`). A producer's claim is where this could fail, since it may be
any number. It is cut to the remaining room before it is added to the length, and
the sum then fits the byte of the header.

## Main definitions

* `RawPacket`: A header and a buffer.
* `RawPacket.remaining`, `RawPacket.payload`, `RawPacket.spare`: Looking at it.
* `RawPacket.fill`, `RawPacket.advance`, `RawPacket.place`,
  `RawPacket.ofPayload`: Changing it and building it.
* `RawPacket.Built`: Packets that come from the operations.
* `Packet.raw`, `RawPacket.toPacket`: A packet as it lies in memory, and back.
* `Packet.Unfailing`: The operations have answers.

## Theorems

* `RawPacket.isOk_payload`, `RawPacket.isOk_spare`, `RawPacket.isOk_remaining`:
  Where a packet can be looked at.
* `Packet.unfailing`: Every operation of a packet has an answer.
* `Packet.ofPayload_raw`: So has building one from bytes.
* `RawPacket.built_iff`: The operations build packets, and they build all of them.
-/

namespace PacketRadio

/-- A header and a buffer, whatever the header declares. -/
@[ext] structure RawPacket where
  header : Packet.Header
  buffer : Vector UInt8 maxPayload

namespace RawPacket

/-- The declared length. -/
def length (raw : RawPacket) : Nat := raw.header.dataSize.toNat

/-- An unused packet. -/
def blank : RawPacket := ⟨⟨.unused, 0⟩, Vector.replicate maxPayload 0⟩

/-- Start over as an empty packet of the given kind. -/
def reset (raw : RawPacket) (kind : Packet.Kind) : RawPacket := ⟨⟨kind, 0⟩, raw.buffer⟩

/-- The number of bytes that are not declared. -/
def remaining (raw : RawPacket) : Except Fault Nat := Checked.sub maxPayload raw.length

/-- The declared bytes. -/
def payload (raw : RawPacket) : Except Fault (List UInt8) :=
  Checked.front raw.buffer.toList raw.length

/-- The bytes behind the declared ones. -/
def spare (raw : RawPacket) : Except Fault (List UInt8) :=
  Checked.behind raw.buffer.toList raw.length

/-- A buffer out of as many bytes as a buffer has. -/
def frame (bytes : List UInt8) : Except Fault (Vector UInt8 maxPayload) :=
  if h : bytes.toArray.size = maxPayload then .ok ⟨bytes.toArray, h⟩ else .error .outOfRange

/-- Put bytes at the start of the spare, as many as fit. -/
def fill (raw : RawPacket) (written : List UInt8) : Except Fault RawPacket := do
  let spare ← raw.spare
  let buffer ← frame (raw.buffer.toList.take raw.length ++ overlay spare written)
  return { raw with buffer }

/-- Declare more of the buffer. The answer is by how much the payload grew. -/
def advance (raw : RawPacket) (count : Nat) : Except Fault (Nat × RawPacket) := do
  let room ← raw.remaining
  let declared ← Checked.add Checked.maxLength raw.length (min count room)
  let declared ← Checked.narrow Checked.maxByte declared
  return (min count room, ⟨⟨raw.header.kind, UInt8.ofNat declared⟩, raw.buffer⟩)

/-- Copy the first bytes of a slice to the front of the buffer. -/
def place (raw : RawPacket) (bytes : List UInt8) (count : Nat) : Except Fault RawPacket := do
  let target ← Checked.front raw.buffer.toList count
  let source ← Checked.front bytes count
  let copied ← Checked.copy target source
  let buffer ← frame (copied ++ raw.buffer.toList.drop count)
  return { raw with buffer }

/-- A packet of the given kind with the given bytes, as many as fit. -/
def ofPayload (kind : Packet.Kind) (bytes : List UInt8) : Except Fault RawPacket := do
  let raw ← (blank.reset kind).place bytes (min bytes.length maxPayload)
  let (_, raw) ← raw.advance (min bytes.length maxPayload)
  return raw

/-- The packet that a raw packet is. It is kept only if it is one. -/
def toPacket (raw : RawPacket) : Except Fault Packet :=
  if h : raw.length ≤ maxPayload then .ok ⟨raw.header, raw.buffer, h⟩ else .error .outOfRange

/-- Packets that come from the operations. -/
inductive Built : RawPacket → Prop where
  | blank : Built blank
  | ofPayload {kind : Packet.Kind} {bytes : List UInt8} {raw : RawPacket} :
      ofPayload kind bytes = .ok raw → Built raw
  | reset {raw : RawPacket} (kind : Packet.Kind) : Built raw → Built (raw.reset kind)
  | fill {raw after : RawPacket} {written : List UInt8} :
      Built raw → raw.fill written = .ok after → Built after
  | advance {raw after : RawPacket} {count taken : Nat} :
      Built raw → raw.advance count = .ok (taken, after) → Built after

theorem isOk_remaining (raw : RawPacket) :
    raw.remaining.isOk = true ↔ raw.length ≤ maxPayload :=
  Checked.isOk_sub _ _

theorem isOk_payload (raw : RawPacket) : raw.payload.isOk = true ↔ raw.length ≤ maxPayload := by
  rw [payload, Checked.isOk_front, Vector.length_toList]

theorem isOk_spare (raw : RawPacket) : raw.spare.isOk = true ↔ raw.length ≤ maxPayload := by
  rw [spare, Checked.isOk_behind, Vector.length_toList]

theorem frame_toList (buffer : Vector UInt8 maxPayload) : frame buffer.toList = .ok buffer :=
  dif_pos buffer.size_toArray

end RawPacket

namespace Packet

/-- A packet as it lies in memory. -/
def raw (packet : Packet) : RawPacket := ⟨packet.header, packet.buffer⟩

@[simp] theorem length_raw (packet : Packet) : packet.raw.length = packet.length := rfl

@[simp] theorem raw_blank : blank.raw = RawPacket.blank := rfl

@[simp] theorem raw_reset (packet : Packet) (kind : Kind) :
    (packet.reset kind).raw = packet.raw.reset kind := rfl

theorem remaining_raw (packet : Packet) : packet.raw.remaining = .ok packet.remaining :=
  Checked.require_of packet.length_le _ _

theorem payload_raw (packet : Packet) : packet.raw.payload = .ok packet.payload := by
  refine Checked.require_of ?_ _ _
  rw [Vector.length_toList]
  exact packet.length_le

theorem spare_raw (packet : Packet) : packet.raw.spare = .ok packet.spare := by
  refine Checked.require_of ?_ _ _
  rw [Vector.length_toList]
  exact packet.length_le

theorem toPacket_raw (packet : Packet) : packet.raw.toPacket = .ok packet :=
  dif_pos packet.dataSize_le

theorem fill_raw (packet : Packet) (written : List UInt8) :
    packet.raw.fill written = .ok (packet.fill written).raw := by
  have hframe := RawPacket.frame_toList (packet.fill written).buffer
  rw [toList_buffer_fill] at hframe
  rw [RawPacket.fill, spare_raw, Checked.ok_bind]
  show (RawPacket.frame (packet.payload ++ overlay packet.spare written) >>= _) = _
  rw [hframe]
  rfl

/-- The claim of a producer is cut to the remaining room. With that the length
    grows to the whole buffer at the most, and that is still a byte. -/
theorem advance_raw (packet : Packet) (count : Nat) :
    packet.raw.advance count =
      .ok ((packet.advance count).1, (packet.advance count).2.raw) := by
  have hroom := packet.length_add_remaining
  have hmax := maxPayload_eq
  have hlength : Checked.maxLength = 65535 := rfl
  have hbyte : Checked.maxByte = 255 := rfl
  have hsum : Checked.add Checked.maxLength packet.raw.length (min count packet.remaining) =
      .ok (packet.length + min count packet.remaining) := by
    refine Checked.require_of ?_ _ _
    rw [length_raw]
    omega
  have hfits : Checked.narrow Checked.maxByte (packet.length + min count packet.remaining) =
      .ok (packet.length + min count packet.remaining) :=
    Checked.require_of (by omega) _ _
  rw [RawPacket.advance, remaining_raw, Checked.ok_bind, hsum, Checked.ok_bind, hfits]
  rfl

/-- Every operation of a packet has an answer, and it is the one that the
    operation without checks gives. -/
structure Unfailing (packet : Packet) : Prop where
  remaining : packet.raw.remaining = .ok packet.remaining
  payload : packet.raw.payload = .ok packet.payload
  spare : packet.raw.spare = .ok packet.spare
  fill (written : List UInt8) : packet.raw.fill written = .ok (packet.fill written).raw
  advance (count : Nat) :
    packet.raw.advance count = .ok ((packet.advance count).1, (packet.advance count).2.raw)

theorem unfailing (packet : Packet) : packet.Unfailing where
  remaining := packet.remaining_raw
  payload := packet.payload_raw
  spare := packet.spare_raw
  fill := packet.fill_raw
  advance := packet.advance_raw

/-- To copy what fits to the front of an empty packet is to fill it. -/
theorem place_raw (packet : Packet) (kind : Kind) (bytes : List UInt8) :
    (packet.reset kind).raw.place bytes (min bytes.length maxPayload) =
      .ok ((packet.reset kind).fill bytes).raw := by
  have hbuffer : (packet.reset kind).raw.buffer.toList = packet.buffer.toList := rfl
  have hlen : packet.buffer.toList.length = maxPayload := Vector.length_toList
  -- All three slices have the length that is copied.
  have htarget : Checked.front packet.buffer.toList (min bytes.length maxPayload) =
      .ok (packet.buffer.toList.take (min bytes.length maxPayload)) :=
    Checked.require_of (by omega) _ _
  have hsource : Checked.front bytes (min bytes.length maxPayload) =
      .ok (bytes.take (min bytes.length maxPayload)) :=
    Checked.require_of (by omega) _ _
  have hcopy : Checked.copy (packet.buffer.toList.take (min bytes.length maxPayload))
      (bytes.take (min bytes.length maxPayload)) =
        .ok (bytes.take (min bytes.length maxPayload)) := by
    refine Checked.require_of ?_ _ _
    rw [List.length_take, List.length_take, hlen]
    omega
  have hfilled : bytes.take (min bytes.length maxPayload) ++
      packet.buffer.toList.drop (min bytes.length maxPayload) =
        ((packet.reset kind).fill bytes).buffer.toList := by
    rw [toList_buffer_fill, payload_reset, spare_reset, List.nil_append, overlay, hlen]
    rcases Nat.le_total bytes.length maxPayload with hfits | hlong
    · rw [Nat.min_eq_left hfits, List.take_length, List.take_of_length_le hfits]
    · rw [Nat.min_eq_right hlong, List.drop_eq_nil_of_le (Nat.le_of_eq hlen),
        List.drop_eq_nil_of_le (by omega)]
  rw [RawPacket.place, hbuffer, htarget, Checked.ok_bind, hsource, Checked.ok_bind, hcopy,
    Checked.ok_bind, hfilled, RawPacket.frame_toList]
  rfl

/-- A claim beyond the buffer is worth as much as one for all of it. -/
theorem advance_min (packet : Packet) (count : Nat) :
    packet.advance (min count maxPayload) = packet.advance count := by
  have hroom := packet.length_add_remaining
  have hmin : min (min count maxPayload) packet.remaining = min count packet.remaining := by
    omega
  simp only [advance, hmin]

theorem ofPayload_raw (kind : Kind) (bytes : List UInt8) :
    RawPacket.ofPayload kind bytes = .ok (ofPayload kind bytes).raw := by
  rw [RawPacket.ofPayload, ← raw_blank, ← raw_reset, place_raw, Checked.ok_bind, advance_raw,
    advance_min]
  rfl

/-- Any packet is had by starting over, filling the whole buffer and advancing. -/
theorem raw_advance_fill (packet other : Packet) :
    (((other.reset packet.kind).fill packet.buffer.toList).advance packet.length).2.raw =
      packet.raw := by
  have hlen : packet.buffer.toList.length = maxPayload := Vector.length_toList
  have hother : other.buffer.toList.length = maxPayload := Vector.length_toList
  have hle := packet.length_le
  have hsize : UInt8.ofNat ((other.reset packet.kind).length +
      min packet.length (other.reset packet.kind).remaining) = packet.header.dataSize := by
    have hroom : (other.reset packet.kind).remaining = maxPayload := rfl
    rw [length_reset, hroom, Nat.zero_add, Nat.min_eq_left hle]
    exact UInt8.ofNat_toNat
  have hbuffer : ((other.reset packet.kind).fill packet.buffer.toList).buffer = packet.buffer := by
    refine Vector.toList_inj.1 ?_
    rw [toList_buffer_fill, payload_reset, spare_reset, List.nil_append, overlay, hother, hlen,
      List.take_of_length_le (Nat.le_of_eq hlen), List.drop_eq_nil_of_le (Nat.le_of_eq hother),
      List.append_nil]
  exact RawPacket.ext (congrArg (Header.mk packet.kind) hsize) hbuffer

end Packet

namespace RawPacket

/-- A packet that comes from the operations declares no more than it has. -/
theorem Built.exists_raw {raw : RawPacket} (h : raw.Built) :
    ∃ packet : Packet, packet.raw = raw := by
  induction h with
  | blank => exact ⟨.blank, rfl⟩
  | ofPayload h =>
      rw [Packet.ofPayload_raw] at h
      exact ⟨_, Except.ok.inj h⟩
  | reset kind _ ih =>
      obtain ⟨packet, rfl⟩ := ih
      exact ⟨packet.reset kind, rfl⟩
  | fill _ h ih =>
      obtain ⟨packet, rfl⟩ := ih
      rw [packet.fill_raw] at h
      exact ⟨_, Except.ok.inj h⟩
  | advance _ h ih =>
      obtain ⟨packet, rfl⟩ := ih
      rw [packet.advance_raw] at h
      exact ⟨_, congrArg Prod.snd (Except.ok.inj h)⟩

theorem built_raw (packet : Packet) : packet.raw.Built := by
  have hstart : (Packet.blank.reset packet.kind).raw.Built := .reset packet.kind .blank
  have hfill := hstart.fill (Packet.fill_raw _ packet.buffer.toList)
  have hdone := hfill.advance (Packet.advance_raw _ packet.length)
  rw [Packet.raw_advance_fill] at hdone
  exact hdone

theorem built_iff (raw : RawPacket) : raw.Built ↔ ∃ packet : Packet, packet.raw = raw := by
  constructor
  · exact Built.exists_raw
  · rintro ⟨packet, rfl⟩
    exact built_raw packet

end RawPacket

end PacketRadio
