import PacketRadio.Buffer
import PacketRadio.Limits
import PacketRadio.Text

/-!
# Packets

The unit the driver hands to a packet transport: a header that says what the
packet means and how long its payload is, and a buffer of fixed size.

A packet is an append buffer. The declared length splits the buffer in two:
the bytes before it are the `payload`, the bytes from it on are the `spare`
that a producer may fill. Filling alone declares nothing; `advance` moves the
split, and it moves it at most to the end of the buffer. Starting over with
`reset` moves the split back to the front and leaves the bytes where they
are, so that what was payload becomes visible as spare again.

Two packets are equal when their headers agree and their whole buffers do,
the bytes past the declared length included.

## Main definitions

* `Packet.Kind`, `Packet.Header`, `Packet`: A packet and its parts.
* `Packet.payload`, `Packet.spare`: The two sides of the buffer.
* `Packet.blank`, `Packet.ofPayload`: The packets to start from.
* `Packet.reset`, `Packet.fill`, `Packet.advance`: The operations.
* `Packet.absorb`: Filling and advancing in one, as a producer left it.

## Theorems

* `Packet.length_add_remaining`: Payload and spare make up the buffer.
* `Packet.payload_append_spare`: So do their bytes.
* `Packet.payload_reset`, `Packet.spare_reset`: Starting over shows all bytes.
* `Packet.payload_fill`, `Packet.spare_fill`: Filling touches the spare only.
* `Packet.payload_advance`: Advancing turns spare bytes into payload.
* `Packet.payload_absorb`: A producer's contribution is what its claim covers.
* `Packet.payload_ofPayload`: A packet holds what it was built from, as far
  as that fits.
-/

namespace PacketRadio

namespace Packet

/-- What a packet means. -/
inductive Kind where
  | unused
  | connect
  | disconnect
  | data
  | status
  | ack
  | nack
deriving DecidableEq

namespace Kind

/-- Every kind, by rising code. -/
def all : List Kind := [.unused, .connect, .disconnect, .data, .status, .ack, .nack]

/-- The number a kind has in a header. -/
def code : Kind → UInt8
  | .unused => 0
  | .connect => 1
  | .disconnect => 2
  | .data => 5
  | .status => 7
  | .ack => 8
  | .nack => 9

/-- The name of a kind. -/
def name : Kind → String
  | .unused => "None"
  | .connect => "Connect"
  | .disconnect => "Disconnect"
  | .data => "Data"
  | .status => "Status"
  | .ack => "Ack"
  | .nack => "Nack"

/-- The kind that bears a name. -/
def ofName? (name : String) : Option Kind :=
  all.find? fun kind => kind.name = name

end Kind

/-- What is said about a packet in front of its payload. -/
structure Header where
  kind : Kind
  dataSize : UInt8
deriving DecidableEq

end Packet

/-- A header and a buffer, of which the header declares a front part. -/
structure Packet where
  header : Packet.Header
  /-- The bytes, declared and spare. -/
  buffer : Vector UInt8 maxPayload
  -- No more is declared than there is.
  dataSize_le : header.dataSize.toNat ≤ maxPayload
deriving DecidableEq

namespace Packet

/-- What a packet means. -/
def kind (packet : Packet) : Kind := packet.header.kind

/-- The declared length of the payload. -/
def length (packet : Packet) : Nat := packet.header.dataSize.toNat

/-- A packet without payload. -/
def isEmpty (packet : Packet) : Bool := packet.length = 0

/-- A packet without spare. -/
def isFull (packet : Packet) : Bool := maxPayload ≤ packet.length

/-- The number of spare bytes. -/
def remaining (packet : Packet) : Nat := maxPayload - packet.length

/-- The declared bytes. -/
def payload (packet : Packet) : List UInt8 := packet.buffer.toList.take packet.length

/-- The bytes behind the declared ones, free to be filled. -/
def spare (packet : Packet) : List UInt8 := packet.buffer.toList.drop packet.length

/-- An unused packet: nothing declared, and a buffer of zeros. -/
def blank : Packet :=
  ⟨⟨.unused, 0⟩, Vector.replicate maxPayload 0, by decide⟩

instance : Inhabited Packet := ⟨blank⟩

/-- Start over as an empty packet of the given kind. The bytes stay. -/
def reset (packet : Packet) (kind : Kind) : Packet :=
  ⟨⟨kind, 0⟩, packet.buffer, Nat.zero_le _⟩

theorem length_le (packet : Packet) : packet.length ≤ maxPayload := packet.dataSize_le

theorem length_add_remaining (packet : Packet) :
    packet.length + packet.remaining = maxPayload :=
  Nat.add_sub_of_le packet.length_le

@[simp] theorem length_payload (packet : Packet) : packet.payload.length = packet.length := by
  have h := packet.length_le
  simp only [payload, List.length_take, Vector.length_toList]
  omega

@[simp] theorem length_spare (packet : Packet) : packet.spare.length = packet.remaining := by
  simp only [spare, remaining, List.length_drop, Vector.length_toList]

theorem payload_append_spare (packet : Packet) :
    packet.payload ++ packet.spare = packet.buffer.toList :=
  List.take_append_drop _ _

/-- The buffer with other bytes in its spare. -/
theorem length_refilled (packet : Packet) (written : List UInt8) :
    (packet.payload ++ overlay packet.spare written).toArray.size = maxPayload := by
  rw [List.size_toArray, List.length_append, length_overlay, length_payload, length_spare,
    length_add_remaining]

/-- Put bytes at the start of the spare, as many as fit. Nothing is declared
    by that. -/
def fill (packet : Packet) (written : List UInt8) : Packet :=
  ⟨packet.header, ⟨(packet.payload ++ overlay packet.spare written).toArray,
    packet.length_refilled written⟩, packet.dataSize_le⟩

/-- A declared length that was moved within the spare is still one byte. -/
theorem toNat_ofNat_advanced (packet : Packet) (count : Nat) :
    (UInt8.ofNat (packet.length + min count packet.remaining)).toNat =
      packet.length + min count packet.remaining := by
  have h := packet.length_add_remaining
  have hmax := maxPayload_eq
  rw [UInt8.toNat_ofNat']
  exact Nat.mod_eq_of_lt (by omega)

/-- Declare more of the buffer, at most all of it. The answer is the number of
    bytes by which the payload grew. -/
def advance (packet : Packet) (count : Nat) : Nat × Packet :=
  (min count packet.remaining,
    ⟨⟨packet.kind, UInt8.ofNat (packet.length + min count packet.remaining)⟩, packet.buffer, by
      have h := packet.length_add_remaining
      show (UInt8.ofNat (packet.length + min count packet.remaining)).toNat ≤ maxPayload
      rw [toNat_ofNat_advanced]
      omega⟩)

/-- Take what a producer left in the spare and declare what it claims. -/
def absorb (packet : Packet) (fill : Fill) : Packet :=
  ((packet.fill fill.written).advance fill.count).2

/-- A packet of the given kind that holds the given bytes, as many as fit. -/
def ofPayload (kind : Kind) (bytes : List UInt8) : Packet :=
  (blank.reset kind).absorb ⟨bytes, bytes.length⟩

/-- A header shown field by field. -/
def Header.describe (header : Header) : String :=
  Text.record "PacketHeader"
    [("packet_type", header.kind.name), ("data_size", toString header.dataSize.toNat)]

/-- A packet shown with its header and its declared bytes. -/
def describe (packet : Packet) : String :=
  Text.record "Packet"
    [("header", packet.header.describe),
      ("payload", Text.list (packet.payload.map fun byte => toString byte.toNat))]

@[simp] theorem length_blank : blank.length = 0 := rfl

@[simp] theorem kind_reset (packet : Packet) (kind : Kind) :
    (packet.reset kind).kind = kind := rfl

@[simp] theorem length_reset (packet : Packet) (kind : Kind) :
    (packet.reset kind).length = 0 := rfl

@[simp] theorem payload_reset (packet : Packet) (kind : Kind) :
    (packet.reset kind).payload = [] := List.take_zero

@[simp] theorem spare_reset (packet : Packet) (kind : Kind) :
    (packet.reset kind).spare = packet.buffer.toList := List.drop_zero

@[simp] theorem kind_fill (packet : Packet) (written : List UInt8) :
    (packet.fill written).kind = packet.kind := rfl

@[simp] theorem length_fill (packet : Packet) (written : List UInt8) :
    (packet.fill written).length = packet.length := rfl

@[simp] theorem remaining_fill (packet : Packet) (written : List UInt8) :
    (packet.fill written).remaining = packet.remaining := rfl

theorem toList_buffer_fill (packet : Packet) (written : List UInt8) :
    (packet.fill written).buffer.toList = packet.payload ++ overlay packet.spare written := rfl

@[simp] theorem payload_fill (packet : Packet) (written : List UInt8) :
    (packet.fill written).payload = packet.payload := by
  rw [payload, toList_buffer_fill, length_fill]
  exact List.take_left' packet.length_payload

@[simp] theorem spare_fill (packet : Packet) (written : List UInt8) :
    (packet.fill written).spare = overlay packet.spare written := by
  rw [spare, toList_buffer_fill, length_fill]
  exact List.drop_left' packet.length_payload

@[simp] theorem kind_advance (packet : Packet) (count : Nat) :
    (packet.advance count).2.kind = packet.kind := rfl

@[simp] theorem length_advance (packet : Packet) (count : Nat) :
    (packet.advance count).2.length = packet.length + min count packet.remaining :=
  packet.toNat_ofNat_advanced count

@[simp] theorem payload_advance (packet : Packet) (count : Nat) :
    (packet.advance count).2.payload = packet.payload ++ packet.spare.take count := by
  show packet.buffer.toList.take (packet.advance count).2.length = _
  rw [length_advance, List.take_add]
  show packet.payload ++ packet.spare.take (min count packet.remaining) = _
  rw [← length_spare, ← List.take_eq_take_min]

@[simp] theorem kind_absorb (packet : Packet) (fill : Fill) :
    (packet.absorb fill).kind = packet.kind := rfl

@[simp] theorem payload_absorb (packet : Packet) (fill : Fill) :
    (packet.absorb fill).payload = packet.payload ++ fill.claimed packet.spare := by
  rw [absorb, payload_advance, payload_fill, spare_fill]
  rfl

@[simp] theorem length_absorb (packet : Packet) (fill : Fill) :
    (packet.absorb fill).length = packet.length + min fill.count packet.remaining := by
  rw [absorb, length_advance, length_fill, remaining_fill]

theorem payload_ofPayload (kind : Kind) (bytes : List UInt8) :
    (ofPayload kind bytes).payload = bytes.take maxPayload := by
  rw [ofPayload, payload_absorb, payload_reset, List.nil_append]
  have hlen : (blank.reset kind).spare.length = maxPayload := by
    rw [length_spare]
    rfl
  rw [Fill.claimed, Fill.contents, overlay, hlen]
  rcases Nat.le_total bytes.length maxPayload with hfits | hlong
  · -- Everything fits, and the claim stops where the bytes do.
    rw [List.take_of_length_le hfits, List.take_left]
  · -- The bytes fill the buffer, and nothing is left behind them.
    rw [List.drop_eq_nil_of_le (by rw [hlen]; exact hlong), List.append_nil,
      List.take_take, Nat.min_eq_right hlong]

end Packet

end PacketRadio
