/-!
# Offered buffers

Bytes enter the driver through buffers that it offers to somebody else: a
callback that supplies bytes to send, or a link that has received some. The
other side may write anything into the buffer and then claims a number of
bytes, and neither is under the driver's control.

What comes back is a `Fill`. The buffer keeps its length whatever was written
(`length_overlay`), and a claim beyond the buffer is worth the whole buffer
(`Fill.claimed`), so no answer of the other side can lead outside of it.

## Main definitions

* `overlay`: A buffer after something was written at its start.
* `Fill`: What the other side did with a buffer, and what it claims.
* `Fill.claimed`: The bytes of the buffer that are covered by the claim.

## Theorems

* `length_overlay`: Writing does not change a buffer's length.
* `take_overlay`: What was written and fits can be read back.
* `Fill.length_claimed`: A claim is worth no more than the buffer holds.
-/

namespace PacketRadio

/-- A buffer after `written` was put at its start. What does not fit is lost,
    and behind what was written the buffer is as it was. -/
def overlay (buffer written : List UInt8) : List UInt8 :=
  written.take buffer.length ++ buffer.drop written.length

@[simp] theorem length_overlay (buffer written : List UInt8) :
    (overlay buffer written).length = buffer.length := by
  simp only [overlay, List.length_append, List.length_take, List.length_drop]
  omega

theorem take_overlay (buffer written : List UInt8) {count : Nat}
    (hwritten : count ≤ written.length) (hbuffer : count ≤ buffer.length) :
    (overlay buffer written).take count = written.take count := by
  have hlen : count ≤ (written.take buffer.length).length := by
    rw [List.length_take]
    omega
  rw [overlay, List.take_append_of_le_length hlen, List.take_take, Nat.min_eq_left hbuffer]

/-- What somebody did with a buffer they were offered. -/
structure Fill where
  /-- The bytes written, from the start of the buffer on. -/
  written : List UInt8
  -- The number of bytes claimed, which need not be the number written.
  count : Nat
deriving DecidableEq

namespace Fill

/-- Nothing written and nothing claimed. -/
def nothing : Fill := ⟨[], 0⟩

/-- The offered buffer as it was left. -/
def contents (fill : Fill) (buffer : List UInt8) : List UInt8 :=
  overlay buffer fill.written

/-- The bytes the claim covers, at most the whole buffer. -/
def claimed (fill : Fill) (buffer : List UInt8) : List UInt8 :=
  (fill.contents buffer).take fill.count

theorem length_claimed (fill : Fill) (buffer : List UInt8) :
    (fill.claimed buffer).length = min fill.count buffer.length := by
  simp only [claimed, contents, List.length_take, length_overlay]

end Fill

end PacketRadio
