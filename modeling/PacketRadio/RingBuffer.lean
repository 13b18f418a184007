/-!
# Ring buffers

A queue of bounded length in a fixed row of cells.

The elements lie one behind the other from `head` on, and where the row ends
they go on at its beginning. Taking elements out moves the head and nothing
else. It moves even when the last element leaves, so an empty buffer does not
start at the front of its row again; only `clear` sends the head back.

For its elements a ring buffer is the list `toList`, and every operation is
described there. The place of the head shows in one operation only: `front` is
the part of the elements that lies in one piece, up to the end of the row. It
is never empty while there are elements (`front_ne_nil`).

## Main definitions

* `RingBuffer`: A head, a size, and the cells they refer to.
* `RingBuffer.toList`: The elements, oldest first.
* `RingBuffer.front`: The elements that lie in one piece from the head on.
* `RingBuffer.push`, `RingBuffer.pushAll`, `RingBuffer.drop`,
  `RingBuffer.clear`: The operations.

## Theorems

* `RingBuffer.toList_push`, `RingBuffer.toList_drop`, `RingBuffer.toList_clear`:
  The operations, seen on the list.
* `RingBuffer.toList_pushAll`: Several elements, where they all fit.
* `RingBuffer.front_eq_take`: The front is what the row's end leaves in one
  piece.
* `RingBuffer.head_pushAll`: Only taking elements out moves the head.
* `RingBuffer.front_prefix`, `RingBuffer.take_front`: The front begins as the
  elements do.
* `RingBuffer.front_drop_front`: What lies behind the front is in one piece.
* `RingBuffer.front_ne_nil`: There is a front wherever there are elements.
-/

namespace PacketRadio

/-- A bounded queue in a row of cells that closes on itself. -/
structure RingBuffer (α : Type) (capacity : Nat) where
  cells : Vector α capacity
  -- The cell of the oldest element.
  head : Nat
  size : Nat
  head_lt : head < capacity
  size_le : size ≤ capacity

namespace RingBuffer

variable {α : Type} {capacity : Nat}

/-- A row that has a head has cells. -/
theorem capacity_pos (ring : RingBuffer α capacity) : 0 < capacity :=
  Nat.lt_of_le_of_lt (Nat.zero_le _) ring.head_lt

/-- Nothing, at the beginning of the row. -/
def empty [Inhabited α] (hpos : 0 < capacity) : RingBuffer α capacity :=
  ⟨Vector.replicate capacity default, 0, 0, hpos, Nat.zero_le _⟩

/-- What lies a number of cells behind the head. -/
def cell (ring : RingBuffer α capacity) (offset : Nat) : α :=
  have := Nat.mod_lt (ring.head + offset) ring.capacity_pos
  ring.cells[(ring.head + offset) % capacity]

/-- The elements, oldest first. -/
def toList (ring : RingBuffer α capacity) : List α :=
  (List.range ring.size).map ring.cell

/-- The elements that lie in one piece from the head on. The rest, if there is
    any, lies at the beginning of the row. -/
def front (ring : RingBuffer α capacity) : List α :=
  (ring.cells.toList.drop ring.head).take ring.size

/-- There are no elements. -/
def isEmpty (ring : RingBuffer α capacity) : Bool := ring.size = 0

/-- Put an element behind the others; a full buffer stays as it is. -/
def push (ring : RingBuffer α capacity) (element : α) : RingBuffer α capacity :=
  if h : ring.size < capacity then
    { ring with
      cells := ring.cells.set ((ring.head + ring.size) % capacity) element
        (Nat.mod_lt _ ring.capacity_pos)
      size := ring.size + 1
      size_le := h }
  else
    ring

/-- Put several elements behind the others, one by one. -/
def pushAll (ring : RingBuffer α capacity) (elements : List α) : RingBuffer α capacity :=
  elements.foldl push ring

/-- Take a number of the oldest elements out, at most all of them. -/
def drop (ring : RingBuffer α capacity) (count : Nat) : RingBuffer α capacity :=
  { ring with
    head := (ring.head + min count ring.size) % capacity
    size := ring.size - count
    head_lt := Nat.mod_lt _ ring.capacity_pos
    size_le := Nat.le_trans (Nat.sub_le _ _) ring.size_le }

/-- Take everything out and start at the beginning of the row. -/
def clear (ring : RingBuffer α capacity) : RingBuffer α capacity :=
  { ring with
    head := 0
    size := 0
    head_lt := ring.capacity_pos
    size_le := Nat.zero_le _ }

@[simp] theorem length_toList (ring : RingBuffer α capacity) :
    ring.toList.length = ring.size := by
  simp only [toList, List.length_map, List.length_range]

@[simp] theorem toList_empty [Inhabited α] (hpos : 0 < capacity) :
    (empty hpos : RingBuffer α capacity).toList = [] := rfl

@[simp] theorem toList_clear (ring : RingBuffer α capacity) : ring.clear.toList = [] := rfl

theorem isEmpty_eq_true_iff (ring : RingBuffer α capacity) :
    ring.isEmpty = true ↔ ring.toList = [] := by
  rw [isEmpty, decide_eq_true_iff, ← ring.length_toList, List.length_eq_zero_iff]

theorem size_pos {ring : RingBuffer α capacity} (h : ¬ ring.isEmpty = true) : 0 < ring.size :=
  Nat.pos_of_ne_zero fun hzero => h (decide_eq_true hzero)

theorem getElem?_toList (ring : RingBuffer α capacity) (offset : Nat) :
    ring.toList[offset]? = if offset < ring.size then some (ring.cell offset) else none := by
  rw [toList, List.getElem?_map]
  split
  · rename_i h
    rw [List.getElem?_range h]
    rfl
  · rename_i h
    rw [List.getElem?_eq_none (by rw [List.length_range]; omega)]
    rfl

/-- Looking from a head that was moved on is looking further from the old
    one. -/
theorem cell_drop (ring : RingBuffer α capacity) {count : Nat} (hcount : count ≤ ring.size)
    (offset : Nat) : (ring.drop count).cell offset = ring.cell (count + offset) := by
  have hplace : ((ring.head + min count ring.size) % capacity + offset) % capacity
      = (ring.head + (count + offset)) % capacity := by
    rw [Nat.min_eq_left hcount, Nat.mod_add_mod, Nat.add_assoc]
  simp only [cell, drop, hplace]

theorem toList_drop (ring : RingBuffer α capacity) (count : Nat) :
    (ring.drop count).toList = ring.toList.drop count := by
  apply List.ext_getElem?
  intro offset
  rw [List.getElem?_drop, getElem?_toList, getElem?_toList]
  show (if offset < ring.size - count then _ else _) = _
  by_cases hin : offset < ring.size - count
  · rw [if_pos hin, if_pos (by omega), ring.cell_drop (by omega)]
  · rw [if_neg hin, if_neg (by omega)]

/-- Two places within one turn of the row are different cells. -/
theorem mod_ne_of_lt {head first second : Nat} (hlt : first < second)
    (hturn : second < capacity) :
    (head + first) % capacity ≠ (head + second) % capacity := by
  intro heq
  have hzero := Nat.sub_mod_eq_zero_of_mod_eq heq.symm
  have hdiff : head + second - (head + first) = second - first := by omega
  rw [hdiff, Nat.mod_eq_of_lt (by omega)] at hzero
  omega

theorem size_push (ring : RingBuffer α capacity) (element : α) (hroom : ring.size < capacity) :
    (ring.push element).size = ring.size + 1 := by
  rw [push, dif_pos hroom]

/-- A new element shows behind the old ones, which stay where they are. -/
theorem cell_push (ring : RingBuffer α capacity) (element : α) (hroom : ring.size < capacity)
    {offset : Nat} (hoffset : offset ≤ ring.size) :
    (ring.push element).cell offset = if offset = ring.size then element else ring.cell offset := by
  simp only [cell, push, dif_pos hroom, Vector.getElem_set]
  by_cases hlast : offset = ring.size
  · rw [if_pos (by rw [hlast]), if_pos hlast]
  · rw [if_neg (mod_ne_of_lt (by omega) hroom).symm, if_neg hlast]

theorem toList_push (ring : RingBuffer α capacity) (element : α) (hroom : ring.size < capacity) :
    (ring.push element).toList = ring.toList ++ [element] := by
  rw [toList, ring.size_push element hroom, List.range_succ, List.map_append, toList]
  congr 1
  · -- The old elements.
    apply List.map_congr_left
    intro offset hmem
    have hlt := List.mem_range.1 hmem
    rw [ring.cell_push element hroom (Nat.le_of_lt hlt), if_neg (Nat.ne_of_lt hlt)]
  · -- The new one.
    rw [List.map_singleton, ring.cell_push element hroom (Nat.le_refl _), if_pos rfl]

theorem toList_pushAll (ring : RingBuffer α capacity) (elements : List α)
    (hroom : ring.size + elements.length ≤ capacity) :
    (ring.pushAll elements).toList = ring.toList ++ elements := by
  induction elements generalizing ring with
  | nil => exact (List.append_nil _).symm
  | cons element rest ih =>
      rw [List.length_cons] at hroom
      have hone : ring.size < capacity := by omega
      have hrest := ih (ring.push element) (by rw [ring.size_push element hone]; omega)
      rw [pushAll, List.foldl_cons]
      rw [pushAll] at hrest
      rw [hrest, ring.toList_push element hone, List.append_assoc, List.singleton_append]

theorem head_push (ring : RingBuffer α capacity) (element : α) :
    (ring.push element).head = ring.head := by
  rw [push]
  split <;> rfl

/-- Only taking elements out moves the head. -/
theorem head_pushAll (ring : RingBuffer α capacity) (elements : List α) :
    (ring.pushAll elements).head = ring.head := by
  induction elements generalizing ring with
  | nil => rfl
  | cons element rest ih => exact (ih (ring.push element)).trans (ring.head_push element)

theorem front_eq_take (ring : RingBuffer α capacity) :
    ring.front = ring.toList.take (capacity - ring.head) := by
  have hhead := ring.head_lt
  apply List.ext_getElem?
  intro offset
  rw [front, List.getElem?_take, List.getElem?_take, List.getElem?_drop, getElem?_toList]
  by_cases hin : offset < ring.size
  · by_cases hpiece : offset < capacity - ring.head
    · -- Before the end of the row the cells lie as they are counted.
      rw [if_pos hin, if_pos hpiece, if_pos hin, cell, Vector.getElem?_toList,
        Vector.getElem?_eq_getElem (by omega)]
      simp only [Nat.mod_eq_of_lt (show ring.head + offset < capacity by omega)]
    · rw [if_pos hin, if_neg hpiece, Vector.getElem?_toList,
        Vector.getElem?_eq_none (by omega)]
  · rw [if_neg hin]
    split <;> rfl

theorem front_prefix (ring : RingBuffer α capacity) : ring.front <+: ring.toList := by
  rw [front_eq_take]
  exact List.take_prefix _ _

/-- What is taken from the front is taken from the elements. -/
theorem take_front (ring : RingBuffer α capacity) {count : Nat} (h : count ≤ ring.front.length) :
    ring.front.take count = ring.toList.take count := by
  rw [front_eq_take, List.length_take] at h
  rw [front_eq_take, List.take_take, Nat.min_eq_left (by omega)]

/-- Behind the front, all elements lie in one piece. -/
theorem front_drop_front (ring : RingBuffer α capacity) :
    (ring.drop ring.front.length).front = (ring.drop ring.front.length).toList := by
  have hhead := ring.head_lt
  have hlen : ring.front.length = min (capacity - ring.head) ring.size := by
    rw [front_eq_take, List.length_take, length_toList]
  rw [front_eq_take, List.take_of_length_le]
  rw [toList_drop, List.length_drop, length_toList]
  show ring.size - ring.front.length
    ≤ capacity - (ring.head + min ring.front.length ring.size) % capacity
  have hsize := ring.size_le
  by_cases hend : capacity - ring.head ≤ ring.size
  · -- The front goes up to the end of the row, and the head comes back to its beginning.
    have hturn : ring.head + min ring.front.length ring.size = capacity := by omega
    rw [hturn, Nat.mod_self]
    omega
  · -- The front is everything.
    omega

theorem front_ne_nil {ring : RingBuffer α capacity} (h : ¬ ring.isEmpty = true) :
    ring.front ≠ [] := by
  have hhead := ring.head_lt
  have hsize := size_pos h
  intro hnil
  have hlen := congrArg List.length hnil
  rw [front_eq_take, List.length_take, length_toList, List.length_nil] at hlen
  omega

end RingBuffer

end PacketRadio
