import PacketRadio.Limits

/-!
# Checked Steps

What the operations of the driver ask of the numbers they are given.

The definitions of this library are total. A difference below zero is zero, a
slice that goes too far stops at the end, and a quotient by zero is zero. On the
machine none of these has a value. A difference that does not exist, a slice
behind the end or a divisor of zero stops the program there, and a number that
does not fit its word is another number. Whether a definition ever gets to such a
place cannot be seen from what it answers.

A checked step answers only where it has an answer, and says what is wrong where
it has none. A program made of checked steps stops at the first `Fault`. The
surroundings of a program take no part in this: they do as they like, and a
program that acts on a world without checks is `sound` among checked ones. That a
program never gets to a fault, whatever its surroundings do, is then an equation.
It says that the program with all its checks is the program without them.

## Main definitions

* `Fault`: Why a step has no answer.
* `Checked`: Programs that act on a world and stop at a fault.
* `Checked.require`: An answer under a condition.
* `Checked.sub`, `Checked.add`, `Checked.mul`, `Checked.div`, `Checked.narrow`:
  Arithmetic on words.
* `Checked.front`, `Checked.behind`, `Checked.copy`, `Checked.entry`: Slices and
  places.
* `Checked.sound`: A program without checks among those with them.

## Theorems

* `Checked.require_of`, `Checked.isOk_require`: Where there is an answer.
* `Checked.isOk_front`, `Checked.isOk_behind`, `Checked.isOk_sub`: The same for
  slices and differences.
* `Checked.bind_eq_sound`: One sound program after another.
-/

namespace PacketRadio

/-- Why a step has no answer. -/
inductive Fault where
  /-- A slice or a place behind the end. -/
  | outOfRange
  -- A copy between slices of different lengths.
  | unequalLengths
  | underflow
  | overflow
  /-- A number that is too large for its word. -/
  | truncated
  | divisionByZero
deriving DecidableEq

/-- Programs that act on a world, as far as their steps have answers. -/
abbrev Checked (ω : Type) := StateT ω (Except Fault)

namespace Checked

section

variable {α : Type} {condition : Prop} [Decidable condition]

/-- An answer that there is only under a condition. -/
def require (condition : Prop) [Decidable condition] (fault : Fault) (answer : α) :
    Except Fault α :=
  if condition then .ok answer else .error fault

theorem require_of (h : condition) (fault : Fault) (answer : α) :
    require condition fault answer = .ok answer :=
  if_pos h

theorem isOk_require (fault : Fault) (answer : α) :
    (require condition fault answer).isOk = true ↔ condition := by
  rw [require]
  split
  · rename_i h
    exact ⟨fun _ => h, fun _ => rfl⟩
  · rename_i h
    exact ⟨fun hok => absurd hok Bool.false_ne_true, fun hcond => absurd hcond h⟩

end

/-- The largest word of 8 bits. -/
abbrev maxByte : Nat := 0xff

/-- The largest word of 32 bits. -/
abbrev maxWord : Nat := 0xffffffff

/-- The largest word of 64 bits. -/
abbrev maxWide : Nat := 0xffffffffffffffff

/-- The largest length for which every machine has a word. The words that count
    bytes in memory have at least 16 bits. -/
abbrev maxLength : Nat := 0xffff

/-- A difference, which is not below zero. -/
def sub (first second : Nat) : Except Fault Nat :=
  require (second ≤ first) .underflow (first - second)

/-- A sum in words up to a largest one. -/
def add (largest first second : Nat) : Except Fault Nat :=
  require (first + second ≤ largest) .overflow (first + second)

/-- A product in words up to a largest one. -/
def mul (largest first second : Nat) : Except Fault Nat :=
  require (first * second ≤ largest) .overflow (first * second)

/-- A quotient, by something that is not zero. -/
def div (first second : Nat) : Except Fault Nat :=
  require (0 < second) .divisionByZero (first / second)

/-- A number in a smaller word, without loss. -/
def narrow (largest number : Nat) : Except Fault Nat :=
  require (number ≤ largest) .truncated number

/-- The first bytes of a buffer. -/
def front (bytes : List UInt8) (count : Nat) : Except Fault (List UInt8) :=
  require (count ≤ bytes.length) .outOfRange (bytes.take count)

/-- The bytes of a buffer from a place on. -/
def behind (bytes : List UInt8) (start : Nat) : Except Fault (List UInt8) :=
  require (start ≤ bytes.length) .outOfRange (bytes.drop start)

/-- What a slice holds once another was copied into it. -/
def copy (target source : List UInt8) : Except Fault (List UInt8) :=
  require (source.length = target.length) .unequalLengths source

/-- What stands at a place. -/
def entry {α : Type} {size : Nat} (places : Vector α size) (index : Nat) : Except Fault α :=
  if h : index < size then .ok places[index] else .error .outOfRange

theorem isOk_sub (first second : Nat) : (sub first second).isOk = true ↔ second ≤ first :=
  isOk_require _ _

theorem isOk_front (bytes : List UInt8) (count : Nat) :
    (front bytes count).isOk = true ↔ count ≤ bytes.length :=
  isOk_require _ _

theorem isOk_behind (bytes : List UInt8) (start : Nat) :
    (behind bytes start).isOk = true ↔ start ≤ bytes.length :=
  isOk_require _ _

theorem entry_of_getElem? {α : Type} {size : Nat} {places : Vector α size} {index : Nat}
    {place : α} (h : places[index]? = some place) : entry places index = .ok place := by
  obtain ⟨hlt, hplace⟩ := Vector.getElem?_eq_some_iff.1 h
  rw [entry, dif_pos hlt, hplace]

variable {ω α β : Type}

/-- A program that has no checks and needs none. -/
def sound (act : StateM ω α) : Checked ω α := fun world => .ok (act world)

/-- After a step that has an answer, things go on with the answer. -/
theorem ok_bind (answer : α) (next : α → Except Fault β) :
    (.ok answer : Except Fault α) >>= next = next answer := rfl

/-- So they do in a program that acts on a world. -/
theorem liftM_ok (answer : α) :
    (liftM (.ok answer : Except Fault α) : Checked ω α) = pure answer := rfl

/-- One program after another needs no checks if neither of them does. -/
theorem bind_eq_sound {checked : Checked ω α} {act : StateM ω α} {rest : α → Checked ω β}
    {next : α → StateM ω β} (h : checked = sound act)
    (hrest : ∀ result, rest result = sound (next result)) :
    checked >>= rest = sound (act >>= next) := by
  rw [h, funext hrest]
  rfl

end Checked

end PacketRadio
