/-!
# Handles

The name under which a radio is reached from outside the driver.

A handle is one word, so that it can travel through places that carry nothing
but a word. It says which slot of a pool is meant and no more: anyone can
make one up, and the pool decides at every use whether it names a radio.

## Main definitions

* `Handle`: A word that names a slot.
* `Handle.index`, `Handle.ofIndex`: The slot of a handle, the handle of a slot.

## Theorems

* `Handle.index_inj`: No two handles name one slot.
-/

namespace PacketRadio

/-- A reference to a slot of a pool. -/
structure Handle where
  raw : UInt32
deriving DecidableEq

namespace Handle

/-- Handles hash to their word, so that different handles differ. -/
instance : Hashable Handle := ⟨fun handle => handle.raw.toUInt64⟩

/-- The slot a handle refers to. -/
def index (handle : Handle) : Nat := handle.raw.toNat

/-- The handle of a slot. -/
def ofIndex (index : Nat) : Handle := ⟨UInt32.ofNat index⟩

/-- A handle shown with its word. -/
def describe (handle : Handle) : String :=
  "DeviceHandle(" ++ toString handle.raw.toNat ++ ")"

/-- Handles name different slots. -/
theorem index_inj {first second : Handle} (h : first.index = second.index) : first = second :=
  congrArg mk (UInt32.toNat.inj h)

end Handle

end PacketRadio
