import PacketRadio.Handle

/-!
# Failures

Why a request to the driver was not carried out.

Two of the causes are answers a caller has to expect: the pool may be used up
and a tick table may be full. The other two are mistakes in the program that
uses the driver. They are fatal, that is, they stop the program that makes
them: presenting a handle that names no radio, and starting a radio on a tick
table that has no place for it.

## Main definitions

* `Failure`: The causes.
* `Failure.isFatal`: Which of them are mistakes of the caller.
* `Failure.message`: What is said about each.
-/

namespace PacketRadio

/-- Why a request failed. -/
inductive Failure where
  /-- Every slot of the pool is taken. -/
  | outOfDevices
  /-- The tick table takes no more subscriptions. -/
  | tableFull
  | invalidHandle (handle : Handle)
  /-- The radio found no place in its tick table. -/
  | subscriptionRefused (handle : Handle)
deriving DecidableEq

namespace Failure

/-- The failure is a mistake of the caller and stops it. -/
def isFatal : Failure → Bool
  | .outOfDevices => false
  | .tableFull => false
  | .invalidHandle _ => true
  | .subscriptionRefused _ => true

/-- What is said about a failure. -/
def message : Failure → String
  | .outOfDevices => "radio device pool exhausted"
  | .tableFull => "tick callback table full"
  | .invalidHandle handle => "invalid radio device handle " ++ handle.describe
  | .subscriptionRefused handle => "tick subscription refused for " ++ handle.describe

end Failure

end PacketRadio
