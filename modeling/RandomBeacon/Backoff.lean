import RandomBeacon.Binary64.Basic

/-!
Exponential backoff: the delay before an attempt is `base * multiplier ^ attempt`, capped, and
optionally stretched by a factor.
-/

namespace RandomBeacon.Backoff

/-- The largest exponent the power is taken to. -/
def exponentLimit : Nat := Nat.pow 2 31 - 1

/-- Delays are counted in 64 bits. -/
def delayLimit : Nat := Nat.pow 2 64 - 1

/-- The delay in milliseconds before it is rounded. A power that leaves the finite numbers
counts as the cap. -/
def capped (attempt base cap : Nat) (multiplier : Binary64) : Binary64 :=
  let grown := Binary64.mul (.ofNat base) (multiplier.pow (Nat.min attempt exponentLimit))
  if grown.isFinite then grown.min (.ofNat cap) else .ofNat cap

/-- The delay before attempt number `attempt`, counted from 0, stretched by `factor`. -/
def stretched (attempt base cap : Nat) (multiplier factor : Binary64) : Nat :=
  ((capped attempt base cap multiplier).mul factor).toNatWithin delayLimit

/-- The delay in milliseconds before attempt number `attempt`, counted from 0. -/
def delay (attempt base cap : Nat) (multiplier : Binary64) : Nat :=
  stretched attempt base cap multiplier .one

end RandomBeacon.Backoff
