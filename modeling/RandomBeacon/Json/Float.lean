import RandomBeacon.Binary64.Basic
import RandomBeacon.Json.Basic

/-!
The binary64 number that a JSON number is read as. The digits are gathered into 64 bits as far as
they fit and scaled by one power of ten, so the result can be a neighbour of the nearest number.
-/

namespace RandomBeacon.Json

/-- Digits gathered so far, to be scaled by `10 ^ exponent`. -/
structure Gathered where
  significand : Nat
  exponent : Int

def significandLimit : Nat := Nat.pow 2 64

/-- Digits before the point. Once one does not fit, it and all later ones only count. -/
def gatherWhole : Nat → List Nat → Gathered
  | significand, [] => ⟨significand, 0⟩
  | significand, d :: rest =>
    if 10 * significand + d < significandLimit then gatherWhole (10 * significand + d) rest
    else ⟨significand, rest.length + 1⟩

/-- Digits after the point. From the first that does not fit on they are dropped. -/
def gatherFraction : Gathered → List Nat → Gathered
  | g, [] => g
  | g, d :: rest =>
    if 10 * g.significand + d < significandLimit then
      gatherFraction ⟨10 * g.significand + d, g.exponent - 1⟩ rest
    else g

/-- The largest power of ten that scales in one step. -/
def stepExponent : Nat := 308

/-- Divides by `10 ^ n`, by `10 ^ 308` at a time while more is left. -/
def scaleDown : Nat → Nat → Binary64 → Binary64
  | 0, _, x => x
  | fuel + 1, n, x =>
    if n ≤ stepExponent then x.div (.ofNat (Nat.pow 10 n))
    else if x = .zero then x
    else scaleDown fuel (n - stepExponent) (x.div (.ofNat (Nat.pow 10 stepExponent)))

/-- The scaled number, none if it leaves the finite numbers. Four steps down reach zero. -/
def Gathered.number? (g : Gathered) : Option Binary64 :=
  let x := Binary64.ofNat g.significand
  if g.exponent < 0 then some (scaleDown 5 g.exponent.natAbs x)
  else if x = .zero then some x
  else if stepExponent < g.exponent.natAbs then none
  else
    let scaled := x.mul (.ofNat (Nat.pow 10 g.exponent.natAbs))
    if scaled.isFinite then some scaled else none

def signed (negative : Bool) (x : Binary64) : Binary64 :=
  if negative then x.neg else x

/-- The number that a numeral is read as, none if it is too large. -/
def numeralNumber? (n : Numeral) : Option Binary64 :=
  let g := gatherFraction (gatherWhole 0 n.whole) n.fraction
  let exponent : Int := if n.exponentNegative then -n.exponent else n.exponent
  (Gathered.number? ⟨g.significand, g.exponent + exponent⟩).map (signed n.negative)

/-- The number that an integer is read as, none if it is too large. -/
def integerNumber? (negative : Bool) (magnitude : Nat) : Option Binary64 :=
  let whole := (Nat.toDigits 10 magnitude).map fun c => c.toNat - '0'.toNat
  (gatherWhole 0 whole).number?.map (signed negative)

/-- The number a value is read as, if it is one. -/
def float? : Json → Option Binary64
  | .integer negative magnitude => integerNumber? negative magnitude
  | .decimal numeral => numeralNumber? numeral
  | _ => none

end RandomBeacon.Json
