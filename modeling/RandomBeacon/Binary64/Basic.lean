/-!
Binary64 numbers as codes. The code of a magnitude is its rank among all magnitudes, which is
also its bit pattern without the sign, so order on codes is order on values. Every magnitude is
a whole number of units of 2^-1074; rounding compares exact integers with the midpoint of two
neighbouring codes and gives a tie to the even one. Overflow is the same rule at the last code.
-/

namespace RandomBeacon

namespace Binary64

/-- Codes below this one have the exponent of the subnormal numbers. -/
def fractionCount : Nat := Nat.pow 2 52

/-- The code of infinity, one above the largest finite magnitude. -/
def infinityCode : Nat := 2047 * fractionCount

/-- The unit 2^-1074 goes this often into one. -/
def unitsPerOne : Nat := Nat.pow 2 1074

/-- The magnitude of a code in units of 2^-1074. -/
def units (code : Nat) : Nat :=
  if code < fractionCount then code
  else (fractionCount + code % fractionCount) <<< (code / fractionCount - 1)

/-- The largest code whose magnitude is at most `u` units. -/
def codeBelow (u : Nat) : Nat :=
  let shift := Nat.log2 u - 52
  shift * fractionCount + u >>> shift

/-- The code nearest to `num / den` units, the even one of two that are equally near. -/
def nearestCode (num den : Nat) : Nat :=
  let below := codeBelow (num / den)
  let middle := (units below + units (below + 1)) * den
  let nearest :=
    if 2 * num < middle then below
    else if middle < 2 * num then below + 1
    else below + below % 2
  min nearest infinityCode

end Binary64

/-- A binary64 number; there is one NaN. The magnitude is a code of at most `infinityCode`. -/
inductive Binary64 where
  | nan
  | number (negative : Bool) (code : Nat)
  deriving DecidableEq, Repr

namespace Binary64

/-- The number nearest to `num / den`. -/
def ofRatio (negative : Bool) (num den : Nat) : Binary64 :=
  .number negative (nearestCode (num * unitsPerOne) den)

def ofNat (n : Nat) : Binary64 := ofRatio false n 1

def zero : Binary64 := .number false 0
def one : Binary64 := ofNat 1
def two : Binary64 := ofNat 2
def infinity : Binary64 := .number false infinityCode

def ofBits (word : Nat) : Binary64 :=
  let code := word % Nat.pow 2 63
  if infinityCode < code then .nan else .number (Nat.pow 2 63 ≤ word) code

/-- The bit pattern, none for NaN, which has many. -/
def bits? : Binary64 → Option Nat
  | nan => none
  | number negative code => some (if negative then Nat.pow 2 63 + code else code)

def isFinite : Binary64 → Bool
  | nan => false
  | number _ code => code < infinityCode

/-- The exact product, rounded once. Infinity times zero is NaN. -/
def mul : Binary64 → Binary64 → Binary64
  | number s a, number t b =>
    let sign := s != t
    if a = infinityCode ∨ b = infinityCode then
      if a = 0 ∨ b = 0 then nan else .number sign infinityCode
    else .number sign (nearestCode (units a * units b) unitsPerOne)
  | _, _ => nan

/-- The exact quotient, rounded once. -/
def div : Binary64 → Binary64 → Binary64
  | number s a, number t b =>
    let sign := s != t
    if a = infinityCode then if b = infinityCode then nan else .number sign infinityCode
    else if b = infinityCode then .number sign 0
    else if b = 0 then if a = 0 then nan else .number sign infinityCode
    else .number sign (nearestCode (units a * unitsPerOne) (units b))
  | _, _ => nan

def neg : Binary64 → Binary64
  | nan => nan
  | number s a => .number (!s) a

/-- The position of a number on the line; both zeros are at the origin. -/
def position (negative : Bool) (code : Nat) : Int :=
  if negative then -(code : Int) else code

/-- Whether `x` is less than `y`; NaN is less than nothing and nothing is less than it. -/
def lt : Binary64 → Binary64 → Bool
  | number s a, number t b => position s a < position t b
  | _, _ => false

/-- The lesser number; NaN gives way to the other argument. -/
def min : Binary64 → Binary64 → Binary64
  | nan, y => y
  | x, nan => x
  | x, y => if lt y x then y else x

/-- `x` to the power `n` by repeated squaring, each product rounded. -/
def pow (x : Binary64) (n : Nat) : Binary64 := go x n one
where
  go (square : Binary64) (n : Nat) (acc : Binary64) : Binary64 :=
    let acc := if n % 2 = 1 then mul acc square else acc
    if h : n / 2 = 0 then acc else go (mul square square) (n / 2) acc
  termination_by n

/-- The nearest whole number, halves going away from zero, kept inside `0 .. limit`.
NaN and negative numbers give 0. -/
def toNatWithin (limit : Nat) : Binary64 → Nat
  | number false code => Nat.min ((2 * units code + unitsPerOne) / (2 * unitsPerOne)) limit
  | _ => 0

end Binary64

end RandomBeacon
