import RandomBeacon.Binary64.Basic

/-!
The shortest decimal text of a binary64 number: the fewest digits that read back as the same
number, and of those the nearest to it.
-/

namespace RandomBeacon

/-- The decimal number `digits * 10 ^ exponent`. -/
structure Decimal where
  digits : Nat
  exponent : Int
  deriving DecidableEq, Repr

namespace Binary64

/-- The reals that round to one code, as numerators over one denominator. The ends belong to the
interval exactly when the code is even. -/
structure Interval where
  low : Nat
  value : Nat
  high : Nat
  denominator : Nat
  closed : Bool

def interval (code : Nat) : Interval where
  low := units (code - 1) + units code
  value := 2 * units code
  high := units code + units (code + 1)
  denominator := 2 * unitsPerOne
  closed := code % 2 = 0

namespace Interval

def scale (i : Interval) (factor : Nat) : Interval :=
  { i with low := i.low * factor, value := i.value * factor, high := i.high * factor }

def contains (i : Interval) (num : Nat) : Bool :=
  if i.closed then i.low ≤ num && num ≤ i.high else i.low < num && num < i.high

/-- The multiple of `step` inside the interval that is nearest to the value, if its two
neighbours on that grid hold one. -/
def onGrid? (i : Interval) (step : Nat) : Option Nat :=
  let below := i.value / step
  let downIn := i.contains (below * step)
  let upIn := i.contains ((below + 1) * step)
  let upNearer := (2 * below + 1) * step ≤ 2 * i.value
  if upIn && (!downIn || upNearer) then some (below + 1)
  else if downIn then some below
  else none

/-- The first hit on the grids `10 ^ exponent`, `10 ^ (exponent - 1)` and so on. -/
def firstOnGrids (i : Interval) : Nat → Int → Decimal
  | 0, exponent => ⟨0, exponent⟩
  | fuel + 1, exponent =>
    let hit :=
      if exponent < 0 then (i.scale (Nat.pow 10 exponent.natAbs)).onGrid? i.denominator
      else i.onGrid? (i.denominator * Nat.pow 10 exponent.natAbs)
    match hit with
    | some digits => ⟨digits, exponent⟩
    | none => firstOnGrids i fuel (exponent - 1)

/-- A power of ten above the value, by at most two places. -/
def topExponent (i : Interval) : Int :=
  if i.denominator ≤ i.value then (Nat.toDigits 10 (i.value / i.denominator)).length
  else 2 - (Nat.toDigits 10 (i.denominator / i.value)).length

end Interval

/-- The shortest decimal that rounds to a code other than 0. Seventeen digits always suffice. -/
def shortest (code : Nat) : Decimal :=
  let i := interval code
  i.firstOnGrids 20 i.topExponent

/-- How a number is written. -/
structure NumeralStyle where
  /-- Whole numbers end in `.0`. -/
  pointed : Bool
  /-- Magnitudes from 10^16 on, and those below 10^-4, have an exponent. -/
  scientific : Bool

/-- Digits only, whatever the magnitude. -/
def NumeralStyle.plain : NumeralStyle := ⟨false, false⟩

/-- The form in which a value of the program is shown for inspection. -/
def NumeralStyle.inspected : NumeralStyle := ⟨true, true⟩

namespace NumeralStyle

def positional (style : NumeralStyle) (digits : String) (exponent : Int) : String :=
  let zeros (n : Nat) : String := String.ofList (List.replicate n '0')
  let point := if style.pointed then ".0" else ""
  if 0 ≤ exponent then digits ++ zeros exponent.toNat ++ point
  else
    let places := exponent.natAbs
    if places < digits.length then
      let whole := digits.length - places
      String.ofList (digits.toList.take whole) ++ "." ++ String.ofList (digits.toList.drop whole)
    else "0." ++ zeros (places - digits.length) ++ digits

def exponential (digits : String) (exponent : Int) : String :=
  let leading := String.ofList (digits.toList.take 1)
  let rest := String.ofList (digits.toList.drop 1)
  leading ++ (if rest.isEmpty then "" else "." ++ rest) ++ "e" ++ toString exponent

def magnitude (style : NumeralStyle) (code : Nat) : String :=
  if code = infinityCode then "inf"
  else if code = 0 then style.positional "0" 0
  else
    let decimal := shortest code
    let digits := toString decimal.digits
    let leading : Int := digits.length - 1 + decimal.exponent
    if style.scientific && (16 ≤ leading || leading < -4) then exponential digits leading
    else style.positional digits decimal.exponent

/-- The text of a number. -/
def text (style : NumeralStyle) : Binary64 → String
  | nan => "NaN"
  | number negative code => (if negative then "-" else "") ++ style.magnitude code

end NumeralStyle

end Binary64

end RandomBeacon
