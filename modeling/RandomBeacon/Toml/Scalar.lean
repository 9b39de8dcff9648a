import RandomBeacon.Toml.Basic
import RandomBeacon.Toml.Text

/-!
Numbers, dates and times of TOML.
-/

namespace RandomBeacon.Toml

def digitValue (c : Char) : Nat := c.toNat - '0'.toNat

/-- Digits with single underscores between them. -/
def digitRun (isDigit : Char → Bool) : List Char → List Char × List Char
  | '_' :: c :: rest =>
    if isDigit c then
      let (digits, rest) := digitRun isDigit rest
      (c :: digits, rest)
    else ([], '_' :: c :: rest)
  | c :: rest =>
    if isDigit c then
      let (digits, rest) := digitRun isDigit rest
      (c :: digits, rest)
    else ([], c :: rest)
  | [] => ([], [])

/-- A run of digits that starts with a digit. -/
def digits? (isDigit : Char → Bool) : List Char → Option (List Char × List Char)
  | c :: rest => if isDigit c then some (digitRun isDigit (c :: rest)) else none
  | [] => none

def natOf (base : Nat) (digits : List Char) : Nat :=
  digits.foldl (fun n c => base * n + (Hex.value? c).getD 0) 0

/-- Integers have 64 bits and a sign. -/
def integer? (negative : Bool) (magnitude : Nat) : Option Toml :=
  if magnitude < Nat.pow 2 63 || (negative && magnitude = Nat.pow 2 63) then
    some (.integer (if negative then -magnitude else magnitude))
  else none

/-- The number nearest to `whole.fraction * 10 ^ exponent`, none if it is above all finite ones. -/
def decimal? (negative : Bool) (whole fraction : List Char) (exponent : Int) : Option Toml :=
  let significand := natOf 10 (whole ++ fraction)
  let exponent := exponent - fraction.length
  let top : Int := (whole ++ fraction).length + exponent
  let x : Binary64 :=
    if significand = 0 || top < -400 then .number negative 0
    else if 400 < exponent then .number negative Binary64.infinityCode
    else if exponent < 0 then .ofRatio negative significand (Nat.pow 10 exponent.natAbs)
    else .ofRatio negative (significand * Nat.pow 10 exponent.natAbs) 1
  if x = .infinity then none else some (.float x)

/-- What follows the `e` of an exponent. -/
def exponent? (s : List Char) : Option (Int × List Char) := do
  let (negative, s) := match s with
    | '-' :: rest => (true, rest)
    | '+' :: rest => (false, rest)
    | rest => (false, rest)
  let (digits, rest) ← digits? Char.isDigit s
  let n : Int := natOf 10 digits
  return (if negative then -n else n, rest)

/-- The digits before the point: a zero stands alone. -/
def whole? : List Char → Option (List Char × List Char)
  | '0' :: rest => some (['0'], rest)
  | s => digits? Char.isDigit s

/-- An integer or a float in base ten, after its sign. -/
def number? (negative : Bool) (s : List Char) : Option (Toml × List Char) := do
  let (whole, rest) ← whole? s
  match rest with
  | '.' :: rest => do
    let (fraction, rest) ← digits? Char.isDigit rest
    match rest with
    | 'e' :: rest | 'E' :: rest => do
      let (exponent, rest) ← exponent? rest
      return (← decimal? negative whole fraction exponent, rest)
    | rest => return (← decimal? negative whole fraction 0, rest)
  | 'e' :: rest | 'E' :: rest => do
    let (exponent, rest) ← exponent? rest
    return (← decimal? negative whole [] exponent, rest)
  | rest => return (← integer? negative (natOf 10 whole), rest)

/-- An integer in base 2, 8 or 16, after its mark. -/
def based? (base : Nat) (s : List Char) : Option (Toml × List Char) := do
  let (digits, rest) ← digits? (fun c => (Hex.value? c).any (· < base)) s
  return (← integer? false (natOf base digits), rest)

/-- Infinity or NaN, after its sign. -/
def special? (negative : Bool) : List Char → Option (Toml × List Char)
  | 'i' :: 'n' :: 'f' :: rest => some (.float (.number negative Binary64.infinityCode), rest)
  | 'n' :: 'a' :: 'n' :: rest => some (.float .nan, rest)
  | _ => none

/-- Two digits that spell at least `first` and at most `last`. -/
def twoDigits? (first last : Nat) : List Char → Option (Nat × List Char)
  | a :: b :: rest =>
    let n := 10 * digitValue a + digitValue b
    if a.isDigit && b.isDigit && first ≤ n && n ≤ last then some (n, rest) else none
  | _ => none

def isLeap (year : Nat) : Bool := year % 4 = 0 && (year % 100 ≠ 0 || year % 400 = 0)

def daysIn (year month : Nat) : Nat :=
  if month = 2 then if isLeap year then 29 else 28
  else if month = 4 ∨ month = 6 ∨ month = 9 ∨ month = 11 then 30
  else 31

/-- A day of the calendar. -/
def date? (s : List Char) : Option (List Char) := do
  let (century, s) ← twoDigits? 0 99 s
  let (year, s) ← twoDigits? 0 99 s
  let '-' :: s := s | none
  let (month, s) ← twoDigits? 1 12 s
  let '-' :: s := s | none
  let (_, s) ← twoDigits? 1 (daysIn (100 * century + year) month) s
  return s

/-- A time of the day down to the second, which may have a fraction. -/
def time? (s : List Char) : Option (List Char) := do
  let (_, s) ← twoDigits? 0 23 s
  let ':' :: s := s | none
  let (_, s) ← twoDigits? 0 59 s
  let ':' :: s := s | none
  let (_, s) ← twoDigits? 0 60 s
  match s with
  | '.' :: c :: rest => return if c.isDigit then rest.dropWhile Char.isDigit else '.' :: c :: rest
  | s => return s

/-- The offset after a time, if there is one. -/
def skipOffset (s : List Char) : List Char :=
  match s with
  | 'Z' :: rest | 'z' :: rest => rest
  | '+' :: rest | '-' :: rest => (hourMinute? rest).getD s
  | _ => s
where
  hourMinute? (s : List Char) : Option (List Char) := do
    let (_, s) ← twoDigits? 0 23 s
    let ':' :: s := s | none
    let (_, s) ← twoDigits? 0 59 s
    return s

/-- A date, a time, or a date with a time behind a `T` or a space. -/
def moment? (s : List Char) : Option (List Char) :=
  match date? s with
  | some rest =>
    match rest with
    | c :: tail =>
      if c = 'T' || c = 't' || c = ' ' then some ((time? tail).elim rest skipOffset) else some rest
    | [] => some []
  | none => time? s

/-- A number, date, time, truth value or string. -/
def scalar : List Char → Option (Toml × List Char)
  | 't' :: 'r' :: 'u' :: 'e' :: rest => some (.bool true, rest)
  | 'f' :: 'a' :: 'l' :: 's' :: 'e' :: rest => some (.bool false, rest)
  | '+' :: rest => special? false rest <|> number? false rest
  | '-' :: rest => special? true rest <|> number? true rest
  | '"' :: rest => (string? ('"' :: rest)).map fun (content, rest) => (.text content, rest)
  | '\'' :: rest => (string? ('\'' :: rest)).map fun (content, rest) => (.text content, rest)
  | s =>
    match moment? s with
    | some rest => some (.moment, rest)
    | none =>
      match s with
      | '0' :: 'x' :: rest => based? 16 rest
      | '0' :: 'o' :: rest => based? 8 rest
      | '0' :: 'b' :: rest => based? 2 rest
      | s => special? false s <|> number? false s

end RandomBeacon.Toml
