import RandomBeacon.Json.Basic
import RandomBeacon.Text.Hex

/-!
Reading JSON text: first tokens, then the value they spell. Nothing is judged here but the
grammar; which values a type accepts is decided where the type is read.
-/

namespace RandomBeacon.Json

inductive Token where
  | openArray
  | closeArray
  | openObject
  | closeObject
  | comma
  | colon
  | null
  | bool (value : Bool)
  | integer (negative : Bool) (magnitude : Nat)
  | decimal (numeral : Numeral)
  /-- A string; `none` if a surrogate stands alone in it. -/
  | text (value : Option String)
  deriving DecidableEq, Repr

namespace Token

/-- A character of a string as written: itself, or a 16-bit unit given by its number. -/
inductive Piece where
  | char (c : Char)
  | unit (n : Nat)
  deriving DecidableEq, Repr

def isHighSurrogate (n : Nat) : Bool := 0xD800 ≤ n && n < 0xDC00

def isLowSurrogate (n : Nat) : Bool := 0xDC00 ≤ n && n < 0xE000

/-- The characters that the pieces spell, if every surrogate has its partner. -/
def spell? : List Piece → Option (List Char)
  | [] => some []
  | .char c :: rest => (spell? rest).map (c :: ·)
  | .unit high :: .unit low :: rest =>
    if isHighSurrogate high then
      if isLowSurrogate low then
        (spell? rest).map (Char.ofNat (0x10000 + (high - 0xD800) * 0x400 + (low - 0xDC00)) :: ·)
      else none
    else if isLowSurrogate high then none
    else (spell? (.unit low :: rest)).map (Char.ofNat high :: ·)
  | .unit n :: rest =>
    if isHighSurrogate n || isLowSurrogate n then none
    else (spell? rest).map (Char.ofNat n :: ·)

/-- The character that a one-letter escape stands for. -/
def escaped? : Char → Option Char
  | '"' => some '"'
  | '\\' => some '\\'
  | '/' => some '/'
  | 'b' => some '\x08'
  | 'f' => some '\x0c'
  | 'n' => some '\n'
  | 'r' => some '\r'
  | 't' => some '\t'
  | _ => none

/-- The pieces up to the closing quote, and what follows it. -/
def pieces? : List Char → Option (List Piece × List Char)
  | [] => none
  | '"' :: rest => some ([], rest)
  | '\\' :: 'u' :: a :: b :: c :: d :: rest => do
    let n := 4096 * (← Hex.value? a) + 256 * (← Hex.value? b) + 16 * (← Hex.value? c)
      + (← Hex.value? d)
    let (pieces, rest) ← pieces? rest
    return (.unit n :: pieces, rest)
  | '\\' :: c :: rest => do
    let plain ← escaped? c
    let (pieces, rest) ← pieces? rest
    return (.char plain :: pieces, rest)
  | c :: rest =>
    if c = '\\' ∨ c.toNat < 0x20 then none
    else (pieces? rest).map fun (pieces, rest) => (.char c :: pieces, rest)

def digitValue (c : Char) : Nat := c.toNat - '0'.toNat

/-- The number that decimal digits spell. -/
def natOf (ds : List Nat) : Nat := ds.foldl (fun n d => 10 * n + d) 0

def digitRun (s : List Char) : List Nat × List Char :=
  ((s.takeWhile Char.isDigit).map digitValue, s.dropWhile Char.isDigit)

/-- The fraction's digits, none if there is no point; a point needs a digit after it. -/
def fraction? : List Char → Option (List Nat × List Char)
  | '.' :: rest =>
    let (ds, rest) := digitRun rest
    if ds.isEmpty then none else some (ds, rest)
  | s => some ([], s)

/-- The exponent's sign and value; `none` inside if there is no exponent. -/
def exponent? : List Char → Option (Option (Bool × Nat) × List Char)
  | c :: rest =>
    if c = 'e' ∨ c = 'E' then
      let (negative, rest) := match rest with
        | '-' :: rest => (true, rest)
        | '+' :: rest => (false, rest)
        | rest => (false, rest)
      let (ds, rest) := digitRun rest
      if ds.isEmpty then none else some (some (negative, natOf ds), rest)
    else some (none, c :: rest)
  | [] => some (none, [])

/-- A number after its sign. A leading zero stands alone before the point. -/
def number? (negative : Bool) (s : List Char) : Option (Token × List Char) := do
  let (whole, rest) := match s with
    | '0' :: rest => ([0], rest)
    | s => digitRun s
  if whole.isEmpty then none
  let (fraction, rest) ← fraction? rest
  let (exponent, rest) ← exponent? rest
  match fraction, exponent with
  | [], none => return (.integer negative (natOf whole), rest)
  | fraction, exponent =>
    let (exponentNegative, exponent) := exponent.getD (false, 0)
    return (.decimal ⟨negative, whole, fraction, exponentNegative, exponent⟩, rest)

/-- The token at the head of a text that starts with no space. -/
def head? : List Char → Option (Token × List Char)
  | '[' :: rest => some (.openArray, rest)
  | ']' :: rest => some (.closeArray, rest)
  | '{' :: rest => some (.openObject, rest)
  | '}' :: rest => some (.closeObject, rest)
  | ',' :: rest => some (.comma, rest)
  | ':' :: rest => some (.colon, rest)
  | 'n' :: 'u' :: 'l' :: 'l' :: rest => some (.null, rest)
  | 't' :: 'r' :: 'u' :: 'e' :: rest => some (.bool true, rest)
  | 'f' :: 'a' :: 'l' :: 's' :: 'e' :: rest => some (.bool false, rest)
  | '"' :: rest => do
    let (pieces, rest) ← pieces? rest
    return (.text ((spell? pieces).map String.ofList), rest)
  | '-' :: rest => number? true rest
  | s => number? false s

def isSpace (c : Char) : Bool := c = ' ' || c = '\t' || c = '\n' || c = '\r'

/-- The tokens of a text. Each one takes a character at least, so the length is fuel enough. -/
def scan? : Nat → List Char → Option (List Token)
  | _, [] => some []
  | 0, _ => none
  | fuel + 1, c :: rest =>
    if isSpace c then scan? fuel rest
    else do
      let (token, rest) ← head? (c :: rest)
      let tokens ← scan? fuel rest
      return token :: tokens

mutual

/-- The value at the head of the tokens. Each call takes a token or hands on to one that does. -/
def value? : Nat → List Token → Option (Json × List Token)
  | 0, _ => none
  | _, .null :: rest => some (.null, rest)
  | _, .bool b :: rest => some (.bool b, rest)
  | _, .integer negative magnitude :: rest => some (.integer negative magnitude, rest)
  | _, .decimal numeral :: rest => some (.decimal numeral, rest)
  | _, .text (some s) :: rest => some (.text s, rest)
  | _, .text none :: rest => some (.broken, rest)
  | _, .openArray :: .closeArray :: rest => some (.array [], rest)
  | fuel + 1, .openArray :: rest => do
    let (items, rest) ← items? fuel rest
    return (.array items, rest)
  | _, .openObject :: .closeObject :: rest => some (.object [], rest)
  | fuel + 1, .openObject :: rest => do
    let (members, rest) ← members? fuel rest
    return (.object members, rest)
  | _, _ => none

/-- The items of an array up to its closing bracket, at least one. -/
def items? : Nat → List Token → Option (List Json × List Token)
  | 0, _ => none
  | fuel + 1, tokens => do
    let (item, rest) ← value? fuel tokens
    match rest with
    | .comma :: rest => do
      let (items, rest) ← items? fuel rest
      return (item :: items, rest)
    | .closeArray :: rest => return ([item], rest)
    | _ => none

/-- The members of an object up to its closing brace, at least one. -/
def members? : Nat → List Token → Option (List (Option String × Json) × List Token)
  | fuel + 1, .text name :: .colon :: rest => do
    let (value, rest) ← value? fuel rest
    match rest with
    | .comma :: rest => do
      let (members, rest) ← members? fuel rest
      return ((name, value) :: members, rest)
    | .closeObject :: rest => return ([(name, value)], rest)
    | _ => none
  | _, _ => none

end

end Token

/-- The value that a whole text spells. -/
def ofChars? (s : List Char) : Option Json := do
  let tokens ← Token.scan? s.length s
  let (value, rest) ← Token.value? (2 * tokens.length + 1) tokens
  if rest.isEmpty then some value else none

def parse? (s : String) : Option Json := ofChars? s.toList

end RandomBeacon.Json
