import RandomBeacon.Json.Float

/-!
Reading records and scalars out of JSON values. A record is an object with its fields in any
order and others beside them, or an array of its fields in declaration order.
-/

namespace RandomBeacon.Json

def text? : Json → Option String
  | .text s => some s
  | _ => none

def bool? : Json → Option Bool
  | .bool b => some b
  | _ => none

/-- A whole number below `limit`, written without sign, fraction or exponent. -/
def natBelow? (limit : Nat) : Json → Option Nat
  | .integer false n => if n < limit then some n else none
  | _ => none

def uint8? (j : Json) : Option UInt8 := (j.natBelow? (Nat.pow 2 8)).map UInt8.ofNat

def uint64? (j : Json) : Option UInt64 := (j.natBelow? (Nat.pow 2 64)).map UInt64.ofNat

def items? : Json → Option (List Json)
  | .array items => some items
  | _ => none

/-- An array of bytes of any length. -/
def bytes? (j : Json) : Option (List UInt8) := do (← j.items?).mapM uint8?

/-- An array of exactly `n` bytes. -/
def byteVector? (n : Nat) (j : Json) : Option (Vector UInt8 n) := do
  let bytes ← j.bytes?
  if h : bytes.length = n then some ⟨bytes.toArray, by simpa using h⟩ else none

/-- A null stands for no value. -/
def nullable? {α : Type} (read : Json → Option α) : Json → Option (Option α)
  | .null => some none
  | j => (read j).map some

namespace Field

/-- A field that has to be there. -/
def required {α : Type} (read : Json → Option α) (field : Option Json) : Option α :=
  field.bind read

/-- A field that may be missing or null. -/
def optional {α : Type} (read : Json → Option α) : Option Json → Option (Option α)
  | none => some none
  | some j => nullable? read j

/-- A field with a value to fall back on when it is missing. -/
def orElse {α : Type} (fallback : α) (read : Json → Option α) : Option Json → Option α
  | none => some fallback
  | some j => read j

end Field

/-- The values that an object gives to the named fields, in the order of the names. Every member
needs a readable name, and no named one may come twice. -/
def namedFields? (names : List String) : Json → Option (List (Option Json))
  | .object members =>
    if members.any (·.1.isNone) then none
    else if names.any fun name => 1 < (members.filter (·.1 = some name)).length then none
    else some (names.map fun name => members.lookup (some name))
  | _ => none

/-- The values given to the named fields, by name or by position. -/
def fields? (names : List String) : Json → Option (List (Option Json))
  | .array items =>
    if names.length < items.length then none
    else some (items.map some ++ List.replicate (names.length - items.length) none)
  | j => namedFields? names j

mutual

/-- Whether a value can be held back until its type is known: every string has a text and every
number is finite. -/
def isHoldable : Json → Bool
  | .broken => false
  | .integer negative magnitude => (integerNumber? negative magnitude).isSome
  | .decimal numeral => (numeralNumber? numeral).isSome
  | .array items => itemsHoldable items
  | .object members => membersHoldable members
  | _ => true

def itemsHoldable : List Json → Bool
  | [] => true
  | item :: rest => item.isHoldable && itemsHoldable rest

def membersHoldable : List (Option String × Json) → Bool
  | [] => true
  | (name, value) :: rest => name.isSome && value.isHoldable && membersHoldable rest

end

/-- How deep arrays and objects may nest in a value that is held back. -/
def nestingLimit : Nat := 127

/-- A value held back inside `outer` arrays and objects. -/
def hold? (outer : Nat) (j : Json) : Option Json :=
  if j.isHoldable && outer + j.depth ≤ nestingLimit then some j else none

/-- The name of a case without content: the bare name, or an object of it and null. -/
def caseName? : Json → Option String
  | .text s => some s
  | .object [(some name, .null)] => some name
  | _ => none

/-- A tag with the content that belongs to it: an object of `type` and `data` among others, or an
array of the two. Content that comes before its tag is held back. `outer` counts the arrays and
objects around it. -/
def tagged? (outer : Nat) : Json → Option (String × Json)
  | .array [tag, data] => return (← caseName? tag, data)
  | .object members => do
    let [some tag, some data] ← namedFields? ["type", "data"] (.object members) | none
    let dataFirst := members.map (·.1) |>.find? fun name => name = some "type" || name = some "data"
    let data ← if dataFirst = some (some "data") then hold? (outer + 1) data else some data
    return (← caseName? tag, data)
  | _ => none

end RandomBeacon.Json
