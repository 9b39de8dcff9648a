/-!
JSON values as they are written: members keep their order and their repetitions, and a number
keeps its digits.
-/

namespace RandomBeacon

/-- A number with a fraction or an exponent, digit by digit. -/
structure Numeral where
  negative : Bool
  whole : List Nat
  fraction : List Nat
  exponentNegative : Bool
  exponent : Nat
  deriving DecidableEq, Repr

/-- A JSON value. A string whose escapes leave a surrogate alone has no text: as a value it is
`broken`, as a member's name it is `none`. -/
inductive Json where
  | null
  | bool (value : Bool)
  | integer (negative : Bool) (magnitude : Nat)
  | decimal (numeral : Numeral)
  | text (value : String)
  | broken
  | array (items : List Json)
  | object (members : List (Option String × Json))
  deriving Repr, Inhabited

namespace Json

def nat (n : Nat) : Json := .integer false n

/-- An object whose members all have readable names. -/
def record (members : List (String × Json)) : Json :=
  .object (members.map fun (name, value) => (some name, value))

mutual

/-- How many arrays and objects lie around the innermost value. -/
def depth : Json → Nat
  | .array items => 1 + itemsDepth items
  | .object members => 1 + membersDepth members
  | _ => 0

def itemsDepth : List Json → Nat
  | [] => 0
  | item :: rest => max item.depth (itemsDepth rest)

def membersDepth : List (Option String × Json) → Nat
  | [] => 0
  | (_, value) :: rest => max value.depth (membersDepth rest)

end

end Json

end RandomBeacon
