import RandomBeacon.Json.Basic
import RandomBeacon.Text.Hex

/-!
The compact text of a JSON value: no spaces, members in their order, and in strings only the
quote, the backslash and the control characters escaped.
-/

namespace RandomBeacon.Json

/-- One character inside a string. -/
def escape (c : Char) : List Char :=
  match c with
  | '"' => ['\\', '"']
  | '\\' => ['\\', '\\']
  | '\x08' => ['\\', 'b']
  | '\x0c' => ['\\', 'f']
  | '\n' => ['\\', 'n']
  | '\r' => ['\\', 'r']
  | '\t' => ['\\', 't']
  | c =>
    if c.toNat < 0x20 then
      ['\\', 'u', '0', '0', Hex.digit (c.toNat / 16), Hex.digit (c.toNat % 16)]
    else [c]

def quoted (s : List Char) : List Char :=
  '"' :: s.flatMap escape ++ ['"']

/-- The decimal digits of a number, most significant first. -/
def digits (n : Nat) : List Char := Nat.toDigits 10 n

def Numeral.chars (n : Numeral) : List Char :=
  let run (ds : List Nat) : List Char := ds.map Nat.digitChar
  let fraction := if n.fraction.isEmpty then [] else '.' :: run n.fraction
  let exponent :=
    if n.exponent = 0 then []
    else 'e' :: (if n.exponentNegative then ['-'] else []) ++ digits n.exponent
  (if n.negative then ['-'] else []) ++ run n.whole ++ fraction ++ exponent

mutual

def chars : Json → List Char
  | .null => "null".toList
  | .bool true => "true".toList
  | .bool false => "false".toList
  | .integer negative magnitude => (if negative then ['-'] else []) ++ digits magnitude
  | .decimal numeral => Numeral.chars numeral
  | .text s => quoted s.toList
  | .broken => quoted []
  | .array items => '[' :: itemsChars items ++ [']']
  | .object members => '{' :: membersChars members ++ ['}']

def itemsChars : List Json → List Char
  | [] => []
  | [item] => item.chars
  | item :: rest => item.chars ++ ',' :: itemsChars rest

def membersChars : List (Option String × Json) → List Char
  | [] => []
  | [(name, value)] => quoted (name.getD "").toList ++ ':' :: value.chars
  | (name, value) :: rest =>
    quoted (name.getD "").toList ++ ':' :: value.chars ++ ',' :: membersChars rest

end

/-- The compact text. -/
def render (j : Json) : String := String.ofList j.chars

/-- A new line, indented by two spaces for each level. -/
def newline (depth : Nat) : List Char := '\n' :: List.replicate (2 * depth) ' '

mutual

/-- The text with each item and member on a line of its own. -/
def prettyChars (depth : Nat) : Json → List Char
  | .array (item :: rest) =>
    '[' :: prettyItems (depth + 1) (item :: rest) ++ newline depth ++ [']']
  | .object (member :: rest) =>
    '{' :: prettyMembers (depth + 1) (member :: rest) ++ newline depth ++ ['}']
  | j => j.chars

def prettyItems (depth : Nat) : List Json → List Char
  | [] => []
  | [item] => newline depth ++ item.prettyChars depth
  | item :: rest => newline depth ++ item.prettyChars depth ++ ',' :: prettyItems depth rest

def prettyMembers (depth : Nat) : List (Option String × Json) → List Char
  | [] => []
  | [(name, value)] =>
    newline depth ++ quoted (name.getD "").toList ++ [':', ' '] ++ value.prettyChars depth
  | (name, value) :: rest =>
    newline depth ++ quoted (name.getD "").toList ++ [':', ' '] ++ value.prettyChars depth
      ++ ',' :: prettyMembers depth rest

end

/-- The text on several lines. -/
def pretty (j : Json) : String := String.ofList (j.prettyChars 0)

end RandomBeacon.Json
