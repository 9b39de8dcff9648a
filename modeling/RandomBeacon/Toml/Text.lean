import RandomBeacon.Text.Hex

/-!
Spaces, comments, strings and keys of TOML. A reader takes characters off the front of a text and
gives what they spell with the rest of the text.
-/

namespace RandomBeacon.Toml

/-- A character that may stand in a comment: no control character but the tab. -/
def isVisible (c : Char) : Bool :=
  c = '\t' || (0x20 ≤ c.toNat && c.toNat ≠ 0x7F)

def isSpace (c : Char) : Bool := c = ' ' || c = '\t'

def skipSpace (s : List Char) : List Char := s.dropWhile isSpace

/-- What follows a line break. -/
def newline? : List Char → Option (List Char)
  | '\n' :: rest => some rest
  | '\r' :: '\n' :: rest => some rest
  | _ => none

/-- What follows the end of a line: spaces, perhaps a comment, and a line break or the end of the
text. -/
def lineEnd? (s : List Char) : Option (List Char) :=
  let s := match skipSpace s with
    | '#' :: rest => rest.dropWhile isVisible
    | rest => rest
  if s.isEmpty then some [] else newline? s

/-- What follows spaces, line breaks and comments. -/
def skipBlank (inComment : Bool) : List Char → Option (List Char)
  | [] => some []
  | '\n' :: rest => skipBlank false rest
  | '\r' :: '\n' :: rest => skipBlank false rest
  | c :: rest =>
    if inComment then if isVisible c then skipBlank true rest else none
    else if c = '#' then skipBlank true rest
    else if isSpace c then skipBlank false rest
    else some (c :: rest)

def hexNumber? (s : List Char) : Option Nat :=
  s.foldlM (fun n c => (Hex.value? c).map (16 * n + ·)) 0

/-- The character with a code point, which is no surrogate. -/
def scalar? (n : Nat) : Option Char :=
  if n < 0xD800 ∨ (0xDFFF < n ∧ n < 0x110000) then some (Char.ofNat n) else none

/-- The character that a one-letter escape stands for. -/
def escaped? : Char → Option Char
  | 'b' => some '\x08'
  | 'f' => some '\x0c'
  | 'n' => some '\n'
  | 'r' => some '\r'
  | 't' => some '\t'
  | '"' => some '"'
  | '\\' => some '\\'
  | _ => none

/-- The text up to a closing quote, with escapes. -/
def basic? : List Char → Option (List Char × List Char)
  | [] => none
  | '"' :: rest => some ([], rest)
  | '\\' :: 'u' :: a :: b :: c :: d :: rest => do
    let char ← scalar? (← hexNumber? [a, b, c, d])
    let (content, rest) ← basic? rest
    return (char :: content, rest)
  | '\\' :: 'U' :: a :: b :: c :: d :: e :: f :: g :: h :: rest => do
    let char ← scalar? (← hexNumber? [a, b, c, d, e, f, g, h])
    let (content, rest) ← basic? rest
    return (char :: content, rest)
  | '\\' :: c :: rest => do
    let char ← escaped? c
    let (content, rest) ← basic? rest
    return (char :: content, rest)
  | c :: rest => do
    if c = '\\' || !isVisible c then none
    let (content, rest) ← basic? rest
    return (c :: content, rest)

/-- The text up to three closing quotes, before which two more may stand. After a backslash at
the end of a line, `trimming`, all white space is left out. -/
def basicLines? (trimming : Bool) : List Char → Option (List Char × List Char)
  | [] => none
  | '"' :: '"' :: '"' :: '"' :: '"' :: rest => some (['"', '"'], rest)
  | '"' :: '"' :: '"' :: '"' :: rest => some (['"'], rest)
  | '"' :: '"' :: '"' :: rest => some ([], rest)
  | '\r' :: '\n' :: rest => do
    let (content, rest) ← basicLines? trimming rest
    return (if trimming then content else '\n' :: content, rest)
  | '\n' :: rest => do
    let (content, rest) ← basicLines? trimming rest
    return (if trimming then content else '\n' :: content, rest)
  | '\\' :: 'u' :: a :: b :: c :: d :: rest => do
    let char ← scalar? (← hexNumber? [a, b, c, d])
    let (content, rest) ← basicLines? false rest
    return (char :: content, rest)
  | '\\' :: 'U' :: a :: b :: c :: d :: e :: f :: g :: h :: rest => do
    let char ← scalar? (← hexNumber? [a, b, c, d, e, f, g, h])
    let (content, rest) ← basicLines? false rest
    return (char :: content, rest)
  | '\\' :: c :: rest =>
    if (newline? (skipSpace (c :: rest))).isSome then basicLines? true (c :: rest)
    else do
      let char ← escaped? c
      let (content, rest) ← basicLines? false rest
      return (char :: content, rest)
  | c :: rest =>
    if trimming && isSpace c then basicLines? true rest
    else do
      if c = '\\' || !isVisible c then none
      let (content, rest) ← basicLines? false rest
      return (c :: content, rest)

/-- The text up to a closing apostrophe. -/
def literal? : List Char → Option (List Char × List Char)
  | [] => none
  | '\'' :: rest => some ([], rest)
  | c :: rest => do
    if !isVisible c then none
    let (content, rest) ← literal? rest
    return (c :: content, rest)

/-- The text up to three closing apostrophes, before which two more may stand. -/
def literalLines? : List Char → Option (List Char × List Char)
  | [] => none
  | '\'' :: '\'' :: '\'' :: '\'' :: '\'' :: rest => some (['\'', '\''], rest)
  | '\'' :: '\'' :: '\'' :: '\'' :: rest => some (['\''], rest)
  | '\'' :: '\'' :: '\'' :: rest => some ([], rest)
  | '\r' :: '\n' :: rest => do
    let (content, rest) ← literalLines? rest
    return ('\n' :: content, rest)
  | c :: rest => do
    if c ≠ '\n' && !isVisible c then none
    let (content, rest) ← literalLines? rest
    return (c :: content, rest)

/-- The line break right after three opening quotes does not count. -/
def skipNewline (s : List Char) : List Char := (newline? s).getD s

/-- A string of any of the four kinds. -/
def string? : List Char → Option (String × List Char)
  | '"' :: '"' :: '"' :: rest => finish (basicLines? false (skipNewline rest))
  | '"' :: rest => finish (basic? rest)
  | '\'' :: '\'' :: '\'' :: rest => finish (literalLines? (skipNewline rest))
  | '\'' :: rest => finish (literal? rest)
  | _ => none
where
  finish : Option (List Char × List Char) → Option (String × List Char)
    | some (content, rest) => some (String.ofList content, rest)
    | none => none

def isBare (c : Char) : Bool := c.isAlphanum || c = '-' || c = '_'

/-- One part of a key: bare or in quotes. -/
def keyPart? : List Char → Option (String × List Char)
  | '"' :: rest => (basic? rest).map fun (content, rest) => (String.ofList content, rest)
  | '\'' :: rest => (literal? rest).map fun (content, rest) => (String.ofList content, rest)
  | s =>
    let bare := s.takeWhile isBare
    if bare.isEmpty then none else some (String.ofList bare, s.dropWhile isBare)

/-- Keys have fewer parts than this, and values nest less deep. -/
def nestingLimit : Nat := 80

/-- The parts of a key, with dots between them and spaces around them. -/
def key? : Nat → List Char → Option (List String × List Char)
  | 0, _ => none
  | fuel + 1, s => do
    let (part, rest) ← keyPart? (skipSpace s)
    match skipSpace rest with
    | '.' :: rest => do
      let (parts, rest) ← key? fuel rest
      return (part :: parts, rest)
    | rest => return ([part], rest)

/-- A key split into its path and its last part. -/
def keyPath? (s : List Char) : Option ((List String × String) × List Char) := do
  let (parts, rest) ← key? (nestingLimit - 1) s
  let last ← parts.getLast?
  return ((parts.dropLast, last), rest)

end RandomBeacon.Toml
