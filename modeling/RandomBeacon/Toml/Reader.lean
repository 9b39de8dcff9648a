import RandomBeacon.Toml.Scalar

/-!
Reading a TOML document line by line into one table.
-/

namespace RandomBeacon.Toml

mutual

/-- The value at the head of a text, `depth` arrays and inline tables deep. Every step takes a
character, so the length is fuel enough. -/
def value? : Nat → Nat → List Char → Option (Toml × List Char)
  | 0, _, _ => none
  | fuel + 1, depth, '[' :: rest => do
    if nestingLimit ≤ depth + 1 then none
    let (items, rest) ← items? fuel (depth + 1) rest
    return (.array items, rest)
  | fuel + 1, depth, '{' :: rest => do
    if nestingLimit ≤ depth + 1 then none
    match skipSpace rest with
    | '}' :: rest => return (.table .inline [], rest)
    | rest => do
      let (built, rest) ← pairs? fuel (depth + 1) (.empty .inline) rest
      return (built.toToml, rest)
  | _, _, s => scalar s

/-- The items of an array up to its closing bracket; a comma may follow the last one. -/
def items? : Nat → Nat → List Char → Option (List Toml × List Char)
  | 0, _, _ => none
  | fuel + 1, depth, s => do
    match ← skipBlank false s with
    | ']' :: rest => return ([], rest)
    | s => do
      let (item, rest) ← value? fuel depth s
      match ← skipBlank false rest with
      | ',' :: rest => do
        let (items, rest) ← items? fuel depth rest
        return (item :: items, rest)
      | ']' :: rest => return ([item], rest)
      | _ => none

/-- The pairs of an inline table up to its closing brace, at least one. -/
def pairs? : Nat → Nat → Table → List Char → Option (Table × List Char)
  | 0, _, _, _ => none
  | fuel + 1, depth, built, s => do
    let ((path, key), rest) ← keyPath? s
    let '=' :: rest := rest | none
    let (value, rest) ← value? fuel depth (skipSpace rest)
    let built ← built.addAt? path key value
    match skipSpace rest with
    | ',' :: rest => pairs? fuel depth built rest
    | '}' :: rest => return (built, rest)
    | _ => none

end

/-- One expression of a document. -/
inductive Expression where
  | pair (path : List String) (key : String) (value : Toml)
  | table (path : List String) (key : String)
  | item (path : List String) (key : String)

/-- The expression at the head of a line, to the end of the line. -/
def expression? (s : List Char) : Option (Expression × List Char) :=
  match s with
  | '[' :: '[' :: rest => do
    let ((path, key), rest) ← keyPath? rest
    let ']' :: ']' :: rest := rest | none
    return (.item path key, ← lineEnd? rest)
  | '[' :: rest => do
    let ((path, key), rest) ← keyPath? rest
    let ']' :: rest := rest | none
    return (.table path key, ← lineEnd? rest)
  | s => do
    let ((path, key), rest) ← keyPath? s
    let '=' :: rest := rest | none
    let (value, rest) ← value? s.length 0 (skipSpace rest)
    return (.pair path key value, ← lineEnd? rest)

/-- The expressions of a document. Each takes a character, so the length is fuel enough. -/
def expressions? : Nat → List Char → Option (List Expression)
  | fuel, s => do
    match ← skipBlank false s with
    | [] => some []
    | s =>
      match fuel with
      | 0 => none
      | fuel + 1 => do
        let (expression, rest) ← expression? s
        let expressions ← expressions? fuel rest
        return expression :: expressions

/-- Adds an expression to the document; `header` is the path of the header it stands under. -/
def extend? (header : List String) (root : Table) : Expression → Option (List String × Table)
  | .pair path key value => do
    let root ← root.descend? false (Table.addAt? path key value) header
    return (header, root)
  | .table path key => do
    let root ← root.openTable? path key
    return (path ++ [key], root)
  | .item path key => do
    let root ← root.openItem? path key
    return (path ++ [key], root)

/-- The table that a document spells. A byte order mark at its start is skipped. -/
def ofChars? (s : List Char) : Option Toml := do
  let s := match s with
    | '\ufeff' :: rest => rest
    | s => s
  let expressions ← expressions? s.length s
  let (_, root) ← expressions.foldlM (fun (header, root) e => extend? header root e)
    ([], Table.empty .header)
  return root.toToml

def parse? (s : String) : Option Toml := ofChars? s.toList

end RandomBeacon.Toml
