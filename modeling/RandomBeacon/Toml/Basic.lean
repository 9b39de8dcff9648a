import RandomBeacon.Binary64.Basic

/-!
TOML values, and the rules by which a document may add to its tables: a table is defined once,
and what a header, a dotted key or an inline form has defined is not reopened by another kind.
-/

namespace RandomBeacon

/-- What brought a table into being. -/
inductive TableOrigin where
  /-- A header of its own. -/
  | header
  /-- The header of a table inside it. -/
  | implied
  /-- A dotted key. -/
  | dotted
  /-- An inline form, complete as it stands. -/
  | inline
  deriving DecidableEq, Repr

inductive Toml where
  | text (value : String)
  | integer (value : Int)
  | float (value : Binary64)
  | bool (value : Bool)
  /-- A date, a time, or both. -/
  | moment
  | array (items : List Toml)
  | table (origin : TableOrigin) (entries : List (String × Toml))
  /-- Tables that headers in double brackets append one by one. -/
  | tables (items : List (List (String × Toml)))
  deriving Repr, Inhabited

namespace Toml

/-- The entries of a table under construction. -/
structure Table where
  origin : TableOrigin
  entries : List (String × Toml)

namespace Table

def empty (origin : TableOrigin) : Table := ⟨origin, []⟩

def toToml (t : Table) : Toml := .table t.origin t.entries

def find? (t : Table) (key : String) : Option Toml := t.entries.lookup key

/-- Puts a value at a key, in place of the one that is there. -/
def set (t : Table) (key : String) (value : Toml) : Table :=
  if (t.find? key).isSome then
    { t with entries := t.entries.map fun (k, v) => if k = key then (k, value) else (k, v) }
  else { t with entries := t.entries ++ [(key, value)] }

/-- Puts a value at a free key. -/
def add? (t : Table) (key : String) (value : Toml) : Option Table :=
  if (t.find? key).isSome then none else some (t.set key value)

/-- Changes the table at the end of a path, making those on the way that are missing. Of tables
that headers append, the last one is meant. Dotted keys do not enter a table with one header, and
nothing enters an inline table. -/
def descend? (dotted : Bool) (change : Table → Option Table) : List String → Table → Option Table
  | [], t => change t
  | key :: path, t =>
    match t.find? key with
    | none => do
      let child ← descend? dotted change path (.empty (if dotted then .dotted else .implied))
      return t.set key child.toToml
    | some (.table origin entries) =>
      if origin = .inline || (dotted && origin = .header) then none
      else do
        let child ← descend? dotted change path ⟨origin, entries⟩
        return t.set key child.toToml
    | some (.tables items) => do
      let last ← items.getLast?
      let child ← descend? dotted change path ⟨.header, last⟩
      return t.set key (.tables (items.dropLast ++ [child.entries]))
    | some _ => none

/-- Adds `path.key = value`. The last table of a dotted key has to come from dotted keys. -/
def addAt? (path : List String) (key : String) (value : Toml) (t : Table) : Option Table :=
  t.descend? true (fun t =>
    if path.isEmpty || t.origin = .dotted then t.add? key value else none) path

/-- Opens the table of a header. -/
def openTable? (path : List String) (key : String) (t : Table) : Option Table :=
  t.descend? false (fun t =>
    match t.find? key with
    | none => some (t.set key (.table .header []))
    | some (.table .implied entries) => some (t.set key (.table .header entries))
    | some _ => none) path

/-- Opens one more table of a header in double brackets. -/
def openItem? (path : List String) (key : String) (t : Table) : Option Table :=
  t.descend? false (fun t =>
    match t.find? key with
    | none => some (t.set key (.tables [[]]))
    | some (.tables items) => some (t.set key (.tables (items ++ [[]])))
    | some _ => none) path

end Table

end Toml

end RandomBeacon
