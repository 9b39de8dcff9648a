/-!
The command line of the demonstration: a list of options, each at most once, in any order. Asking
for help ends the reading; so does the first mistake.
-/

namespace RandomBeacon.Demo

structure Options where
  config : Option String := none
  beaconAddress : Option String := none
  requests : Nat := 3
  /-- Milliseconds from an accepted request to the round it makes the beacon publish. -/
  publishDelay : Nat := 250
  metrics : Bool := false
  deriving DecidableEq, Repr

/-- The options that a command line can name. -/
inductive Key where
  | config
  | beaconAddress
  | requests
  | publishDelay
  | metrics
  | help
  deriving DecidableEq, Repr

namespace Key

def all : List Key := [config, beaconAddress, requests, publishDelay, metrics, help]

def long : Key → String
  | config => "config"
  | beaconAddress => "beacon-address"
  | requests => "requests"
  | publishDelay => "publish-delay-ms"
  | metrics => "metrics"
  | help => "help"

def short? : Key → Option Char
  | config => some 'c'
  | beaconAddress => some 'b'
  | requests => some 'n'
  | help => some 'h'
  | publishDelay | metrics => none

def takesValue : Key → Bool
  | metrics | help => false
  | _ => true

end Key

/-- What one argument is. -/
inductive Argument where
  /-- An option, and what is attached to it: `--key=value`, `-kvalue` or `-k=value`. -/
  | option (key : Key) (attached : Option String)
  /-- The mark after which no argument is an option. -/
  | separator
  | other
  deriving DecidableEq, Repr

namespace Argument

/-- An option by its long name, up to the first equals sign. -/
def ofLong (text : List Char) : Argument :=
  let (name, rest) := text.span (· ≠ '=')
  match Key.all.find? (·.long = String.ofList name) with
  | some key => .option key (if rest.isEmpty then none else some (String.ofList (rest.drop 1)))
  | none => .other

/-- An option by its letter. Behind the letter of an option that takes none, there is no value. -/
def ofShort (letter : Char) (rest : List Char) : Argument :=
  match Key.all.find? (·.short? = some letter) with
  | some key =>
    if key.takesValue ∧ ¬rest.isEmpty then
      .option key (some (String.ofList (if rest.head? = some '=' then rest.drop 1 else rest)))
    else .option key none
  | none => .other

def read (s : String) : Argument :=
  match s.toList with
  | ['-', '-'] => .separator
  | '-' :: '-' :: text => ofLong text
  | '-' :: letter :: rest => ofShort letter rest
  | _ => .other

end Argument

/-- Whether an argument can be the value of the option before it. -/
def isValue (s : String) : Bool := !s.startsWith "-" || s = "-"

/-- A whole number below 2^64, with or without a plus sign. -/
def number? (s : String) : Option Nat :=
  let digits := match s.toList with
    | '+' :: digits => digits
    | digits => digits
  if digits.isEmpty ∨ ¬digits.all Char.isDigit then none
  else
    let n := digits.foldl (fun n c => 10 * n + (c.toNat - '0'.toNat)) 0
    if n < Nat.pow 2 64 then some n else none

/-- What a command line asks for. -/
inductive Demand where
  | help
  | run (o : Options)
  | mistaken (reason : String)
  deriving DecidableEq, Repr

/-- Sets an option to a value, if it is one that the option can have. -/
def Options.set? (o : Options) (key : Key) (value : String) : Option Options :=
  match key with
  | .config => if value.isEmpty then none else some { o with config := some value }
  | .beaconAddress => some { o with beaconAddress := some value }
  | .requests => (number? value).map fun n => { o with requests := n }
  | .publishDelay => (number? value).map fun n => { o with publishDelay := n }
  | .metrics | .help => none

def Demand.unexpected (argument : String) : Demand :=
  .mistaken s!"unexpected argument '{argument}' found"

def Demand.repeated (key : Key) : Demand :=
  .mistaken s!"the argument '--{key.long}' cannot be used multiple times"

def Demand.missing (key : Key) : Demand :=
  .mistaken s!"a value is required for '--{key.long}' but none was supplied"

def Demand.invalid (key : Key) (value : String) : Demand :=
  .mistaken s!"invalid value '{value}' for '--{key.long}'"

/-- Reads the arguments that are left after those that gave `o` and named the keys `seen`. -/
def readFrom (seen : List Key) (o : Options) : List String → Demand
  | [] => .run o
  | argument :: rest =>
    match Argument.read argument with
    | .separator =>
      match rest with
      | [] => .run o
      | next :: _ => .unexpected next
    | .other => .unexpected argument
    | .option .help none => .help
    | .option .help (some _) => .unexpected argument
    | .option .metrics attached =>
      if attached.isSome then .unexpected argument
      else if seen.contains .metrics then .repeated .metrics
      else readFrom (.metrics :: seen) { o with metrics := true } rest
    | .option key (some value) =>
      if seen.contains key then .repeated key
      else match o.set? key value with
        | some o => readFrom (key :: seen) o rest
        | none => .invalid key value
    | .option key none =>
      match rest with
      | [] => .missing key
      | value :: rest =>
        if !isValue value then .missing key
        else if seen.contains key then .repeated key
        else match o.set? key value with
          | some o => readFrom (key :: seen) o rest
          | none => .invalid key value

/-- What the arguments of a command line ask for. -/
def readArguments (arguments : List String) : Demand := readFrom [] {} arguments

end RandomBeacon.Demo
