import RandomBeacon.Config.Validation
import RandomBeacon.Toml.Reader
import RandomBeacon.Wire.Config

/-!
Configurations in TOML documents and in files. Every field may be missing and then has its
default; keys that mean nothing here are passed over.
-/

namespace RandomBeacon

namespace Toml

def text? : Toml → Option String
  | .text s => some s
  | _ => none

def bool? : Toml → Option Bool
  | .bool b => some b
  | _ => none

/-- A whole number from 0 on and below `limit`. -/
def natBelow? (limit : Nat) : Toml → Option Nat
  | .integer i => if 0 ≤ i ∧ i < limit then some i.toNat else none
  | _ => none

/-- A float, or the float nearest to an integer. -/
def float? : Toml → Option Binary64
  | .float x => some x
  | .integer i => some (.ofRatio (i < 0) i.natAbs 1)
  | _ => none

/-- The values given to the named fields: by a table, by an array in the order of the names, or
none at all by a date. -/
def fields? (names : List String) : Toml → Option (List (Option Toml))
  | .table _ entries => some (names.map fun name => entries.lookup name)
  | .array items => some (byPosition items)
  | .tables items => some (byPosition (items.map (.table .header)))
  | .moment => some (byPosition [])
  | _ => none
where
  byPosition (items : List Toml) : List (Option Toml) :=
    (List.range names.length).map fun i => items[i]?

def orElse {α : Type} (fallback : α) (read : Toml → Option α) : Option Toml → Option α
  | none => some fallback
  | some value => read value

end Toml

open Toml (orElse)

def ReconnectionConfig.ofToml? (t : Toml) : Option ReconnectionConfig := do
  let fallback : ReconnectionConfig := {}
  let [maxAttempts, baseDelay, maxDelay, multiplier, jitter] ← t.fields? fieldNames | none
  return {
    maxAttempts := ← orElse fallback.maxAttempts (Toml.natBelow? uint32Limit) maxAttempts
    baseDelay := ← orElse fallback.baseDelay (Toml.natBelow? uint64Limit) baseDelay
    maxDelay := ← orElse fallback.maxDelay (Toml.natBelow? uint64Limit) maxDelay
    multiplier := ← orElse fallback.multiplier Toml.float? multiplier
    jitter := ← orElse fallback.jitter Toml.bool? jitter }

def ObservabilityConfig.ofToml? (t : Toml) : Option ObservabilityConfig := do
  let fallback : ObservabilityConfig := {}
  let [logLevel, metricsEnabled, metricsAddress] ← t.fields? fieldNames | none
  return {
    logLevel := ← orElse fallback.logLevel Toml.text? logLevel
    metricsEnabled := ← orElse fallback.metricsEnabled Toml.bool? metricsEnabled
    metricsAddress := ← orElse fallback.metricsAddress Toml.text? metricsAddress }

namespace Config

def ofToml? (t : Toml) : Option Config := do
  let fallback : Config := {}
  let [address, timeout, reconnection, observability] ← t.fields? fieldNames | none
  return {
    beaconAddress := ← orElse fallback.beaconAddress Toml.text? address
    requestTimeout := ← orElse fallback.requestTimeout (Toml.natBelow? uint64Limit) timeout
    reconnection := ← orElse fallback.reconnection ReconnectionConfig.ofToml? reconnection
    observability := ← orElse fallback.observability ObservabilityConfig.ofToml? observability }

/-- The configuration that a document describes, acceptable or not. -/
def read? (document : String) : Option Config := (Toml.parse? document).bind ofToml?

/-- The configuration that a document describes, if it is acceptable. -/
def parse (document : String) : Except Error Config :=
  match read? document with
  | some config => config.validate
  | none => .error .malformed

/-- What is found under a path. -/
inductive File where
  | missing
  | directory
  | content (bytes : ByteArray)

/-- The configuration in a file, whose content has to be UTF-8. -/
def load : File → Except Error Config
  | .missing => .error (.unreadable "NotFound")
  | .directory => .error (.unreadable "IsADirectory")
  | .content bytes =>
    match String.fromUTF8? bytes with
    | some document => parse document
    | none => .error (.unreadable "InvalidData")

end Config

end RandomBeacon
