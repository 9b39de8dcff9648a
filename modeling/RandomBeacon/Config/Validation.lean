import RandomBeacon.Binary64.Shortest
import RandomBeacon.Config.Basic
import RandomBeacon.Text.Blank

/-!
What makes a configuration acceptable. Every problem is reported, in a fixed order.
-/

namespace RandomBeacon

inductive ConfigProblem where
  | emptyBeaconAddress
  | zeroRequestTimeout
  | zeroMaxAttempts
  | zeroBaseDelay
  | maxDelayBelowBase (base cap : Nat)
  | invalidMultiplier (multiplier : Binary64)
  deriving DecidableEq, Repr

namespace ConfigProblem

def message : ConfigProblem → String
  | emptyBeaconAddress => "beacon_address must not be empty"
  | zeroRequestTimeout => "request_timeout_ms must be greater than 0"
  | zeroMaxAttempts => "reconnection.max_attempts must be at least 1"
  | zeroBaseDelay => "reconnection.base_delay_ms must be greater than 0"
  | maxDelayBelowBase base cap =>
    s!"reconnection.max_delay_ms ({cap}) is below base_delay_ms ({base})"
  | invalidMultiplier x =>
    "reconnection.backoff_multiplier must be a finite number >= 1.0, got "
      ++ Binary64.NumeralStyle.plain.text x

/-- The problem as a constructor with its fields. -/
def inspected : ConfigProblem → String
  | emptyBeaconAddress => "EmptyBeaconAddress"
  | zeroRequestTimeout => "ZeroRequestTimeout"
  | zeroMaxAttempts => "ZeroMaxAttempts"
  | zeroBaseDelay => "ZeroBaseDelay"
  | maxDelayBelowBase base cap =>
    "MaxDelayBelowBase \x7b base: " ++ toString base ++ ", max: " ++ toString cap ++ " \x7d"
  | invalidMultiplier x => "InvalidMultiplier(" ++ Binary64.NumeralStyle.inspected.text x ++ ")"

end ConfigProblem

namespace Config

/-- The problems of a configuration, in the order of the checks. -/
def problems (c : Config) : List ConfigProblem :=
  let r := c.reconnection
  (if isBlank c.beaconAddress then [.emptyBeaconAddress] else [])
  ++ (if c.requestTimeout = 0 then [.zeroRequestTimeout] else [])
  ++ (if r.maxAttempts = 0 then [.zeroMaxAttempts] else [])
  ++ (if r.baseDelay = 0 then [.zeroBaseDelay] else [])
  ++ (if r.maxDelay < r.baseDelay then [.maxDelayBelowBase r.baseDelay r.maxDelay] else [])
  ++ (if !r.multiplier.isFinite || r.multiplier.lt .one then [.invalidMultiplier r.multiplier]
      else [])

/-- Why no configuration could be had. -/
inductive Error where
  /-- The file could not be read. -/
  | unreadable (cause : String)
  /-- The text is not a configuration. -/
  | malformed
  | invalid (problems : List ConfigProblem)
  deriving DecidableEq, Repr

def Error.invalidMessage (problems : List ConfigProblem) : String :=
  "Validation failed: " ++ ", ".intercalate (problems.map ConfigProblem.message)

/-- A configuration that has no problems, as it is. -/
def validate (c : Config) : Except Error Config :=
  if c.problems.isEmpty then .ok c else .error (.invalid c.problems)

end Config

end RandomBeacon
