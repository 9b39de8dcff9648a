import RandomBeacon.Backoff

/-!
The configuration of a client.
-/

namespace RandomBeacon

/-- How a lost connection is recovered. Delays are in milliseconds. -/
structure ReconnectionConfig where
  maxAttempts : Nat := 10
  baseDelay : Nat := 1000
  maxDelay : Nat := 30000
  multiplier : Binary64 := .two
  /-- Stretch each delay by a random factor from 1 to 1.3. -/
  jitter : Bool := true
  deriving DecidableEq, Repr

structure ObservabilityConfig where
  logLevel : String := "info"
  metricsEnabled : Bool := false
  metricsAddress : String := "127.0.0.1:9090"
  deriving DecidableEq, Repr

structure Config where
  beaconAddress : String := ""
  /-- The deadline of every submission and query, in milliseconds. -/
  requestTimeout : Nat := 30000
  reconnection : ReconnectionConfig := {}
  observability : ObservabilityConfig := {}
  deriving DecidableEq, Repr

/-- The delay before attempt number `attempt`, counted from 0; `factor` is what jitter draws. -/
def ReconnectionConfig.delay (c : ReconnectionConfig) (factor : Binary64) (attempt : Nat) : Nat :=
  Backoff.stretched attempt c.baseDelay c.maxDelay c.multiplier (if c.jitter then factor else .one)

end RandomBeacon
