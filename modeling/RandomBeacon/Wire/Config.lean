import RandomBeacon.Config.Basic
import RandomBeacon.Wire.Field

/-!
Configurations in JSON. Every field may be missing and then has its default.
-/

namespace RandomBeacon

open Json.Field (orElse)

def uint32Limit : Nat := Nat.pow 2 32
def uint64Limit : Nat := Nat.pow 2 64

namespace ReconnectionConfig

def fieldNames : List String :=
  ["max_attempts", "base_delay_ms", "max_delay_ms", "backoff_multiplier", "jitter"]

def ofJson? (j : Json) : Option ReconnectionConfig := do
  let fallback : ReconnectionConfig := {}
  let [maxAttempts, baseDelay, maxDelay, multiplier, jitter] ← j.fields? fieldNames | none
  return {
    maxAttempts := ← orElse fallback.maxAttempts (Json.natBelow? uint32Limit) maxAttempts
    baseDelay := ← orElse fallback.baseDelay (Json.natBelow? uint64Limit) baseDelay
    maxDelay := ← orElse fallback.maxDelay (Json.natBelow? uint64Limit) maxDelay
    multiplier := ← orElse fallback.multiplier Json.float? multiplier
    jitter := ← orElse fallback.jitter Json.bool? jitter }

end ReconnectionConfig

namespace ObservabilityConfig

def fieldNames : List String := ["log_level", "metrics_enabled", "metrics_address"]

def ofJson? (j : Json) : Option ObservabilityConfig := do
  let fallback : ObservabilityConfig := {}
  let [logLevel, metricsEnabled, metricsAddress] ← j.fields? fieldNames | none
  return {
    logLevel := ← orElse fallback.logLevel Json.text? logLevel
    metricsEnabled := ← orElse fallback.metricsEnabled Json.bool? metricsEnabled
    metricsAddress := ← orElse fallback.metricsAddress Json.text? metricsAddress }

end ObservabilityConfig

namespace Config

def fieldNames : List String :=
  ["beacon_address", "request_timeout_ms", "reconnection", "observability"]

def ofJson? (j : Json) : Option Config := do
  let fallback : Config := {}
  let [address, timeout, reconnection, observability] ← j.fields? fieldNames | none
  return {
    beaconAddress := ← orElse fallback.beaconAddress Json.text? address
    requestTimeout := ← orElse fallback.requestTimeout (Json.natBelow? uint64Limit) timeout
    reconnection := ← orElse fallback.reconnection ReconnectionConfig.ofJson? reconnection
    observability := ← orElse fallback.observability ObservabilityConfig.ofJson? observability }

end Config

end RandomBeacon
