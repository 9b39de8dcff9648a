import RandomBeacon.Failure

/-!
The metrics a client keeps, and the samples they show.
-/

namespace RandomBeacon

/-- The operations whose outcomes are counted. -/
inductive Measured where
  | requestRandomness
  | getRandomness
  deriving DecidableEq, Repr

def Measured.label : Measured → String
  | requestRandomness => "request_randomness"
  | getRandomness => "get_randomness"

/-- How a reconnection ends. -/
inductive ReconnectionEnd where
  | success
  | exhausted
  | aborted
  deriving DecidableEq, Repr

def ReconnectionEnd.label : ReconnectionEnd → String
  | success => "success"
  | exhausted => "exhausted"
  | aborted => "aborted"

structure Metrics where
  /-- The measured operations that ended, newest first; none stands for success. -/
  requests : List (Measured × Option FailureKind) := []
  reconnectAttempts : Nat := 0
  /-- The reconnections that ended, newest first. -/
  reconnections : List ReconnectionEnd := []
  eventsDispatched : Nat := 0
  callbackFailures : Nat := 0
  /-- The last reading of the gauge of pending callbacks. -/
  pendingCallbacks : Option Nat := none
  deriving DecidableEq, Repr

namespace Metrics

def recordRequest (m : Metrics) (op : Measured) (outcome : Option FailureKind) : Metrics :=
  { m with requests := (op, outcome) :: m.requests }

def recordReconnectAttempt (m : Metrics) : Metrics :=
  { m with reconnectAttempts := m.reconnectAttempts + 1 }

def recordReconnection (m : Metrics) (result : ReconnectionEnd) : Metrics :=
  { m with reconnections := result :: m.reconnections }

def recordDispatch (m : Metrics) : Metrics := { m with eventsDispatched := m.eventsDispatched + 1 }

def recordCallbackFailure (m : Metrics) : Metrics :=
  { m with callbackFailures := m.callbackFailures + 1 }

def recordPending (m : Metrics) (count : Nat) : Metrics := { m with pendingCallbacks := some count }

/-- How many operations of a kind ended with an outcome. -/
def requestCount (m : Metrics) (op : Measured) (outcome : Option FailureKind) : Nat :=
  m.requests.count (op, outcome)

/-- How many durations were measured: one for each operation that ended. -/
def durationCount (m : Metrics) (op : Measured) : Nat := (m.requests.filter (·.1 = op)).length

def reconnectionCount (m : Metrics) (result : ReconnectionEnd) : Nat := m.reconnections.count result

def outcomeLabel (outcome : Option FailureKind) : String :=
  outcome.elim "success" FailureKind.label

/-- A name with its labels in quotes. -/
def sampleName (name : String) (labels : List (String × String)) : String :=
  name ++ "\x7b" ++ ",".intercalate (labels.map fun (key, value) => key ++ "=\"" ++ value ++ "\"")
    ++ "\x7d"

/-- The counters that have ever moved and the gauge if it was ever set. -/
def samples (m : Metrics) : List (String × Nat) :=
  let ops := [Measured.requestRandomness, Measured.getRandomness]
  let outcomes := none :: FailureKind.all.map some
  let ends := [ReconnectionEnd.success, .exhausted, .aborted]
  let counters :=
    (ops.flatMap fun op => outcomes.map fun outcome =>
      (sampleName "beacon_requests_total"
        [("operation", op.label), ("outcome", outcomeLabel outcome)], m.requestCount op outcome))
    ++ (ops.map fun op =>
      (sampleName "beacon_request_duration_seconds_count" [("operation", op.label)],
        m.durationCount op))
    ++ (ends.map fun result =>
      (sampleName "beacon_reconnections_total" [("outcome", result.label)],
        m.reconnectionCount result))
    ++ [("beacon_reconnect_attempts_total", m.reconnectAttempts),
      ("beacon_events_dispatched_total", m.eventsDispatched),
      ("beacon_callback_failures_total", m.callbackFailures)]
  counters.filter (0 < ·.2)
    ++ m.pendingCallbacks.toList.map fun count => ("beacon_pending_callbacks", count)

end Metrics

end RandomBeacon
