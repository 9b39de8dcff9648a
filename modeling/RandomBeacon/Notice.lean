import RandomBeacon.Failure

/-!
The notices a client and its parts log: how grave each is, what it says, and its fields.
-/

namespace RandomBeacon

/-- The gravest first. -/
inductive Level where
  | error
  | warn
  | info
  | debug
  deriving DecidableEq, Repr

namespace Level

def label : Level → String
  | error => "ERROR"
  | warn => "WARN"
  | info => "INFO"
  | debug => "DEBUG"

def rank : Level → Nat
  | error => 0
  | warn => 1
  | info => 2
  | debug => 3

end Level

inductive Notice where
  | initializing (beacon : String)
  | initialSubscriptionFailed (failure : Failure)
  | initializationFailed (failure : Failure)
  | ready
  | randomnessRequested (id : RequestId)
  | requestFailed (id : RequestId) (failure : Failure)
  | queryFailed (round : UInt64) (failure : Failure)
  | unsubscribeFailed (id : SubscriptionId) (fault : Fault)
  | cleanedUp
  | backgroundReconnectionFailed (failure : Failure)
  | subscribed (id : SubscriptionId) (attempt : Nat)
  | subscriptionFailed (attempt limit : Nat) (failure : Failure)
  | releasing (id : SubscriptionId)
  | releaseFailed (id : SubscriptionId) (fault : Fault)
  | dispatching (round : UInt64) (callbacks : Nat)
  | callbackFailed (id : RequestId) (round : UInt64) (reason : String)
  | staleSubscriptionGone (id : SubscriptionId) (fault : Fault)
  | failureOfPreviousSession
  | reconnectionInProgress
  | reconnectionSkipped (state : Lifecycle)
  | connectionLost
  | recovered
  | budgetExhausted (failure : Failure)
  | attemptScheduled (attempt limit delay : Nat)
  | attemptCancelled
  | attemptDiscarded
  | reconnected (attempt : Nat)
  | attemptFailed (attempt limit : Nat) (failure : Failure)
  | attemptAborted (failure : Failure)
  | handlerRegistered (registration : Nat) (topic : Topic)
  | unknownRegistration (registration : Nat)
  | handlerFailed (registration : Nat) (topic : Topic) (reason : String)
  | callAborted (reason : String)
  | publishing (round : UInt64) (subscribers : Nat)
  | requestAccepted (id : String)
  deriving DecidableEq, Repr

namespace Notice

def level : Notice → Level
  | initializing _ | ready | randomnessRequested _ | cleanedUp | releasing _ | recovered
  | attemptScheduled _ _ _ | attemptCancelled | attemptDiscarded | reconnected _ => .info
  | initialSubscriptionFailed _ | requestFailed _ _ | queryFailed _ _ | unsubscribeFailed _ _
  | subscriptionFailed _ _ _ | releaseFailed _ _ | connectionLost | attemptFailed _ _ _
  | attemptAborted _ => .warn
  | initializationFailed _ | backgroundReconnectionFailed _ | callbackFailed _ _ _
  | budgetExhausted _ | handlerFailed _ _ _ | callAborted _ => .error
  | subscribed _ _ | dispatching _ _ | staleSubscriptionGone _ _ | failureOfPreviousSession
  | reconnectionInProgress | reconnectionSkipped _ | handlerRegistered _ _ | unknownRegistration _
  | publishing _ _ | requestAccepted _ => .debug

def message : Notice → String
  | initializing _ => "Initializing beacon client"
  | initialSubscriptionFailed _ => "Initial subscription failed, handing off to reconnection"
  | initializationFailed _ => "Beacon client initialization failed"
  | ready => "Beacon client ready"
  | randomnessRequested _ => "Randomness requested"
  | requestFailed _ _ => "Randomness request failed"
  | queryFailed _ _ => "Randomness query failed"
  | unsubscribeFailed _ _ => "Failed to unsubscribe during cleanup"
  | cleanedUp => "Beacon client cleaned up"
  | backgroundReconnectionFailed _ => "Background reconnection failed"
  | subscribed _ _ => "Subscribed to RandomnessPublished"
  | subscriptionFailed _ _ _ => "Subscription attempt failed"
  | releasing _ => "Releasing subscription created after cleanup"
  | releaseFailed _ _ => "Failed to release subscription"
  | dispatching _ _ => "Dispatching published randomness"
  | callbackFailed _ _ _ => "Randomness callback failed"
  | staleSubscriptionGone _ _ => "Stale subscription already gone"
  | failureOfPreviousSession => "Ignoring failure from a previous session"
  | reconnectionInProgress => "Reconnection already in progress"
  | reconnectionSkipped _ => "Skipping reconnection"
  | connectionLost => "Connection lost, reconnecting"
  | recovered => "Beacon subscription recovered"
  | budgetExhausted _ => "Reconnection budget exhausted, client failed"
  | attemptScheduled _ _ _ => "Scheduling reconnection attempt"
  | attemptCancelled => "Pending reconnection attempt cancelled"
  | attemptDiscarded => "Reconnection attempt finished after reset, discarding outcome"
  | reconnected _ => "Reconnected"
  | attemptFailed _ _ _ => "Reconnection attempt failed"
  | attemptAborted _ => "Reconnection aborted by non-network error"
  | handlerRegistered _ _ => "Handler registered"
  | unknownRegistration _ => "Unsubscribe for unknown registration"
  | handlerFailed _ _ _ => "Event handler failed"
  | callAborted _ => "Provider call task failed"
  | publishing _ _ => "Mock: publishing round"
  | requestAccepted _ => "Mock: accepted randomness request"

/-- The fields of a notice, in the order of their names. -/
def fields : Notice → List (String × String)
  | initializing beacon => [("beacon", beacon)]
  | initialSubscriptionFailed e | initializationFailed e | backgroundReconnectionFailed e
  | budgetExhausted e | attemptAborted e => [("error", e.message)]
  | randomnessRequested id => [("request_id", id.text)]
  | requestFailed id e => [("error", e.message), ("request_id", id.text)]
  | queryFailed round e => [("error", e.message), ("round_id", toString round.toNat)]
  | unsubscribeFailed id e | releaseFailed id e | staleSubscriptionGone id e =>
    [("error", e.message), ("subscription", id.text)]
  | subscribed id attempt => [("attempt", toString attempt), ("subscription", id.text)]
  | subscriptionFailed attempt limit e | attemptFailed attempt limit e =>
    [("attempt", toString attempt), ("error", e.message), ("max_attempts", toString limit)]
  | releasing id => [("subscription", id.text)]
  | dispatching round callbacks =>
    [("callbacks", toString callbacks), ("round_id", toString round.toNat)]
  | callbackFailed id round reason =>
    [("error", reason), ("request_id", id.text), ("round_id", toString round.toNat)]
  | reconnectionSkipped state => [("state", state.name)]
  | attemptScheduled attempt limit delay =>
    [("attempt", toString attempt), ("delay_ms", toString delay),
      ("max_attempts", toString limit)]
  | reconnected attempt => [("attempt", toString attempt)]
  | handlerRegistered registration topic =>
    [("event_type", topic.name), ("registration", toString registration)]
  | unknownRegistration registration => [("registration", toString registration)]
  | handlerFailed registration topic reason =>
    [("error", reason), ("event_type", topic.name), ("registration", toString registration)]
  | callAborted reason => [("error", reason)]
  | publishing round subscribers =>
    [("round_id", toString round.toNat), ("subscribers", toString subscribers)]
  | requestAccepted id => [("request_id", id)]
  | ready | cleanedUp | failureOfPreviousSession | reconnectionInProgress | connectionLost
  | recovered | attemptCancelled | attemptDiscarded => []

end Notice

end RandomBeacon
