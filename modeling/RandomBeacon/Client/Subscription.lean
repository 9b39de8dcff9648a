import RandomBeacon.Backoff
import RandomBeacon.Client.Recovery

/-!
How a client subscribes: up to three calls with pauses between them, and then, if the session has
not been closed meanwhile, the subscription becomes the session's and the client is ready. A
subscription that comes too late is given back.
-/

namespace RandomBeacon

namespace Client

/-- How many subscribe calls are made before giving up. -/
def subscribeLimit : Nat := 3

/-- The pause after so many failed subscribe calls, in milliseconds. -/
def subscribePause (failed : Nat) : Nat := Backoff.delay (failed - 1) 1000 30000 .two

def closedWhileSubscribing : Failure := .connection "client was cleaned up while subscribing"

def closedWhileOpening : Failure := .connection "client was cleaned up during initialization"

def closedWhileRecovering : Failure := .connection "client was cleaned up during reconnection"

/-- No subscription could be had. An opening hands a lost connection to reconnection. -/
def subscribeFailed (p : Purpose) (e : Failure) (c : Client) : Client × Progress :=
  match p with
  | .recovering h => c.attempted h (.error e)
  | .opening generation =>
    if e.isNetwork then
      (c.note (.initialSubscriptionFailed e)).handOff .opening generation
    else
      ((c.setLifecycleIf generation .uninitialized).note (.initializationFailed e),
        .ended (.error e))

/-- Starts a subscribe call, unless the session has been closed. -/
def beginSubscribing (p : Purpose) (failed : Nat) (c : Client) : Client × Progress :=
  if c.session.generation = p.generation then (c, .wait (.subscribing p failed))
  else c.subscribeFailed p closedWhileSubscribing

/-- Replaces the dispatch handler, takes the subscription and becomes ready. -/
def install (id : SubscriptionId) (c : Client) : Client :=
  let c := c.session.dispatch.elim c fun old => (c.unsubscribeListener old).2
  let number := c.registry.issued
  let c := c.subscribeListener .dispatch
  { c with session :=
      { c.session with dispatch := some number, subscription := some id } }.setLifecycle .ready

/-- Makes a subscription the session's, or gives it back if the session has been closed. -/
def commit (p : Purpose) (id : SubscriptionId) (c : Client) : Client × Progress :=
  if c.session.generation = p.generation then
    match p with
    | .opening generation => (c.install id).finishOpening generation
    | .recovering h => (c.install id).attempted h (.ok ())
  else (c.note (.releasing id), .wait (.releasing p id))

/-- The end of a subscribe call. -/
def subscribed (p : Purpose) (failed : Nat) (outcome : Outcome SubscriptionId) (c : Client) :
    Client × Progress :=
  match outcome with
  | .returned id => (c.note (.subscribed id (failed + 1))).commit p id
  | .failed fault =>
    let e := Failure.ofSubscribeFault fault
    if e.isNetwork then
      let c := c.note (.subscriptionFailed (failed + 1) subscribeLimit e)
      if failed + 1 < subscribeLimit then (c, .wait (.pausing p (failed + 1)))
      else c.subscribeFailed p e
    else c.subscribeFailed p e
  | .panicked _ => (c, .lost)

/-- The end of giving back a subscription that came too late. -/
def released (p : Purpose) (id : SubscriptionId) (outcome : Outcome Unit) (c : Client) :
    Client × Progress :=
  let after (c : Client) : Client × Progress := match p with
    | .opening _ => (c, .ended (.error closedWhileOpening))
    | .recovering h => c.attempted h (.error closedWhileRecovering)
  match outcome with
  | .returned () => after c
  | .failed fault => after (c.note (.releaseFailed id fault))
  | .panicked _ => (c, .lost)

/-- Starts an attempt to reconnect by giving back the subscription of the lost connection. -/
def resubscribe (h : Handoff) (c : Client) : Client × Progress :=
  if c.session.generation ≠ h.generation then c.attempted h (.error closedWhileRecovering)
  else match c.session.subscription with
    | some id =>
      ({ c with session := { c.session with subscription := none } }, .wait (.dropping h id))
    | none => c.beginSubscribing (.recovering h) 0

/-- The end of the delay before an attempt to reconnect. -/
def elapsed (h : Handoff) (c : Client) : Client × Progress :=
  match c.budget.elapse h.epoch with
  | some turn => c.followLoop h turn
  | none => { c with metrics := c.metrics.recordReconnectAttempt }.resubscribe h

/-- The end of giving back the subscription of the lost connection; it may be gone already. -/
def dropped (h : Handoff) (id : SubscriptionId) (outcome : Outcome Unit) (c : Client) :
    Client × Progress :=
  match outcome with
  | .returned () => c.beginSubscribing (.recovering h) 0
  | .failed fault =>
    (c.note (.staleSubscriptionGone id fault)).beginSubscribing (.recovering h) 0
  | .panicked _ => (c, .lost)

end Client

end RandomBeacon
