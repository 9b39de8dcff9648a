import RandomBeacon.Client.Subscription

/-!
The operations on a client's session: opening it, recovering it and closing it. Each starts here
and goes on with `resume` whenever a stage has ended.
-/

namespace RandomBeacon

namespace Client

/-- Subscribes and becomes ready. -/
def openSession (c : Client) : Client × Progress :=
  match c.session.lifecycle with
  | .ready => (c, .ended (.ok ()))
  | .uninitialized =>
    ((c.setLifecycle .initializing).note (.initializing c.config.beaconAddress)).beginSubscribing
      (.opening c.session.generation) 0
  | other => (c, .ended (.error (.notReady other)))

/-- Recovers from a call that was lost in `generation`. -/
def recoverSession (generation : Nat) (c : Client) : Client × Progress :=
  c.handOff .lostCall generation

/-- Closes the session: a new generation begins, without handlers, callbacks or subscription, and
what is still under way is stale. -/
def reset (c : Client) : Client :=
  { c with
    session := { generation := c.session.generation + 1 }
    watch := ⟨.uninitialized, c.watch.version + 1⟩
    registry := c.registry.clear
    callbacks := []
    budget := c.budget.reset }.recordPending

/-- The end of giving back the subscription of a closed session. -/
def sessionClosed (id : SubscriptionId) (outcome : Outcome Unit) (c : Client) : Client × Progress :=
  match outcome with
  | .returned () => (c.note .cleanedUp, .ended (.ok ()))
  | .failed fault => ((c.note (.unsubscribeFailed id fault)).note .cleanedUp, .ended (.ok ()))
  | .panicked _ => (c, .lost)

/-- Closes the session and gives its subscription back. -/
def closeSession (c : Client) : Client × Progress :=
  match c.session.subscription with
  | some id => (c.reset, .wait (.closing id))
  | none => (c.reset.note .cleanedUp, .ended (.ok ()))

/-- Goes on after a stage. -/
def resume : (s : Stage) → s.Signal → Client → Client × Progress
  | .subscribing p failed, outcome, c => c.subscribed p failed outcome
  | .pausing p failed, (), c => c.beginSubscribing p failed
  | .releasing p id, outcome, c => c.released p id outcome
  | .scheduled h _, (), c => c.elapsed h
  | .dropping h id, outcome, c => c.dropped h id outcome
  | .closing id, outcome, c => c.sessionClosed id outcome

end Client

end RandomBeacon
