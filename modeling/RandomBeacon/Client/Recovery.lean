import RandomBeacon.Client.Stage

/-!
The hand-off of a session to reconnection, and its end. At most one hand-off of a generation runs
at a time. However it ends, it takes its guard down and leaves the session ready, failed or
uninitialized, unless the session has been closed meanwhile.
-/

namespace RandomBeacon

namespace Client

/-- The end of an opening: it has succeeded if the client is ready. -/
def finishOpening (generation : Nat) (c : Client) : Client × Progress :=
  match c.readyGeneration with
  | .ok _ => (c.note .ready, .ended (.ok ()))
  | .error e => (c.transition generation .initializing .uninitialized, .ended (.error e))

/-- Takes the result of a hand-off to the one who started it. -/
def handedOff (starter : Starter) (generation : Nat) (result : Except Failure Unit) (c : Client) :
    Client × Progress :=
  match starter, result with
  | .opening, .ok () => c.finishOpening generation
  | .opening, .error e => (c, .ended (.error e))
  | .lostCall, .ok () => (c, .ended (.ok ()))
  | .lostCall, .error e => (c.note (.backgroundReconnectionFailed e), .ended (.error e))

/-- Takes down the guard of a generation's hand-off. -/
def clearReconnecting (generation : Nat) (c : Client) : Client :=
  if c.session.reconnecting = some generation then
    { c with session := { c.session with reconnecting := none } }
  else c

def recordReconnection (result : ReconnectionEnd) (c : Client) : Client :=
  { c with metrics := c.metrics.recordReconnection result }

/-- The end of the loop of a hand-off. -/
def loopEnded (h : Handoff) (result : Except Failure Unit) (c : Client) : Client × Progress :=
  let c := c.clearReconnecting h.generation
  let c := match result with
    | .ok () => (c.recordReconnection .success).note .recovered
    | .error e =>
      if e.isReconnection then
        ((c.recordReconnection .exhausted).setLifecycleIf h.generation .failed).note
          (.budgetExhausted e)
      else (c.recordReconnection .aborted).setLifecycleIf h.generation .uninitialized
  c.handedOff h.starter h.generation result

/-- Goes on with a loop as its turn says. -/
def followLoop (h : Handoff) (turn : LoopTurn) (c : Client) : Client × Progress :=
  let c := { c with budget := turn.budget }.noteAll turn.notices
  match turn.next with
  | .delay attempt duration => (c, .wait (.scheduled { h with attempt } duration))
  | .ended result => c.loopEnded h result

/-- The end of an attempt to reconnect. -/
def attempted (h : Handoff) (outcome : Except Failure Unit) (c : Client) : Client × Progress :=
  c.followLoop h (c.budget.settle c.pacing h.epoch h.attempt outcome)

/-- Puts up the guard of a generation's hand-off. -/
def loseConnection (generation : Nat) (c : Client) : Client :=
  ({ c with session := { c.session with reconnecting := some generation } }.setLifecycle
    .reconnecting).note .connectionLost

/-- Hands the session of `generation` to reconnection, unless it has been closed, is being
reconnected already, or has no connection to lose. -/
def handOff (starter : Starter) (generation : Nat) (c : Client) : Client × Progress :=
  if c.session.generation ≠ generation then
    (c.note .failureOfPreviousSession).handedOff starter generation (.ok ())
  else if c.session.reconnecting = some generation then
    (c.note .reconnectionInProgress).handedOff starter generation (.ok ())
  else match c.session.lifecycle with
    | .ready | .initializing =>
      let c := c.loseConnection generation
      c.followLoop ⟨starter, generation, c.budget.epoch, c.budget.attempts⟩
        (c.budget.schedule c.pacing c.budget.epoch)
    | other =>
      (c.note (.reconnectionSkipped other)).handedOff starter generation
        (.error (.notReady other))

end Client

end RandomBeacon
