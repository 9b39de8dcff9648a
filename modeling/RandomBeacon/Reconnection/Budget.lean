import RandomBeacon.Config.Basic
import RandomBeacon.Notice

/-!
The loop that reconnects: it waits out a delay, tries to connect, and goes on while attempts fail
for the network and the budget of attempts lasts. A reset starts a new epoch; a loop of an older
epoch ends at its next step and leaves the count alone.
-/

namespace RandomBeacon

structure Budget where
  /-- How many resets there have been. -/
  epoch : Nat := 0
  /-- Failed attempts of the loop that runs, or of the one that spent the budget. -/
  attempts : Nat := 0
  /-- How many delays there have been. -/
  delays : Nat := 0
  deriving DecidableEq, Repr

/-- The settings of a loop, and the factors that jitter draws, one for each delay. -/
structure Pacing where
  config : ReconnectionConfig
  factors : Nat → Binary64 := fun _ => .one

/-- A step of a loop: it waits before an attempt, for so many milliseconds, or ends. -/
inductive LoopNext where
  | delay (attempt duration : Nat)
  | ended (result : Except Failure Unit)

structure LoopTurn where
  budget : Budget
  notices : List Notice
  next : LoopNext

namespace Budget

def cancelled : Failure := .connection "reconnection cancelled by reset"

def reset (b : Budget) : Budget := { b with epoch := b.epoch + 1, attempts := 0 }

/-- The head of the loop: what a loop of `epoch` does before its next attempt. -/
def schedule (p : Pacing) (epoch : Nat) (b : Budget) : LoopTurn :=
  if b.epoch ≠ epoch then ⟨b, [], .ended (.error cancelled)⟩
  else if p.config.maxAttempts ≤ b.attempts then
    ⟨b, [], .ended (.error (.reconnection b.attempts))⟩
  else
    let duration := p.config.delay (p.factors b.delays) b.attempts
    ⟨{ b with delays := b.delays + 1 },
      [.attemptScheduled (b.attempts + 1) p.config.maxAttempts duration],
      .delay b.attempts duration⟩

/-- The end of a delay: the loop of `epoch` connects now, unless it was cancelled meanwhile. -/
def elapse (epoch : Nat) (b : Budget) : Option LoopTurn :=
  if b.epoch = epoch then none
  else some ⟨b, [.attemptCancelled], .ended (.error cancelled)⟩

/-- The end of attempt number `attempt`, counted from 0, in a loop of `epoch`. -/
def settle (p : Pacing) (epoch attempt : Nat) (outcome : Except Failure Unit)
    (b : Budget) : LoopTurn :=
  if b.epoch ≠ epoch then ⟨b, [.attemptDiscarded], .ended (.error cancelled)⟩
  else match outcome with
    | .ok () => ⟨{ b with attempts := 0 }, [.reconnected (attempt + 1)], .ended (.ok ())⟩
    | .error e =>
      if e.isNetwork then
        let b := { b with attempts := b.attempts + 1 }
        let failed := Notice.attemptFailed b.attempts p.config.maxAttempts e
        if p.config.maxAttempts ≤ b.attempts then
          ⟨b, [failed], .ended (.error (.reconnection b.attempts))⟩
        else
          let turn := b.schedule p epoch
          { turn with notices := failed :: turn.notices }
      else ⟨{ b with attempts := 0 }, [.attemptAborted e], .ended (.error e)⟩

end Budget

end RandomBeacon
