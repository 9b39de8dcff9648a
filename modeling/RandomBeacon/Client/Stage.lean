import RandomBeacon.Client.Basic
import RandomBeacon.Ledger.Call

/-!
Where an operation of a client may wait. Opening a session, recovering it and closing it run
without interruption between two stages, so a stage is all that an operation keeps while others
run.
-/

namespace RandomBeacon

/-- Who started a hand-off to reconnection: the opening of a session, which waits for it, or a
lost call, which does not. -/
inductive Starter where
  | opening
  | lostCall
  deriving DecidableEq, Repr

/-- A hand-off to reconnection, and the loop in which it makes its attempts. -/
structure Handoff where
  starter : Starter
  /-- The generation of the session that lost its connection. -/
  generation : Nat
  /-- The epoch of the loop. -/
  epoch : Nat
  /-- The attempt that is due or under way, counted from 0. -/
  attempt : Nat
  deriving DecidableEq, Repr

/-- What a subscription is wanted for. -/
inductive Purpose where
  | opening (generation : Nat)
  | recovering (h : Handoff)
  deriving DecidableEq, Repr

def Purpose.generation : Purpose → Nat
  | opening generation => generation
  | recovering h => h.generation

inductive Stage where
  /-- A subscribe call is in flight, after this many that failed. -/
  | subscribing (p : Purpose) (failed : Nat)
  /-- The pause after a failed subscribe call. -/
  | pausing (p : Purpose) (failed : Nat)
  /-- A subscription that came too late is being given back. -/
  | releasing (p : Purpose) (id : SubscriptionId)
  /-- The delay before an attempt to reconnect. -/
  | scheduled (h : Handoff) (duration : Nat)
  /-- The subscription of the lost connection is being given back. -/
  | dropping (h : Handoff) (id : SubscriptionId)
  /-- The subscription of a closed session is being given back. -/
  | closing (id : SubscriptionId)
  deriving DecidableEq, Repr

/-- What ends a stage. -/
abbrev Stage.Signal : Stage → Type
  | subscribing _ _ => Outcome SubscriptionId
  | releasing _ _ | dropping _ _ | closing _ => Outcome Unit
  | pausing _ _ | scheduled _ _ => Unit

/-- What an operation does next. -/
inductive Progress where
  | wait (stage : Stage)
  | ended (result : Except Failure Unit)
  /-- The provider panicked and took the operation with it. -/
  | lost

end RandomBeacon
