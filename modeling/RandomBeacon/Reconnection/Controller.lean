import RandomBeacon.Metrics
import RandomBeacon.Reconnection.Budget
import RandomBeacon.Schedule

/-!
A budget of attempts and the loops that run on it. Each loop makes its own connect calls; all
share the budget, and a reset ends them all.
-/

namespace RandomBeacon

/-- A connect call: how long it takes and what it comes to. -/
structure Connect where
  delay : Nat
  outcome : Except Failure Unit

/-- A loop to run: its name, and its connect calls, numbered from 0. -/
structure Plan where
  name : String
  connect : Nat → Connect

/-- A loop that runs: it belongs to an epoch and has made so many connect calls. -/
structure Loop where
  plan : Plan
  epoch : Nat
  made : Nat := 0

inductive LoopWork where
  | starting (plan : Plan)
  | delaying (loop : Loop) (attempt : Nat)
  | connecting (loop : Loop) (attempt : Nat) (outcome : Except Failure Unit)

structure Controller where
  pacing : Pacing
  budget : Budget := {}
  metrics : Metrics := {}
  /-- The names of the loops that connected, with the instants, newest first. -/
  connects : List (String × Nat) := []
  /-- The notices with their instants, newest first. -/
  journal : List (Nat × Notice) := []

namespace Controller

def note (now : Nat) (n : Notice) (c : Controller) : Controller :=
  { c with journal := (now, n) :: c.journal }

def reset (c : Controller) : Controller := { c with budget := c.budget.reset }

abbrev Turn := Schedule.Turn Controller LoopWork (Except Failure Unit)

/-- Goes on with a loop as its turn says. -/
def follow (now : Nat) (loop : Loop) (turn : LoopTurn) (c : Controller) : Turn :=
  let c := turn.notices.foldl (fun c n => c.note now n) { c with budget := turn.budget }
  match turn.next with
  | .delay attempt duration => ⟨c, .wait (some (now + duration)) (.delaying loop attempt), []⟩
  | .ended result => ⟨c, .ended result, []⟩

/-- Makes the next connect call of a loop. -/
def connect (now : Nat) (loop : Loop) (attempt : Nat) (c : Controller) : Turn :=
  let call := loop.plan.connect loop.made
  ⟨{ c with
      metrics := c.metrics.recordReconnectAttempt
      connects := (loop.plan.name, now) :: c.connects },
    .wait (some (now + call.delay))
      (.connecting { loop with made := loop.made + 1 } attempt call.outcome), []⟩

def run (now : Nat) (c : Controller) : LoopWork → Turn
  | .starting plan =>
    c.follow now ⟨plan, c.budget.epoch, 0⟩ (c.budget.schedule c.pacing c.budget.epoch)
  | .delaying loop attempt =>
    match c.budget.elapse loop.epoch with
    | some turn => c.follow now loop turn
    | none => c.connect now loop attempt
  | .connecting loop attempt outcome =>
    c.follow now loop (c.budget.settle c.pacing loop.epoch attempt outcome)

/-- A reset wakes the loops that wait out a delay. -/
def woken (c : Controller) : LoopWork → Bool
  | .delaying loop _ => c.budget.epoch ≠ loop.epoch
  | _ => false

def rules : Schedule.Rules Controller LoopWork (Except Failure Unit) where
  woken := woken
  resume now task c := c.run now task.work

abbrev Timeline := Schedule.Timeline Controller LoopWork (Except Failure Unit)

end Controller

end RandomBeacon
