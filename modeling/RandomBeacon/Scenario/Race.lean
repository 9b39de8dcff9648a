import RandomBeacon.Race
import RandomBeacon.Scenario.Log
import RandomBeacon.Schedule

/-!
A scripted race of one call against its deadline, and what the call does after it was given up.
-/

namespace RandomBeacon.Scenario

inductive Racer where
  /-- Waits for the call until the deadline. -/
  | waiting
  /-- The call is about to start. -/
  | calling
  | inFlight

structure RaceTrack (α : Type) where
  outcome : Option (Outcome α) := none
  /-- The instants at which the call ended, newest first. -/
  finished : List Nat := []
  /-- The notices with their instants, newest first. -/
  journal : List (Nat × Notice) := []

structure RaceReport (α : Type) where
  answer : Option (Except Failure (Except Fault α))
  instant : Nat
  finished : List Nat
  laterInstant : Nat
  laterFinished : List Nat
  logs : List String

/-- The rules of a race: the call takes `delay` milliseconds and ends in `outcome`. -/
def raceRules {α : Type} (delay : Nat) (outcome : Outcome α) :
    Schedule.Rules (RaceTrack α) Racer (Option (Raced α)) where
  woken s
    | .waiting => s.outcome.isSome
    | _ => false
  resume now task s := match task.work with
    | .waiting =>
      let raced := s.outcome.elim .expired .ended
      ⟨{ s with journal := raced.notices.map (now, ·) ++ s.journal }, .ended (some raced), []⟩
    | .calling => ⟨s, .wait (some (now + delay)) .inFlight, []⟩
    | .inFlight =>
      ⟨{ s with outcome := some outcome, finished := now :: s.finished }, .ended none, []⟩

/-- Runs a race to its end and then for another `rest` milliseconds. -/
def runRace {α : Type} (level : Option Level) (deadline delay : Nat) (outcome : Outcome α)
    (rest : Nat) : RaceReport α :=
  let rules := raceRules delay outcome
  let start : Schedule.Timeline (RaceTrack α) Racer (Option (Raced α)) := { state := {} }
  let fuel := 16
  let raced := ((start.spawn (some deadline) .waiting).spawn (some 0) .calling).await rules fuel 0
  let later := raced.pass rules fuel rest
  { answer := (raced.resultOf? 0).join.map (Raced.answer deadline)
    instant := raced.now
    finished := raced.state.finished.reverse
    laterInstant := later.now
    laterFinished := later.state.finished.reverse
    logs := logLines level later.state.journal }

end RandomBeacon.Scenario
