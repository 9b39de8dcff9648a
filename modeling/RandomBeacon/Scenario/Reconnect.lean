import RandomBeacon.Reconnection.Controller
import RandomBeacon.Scenario.Completion
import RandomBeacon.Scenario.Sample

/-!
Scripted runs of the reconnection loop.
-/

namespace RandomBeacon.Scenario

inductive ReconnectStep where
  | await (plan : Plan)
  /-- Starts a loop under a name as a task of its own. -/
  | start (name : String) (plan : Plan)
  | reset
  | delayFor (attempt : Nat)
  | sleep (duration : Nat)
  | config
  | metrics

/-- What a step gives back. -/
inductive ReconnectReply where
  | nothing
  | started
  | ended (result : Except Failure Unit)
  | delay (duration : Nat)
  | config (c : ReconnectionConfig)
  | samples (m : Metrics)

structure ReconnectReport where
  reply : ReconnectReply
  instant : Nat
  /-- The connect calls with their instants, in the order of time and then of names. -/
  connects : List (String × Nat)
  completed : List (Completion (Except Failure Unit))
  logs : List String
  attempts : Nat

structure ReconnectRun where
  timeline : Controller.Timeline
  /-- The tasks of the loops with names. -/
  names : List (Nat × String) := []

/-- The connect calls that are listed one by one; the last one repeats. -/
def listedConnects (calls : List Connect) (n : Nat) : Connect :=
  (calls[n]?.or calls.getLast?).getD ⟨0, .ok ()⟩

namespace ReconnectRun

def fresh (config : ReconnectionConfig) : ReconnectRun where
  timeline := { state := { pacing := ⟨config, sampleFactor⟩ } }

def controller (r : ReconnectRun) : Controller := r.timeline.state

/-- More turns than the loops of a run can take. -/
def fuel (r : ReconnectRun) : Nat :=
  4 * (r.timeline.tasks.length + 1) * (r.controller.pacing.config.maxAttempts + 2)

def spawn (plan : Plan) (r : ReconnectRun) : Nat × ReconnectRun :=
  (r.timeline.issued,
    { r with timeline := r.timeline.spawn (some r.timeline.now) (.starting plan) })

def await (plan : Plan) (r : ReconnectRun) : ReconnectReply × ReconnectRun :=
  let (id, r) := r.spawn plan
  let timeline := r.timeline.await Controller.rules r.fuel id
  ((timeline.resultOf? id).elim .nothing .ended, { r with timeline })

def settle (r : ReconnectRun) : ReconnectRun :=
  { r with timeline := r.timeline.settle Controller.rules r.fuel }

def apply (r : ReconnectRun) : ReconnectStep → ReconnectReply × ReconnectRun
  | .await plan => r.await plan
  | .start name plan =>
    let (id, r) := r.spawn plan
    (.started, { r with names := (id, name) :: r.names })
  | .reset => (.nothing, { r with timeline := (r.timeline.change fun c => ((), c.reset)).2 })
  | .delayFor attempt =>
    (.delay (r.controller.pacing.config.delay (sampleFactor 0) attempt), r)
  | .sleep duration =>
    (.nothing, { r with
      timeline := r.timeline.pass Controller.rules r.fuel duration })
  | .config => (.config r.controller.pacing.config, r)
  | .metrics => (.samples r.controller.metrics, r)

def report (level : Option Level) (before after : ReconnectRun) (reply : ReconnectReply) :
    ReconnectReport where
  reply := reply
  instant := after.timeline.now
  connects := (newest before.controller.connects after.controller.connects).mergeSort
    fun a b => inOrder (a.2, a.1) (b.2, b.1)
  completed := completions after.names before.timeline after.timeline
  logs := logLines level (newest before.controller.journal after.controller.journal)
  attempts := after.controller.budget.attempts

end ReconnectRun

/-- Runs the steps and reports after each what is new. -/
def runReconnect (level : Option Level) : ReconnectRun → List ReconnectStep → List ReconnectReport
  | _, [] => []
  | before, step :: rest =>
    let (reply, after) := before.apply step
    let after := after.settle
    before.report level after reply :: runReconnect level after rest

end RandomBeacon.Scenario
