import RandomBeacon.Client.World
import RandomBeacon.Scenario.Completion
import RandomBeacon.Scenario.Log
import RandomBeacon.Scenario.Sample

/-!
Scripted runs of a client. A step runs at once, or it is an errand that is awaited or left to a
task of its own; after each step whatever can run runs before the report is made.
-/

namespace RandomBeacon.Scenario

inductive ClientStep where
  | await (e : Errand)
  /-- Starts an errand under a name as a task of its own. -/
  | start (name : String) (e : Errand)
  | sleep (duration : Nat)
  | cancel (name : String)
  | listen (handler : ClientHandler)
  | unlisten (name : String)
  | configure (change : Behavior → Behavior)
  | script (change : Script → Script)
  | publish (r : Round)
  | publishRound
  | config
  | inspect
  | metrics

/-- What a step gives back. -/
inductive ClientReply where
  | nothing
  | started
  | ended (reply : Reply)
  | unknownName
  | removed (found : Bool)
  | listening
  | reached (count : Nat)
  | published (r : Round)
  | config (c : Config)
  | inspected (client ledger : String)
  | samples (m : Metrics)

structure ClientReport where
  reply : ClientReply
  instant : Nat
  heard : List (String × Randomness)
  completed : List (Completion Reply)
  logs : List String
  lifecycle : Lifecycle
  /-- Whether the lifecycle was sent to those who watch it. -/
  changed : Bool
  pending : Nat
  attempts : Nat
  subscription : Option String
  ledger : Simulated
  calls : List (Nat × Call)

structure ClientRun where
  timeline : World.Timeline Backend
  /-- The tasks of the errands with names. -/
  names : List (Nat × String) := []
  /-- The subscriptions that the client had after a step, the first one first. -/
  seen : List SubscriptionId := []

namespace ClientRun

def fresh (config : Config) (provider : Backend) : ClientRun where
  timeline :=
    { state :=
        { scene := { client := { config, factors := sampleFactor } }
          provider
          suffixes := sampleSuffix } }

def world (r : ClientRun) : World Backend := r.timeline.state

def client (r : ClientRun) : Client := r.world.client

/-- Changes the world between two turns. -/
def change {α : Type} (f : World Backend → α × World Backend) (r : ClientRun) : α × ClientRun :=
  let (a, timeline) := r.timeline.change fun w =>
    let (a, w) := f w
    (a, w.journalAt r.timeline.now)
  (a, { r with timeline })

def changeScene {α : Type} (f : Scene → α × Scene) (r : ClientRun) : α × ClientRun :=
  r.change fun w => let (a, scene) := f w.scene; (a, { w with scene })

def changeProvider {α : Type} (f : Backend → α × Backend) (r : ClientRun) : α × ClientRun :=
  r.change fun w => let (a, provider) := f w.provider; (a, { w with provider })

def settle (r : ClientRun) : ClientRun :=
  { r with timeline := r.timeline.settle World.rules r.timeline.fuel }

def sleep (duration : Nat) (r : ClientRun) : ClientRun :=
  { r with timeline := r.timeline.pass World.rules r.timeline.fuel duration }

/-- Draws the next round of the ledger and publishes it. -/
def publishRound (r : ClientRun) : Round × ClientRun :=
  let (round, r) := r.changeProvider fun b =>
    let (round, simulated) := b.simulated.draw
    (round, { b with simulated })
  (round, (r.change fun w => w.publish round).2)

def apply (r : ClientRun) : ClientStep → ClientReply × ClientRun
  | .await e =>
    let (reply, timeline) := r.timeline.complete e
    (reply.elim .nothing .ended, { r with timeline })
  | .start name e =>
    (.started,
      { r with timeline := r.timeline.start e, names := (r.timeline.issued, name) :: r.names })
  | .sleep duration => (.nothing, r.sleep duration)
  | .cancel name =>
    let (found, r) := r.changeScene (·.cancel name)
    (found.elim .unknownName .removed, r)
  | .listen handler => r.changeScene fun s => (.listening, s.listen handler)
  | .unlisten name =>
    let (found, r) := r.changeScene (·.unlisten name)
    (found.elim .unknownName .removed, r)
  | .configure change => r.changeProvider fun b =>
    (.nothing, { b with simulated := { b.simulated with behavior := change b.simulated.behavior } })
  | .script change => r.changeProvider fun b =>
    (.nothing, { b with scripted := { b.scripted with script := change b.scripted.script } })
  | .publish round =>
    let (count, r) := r.change fun w => w.publish round
    (.reached count, r)
  | .publishRound =>
    let (round, r) := r.publishRound
    (.published round, r)
  | .config => (.config r.client.config, r)
  | .inspect => (.inspected r.client.inspected r.world.provider.simulated.inspected, r)
  | .metrics => (.samples r.client.metrics, r)

/-- The session's subscription. A simulated ledger's is named by its rank among those seen. -/
def subscriptionName (r : ClientRun) : Option String :=
  r.client.session.subscription.map fun id =>
    if r.world.provider.isScripted then id.text
    else "sub" ++ toString (r.seen.idxOf id + 1)

/-- Takes down the session's subscription as one that was seen. -/
def see (r : ClientRun) : ClientRun :=
  match r.client.session.subscription with
  | some id => if r.seen.contains id then r else { r with seen := r.seen ++ [id] }
  | none => r

def report (level : Option Level) (before after : ClientRun) (reply : ClientReply) :
    ClientReport where
  reply := reply
  instant := after.timeline.now
  heard := newest before.world.scene.host.heard after.world.scene.host.heard
  completed := completions after.names before.timeline after.timeline
  logs := logLines level (newest before.world.journal after.world.journal)
  lifecycle := after.client.session.lifecycle
  changed := before.client.watch.version ≠ after.client.watch.version
  pending := after.client.callbacks.length
  attempts := after.client.budget.attempts
  subscription := after.subscriptionName
  ledger := after.world.provider.simulated
  calls := newest before.world.calls after.world.calls

end ClientRun

/-- Runs the steps and reports after each what is new. -/
def runClient (level : Option Level) : ClientRun → List ClientStep → List ClientReport
  | _, [] => []
  | before, step :: rest =>
    let (reply, after) := before.apply step
    let after := after.settle.see
    before.report level after reply :: runClient level after rest

end RandomBeacon.Scenario
