import RandomBeacon.Ledger.Detached
import RandomBeacon.Scenario.Completion
import RandomBeacon.Scenario.Sample

/-!
Scripted runs of the simulated ledger alone. Its subscribers take down the rounds they hear of,
and may publish again while they do.
-/

namespace RandomBeacon.Scenario

/-- One who subscribes: it takes down each round and publishes it again under the next number
while that is at most `limit`. -/
structure Subscriber where
  name : String
  limit : Nat

inductive LedgerStep where
  | await (d : Detached)
  /-- Starts a call under a name as a task of its own. -/
  | start (name : String) (d : Detached)
  | subscribe (s : Subscriber)
  /-- Gives back the last subscription under a name, or the subscription of that name. -/
  | unsubscribe (name : String)
  | publish (r : Round)
  | publishRound
  | configure (change : Behavior → Behavior)
  | sleep (duration : Nat)
  | chain
  | account
  | inspect

/-- What a step gives back. -/
inductive LedgerReply where
  | nothing
  | started
  | ended (answer : Answer)
  | done (result : Except Fault Unit)
  | reached (count : Nat)
  | published (r : Round)
  | chain (c : ChainId)
  | account (a : Account)
  | text (s : String)

structure LedgerReport where
  reply : LedgerReply
  instant : Nat
  heard : List (String × Round)
  completed : List (Completion (Option Answer))
  ledger : Simulated

structure Stand where
  ledger : Simulated
  subscribers : List (SubscriptionId × Subscriber) := []
  /-- Names with the subscriptions granted under them, newest first. -/
  names : List (String × SubscriptionId) := []
  /-- Names with the rounds they have heard of, newest first. -/
  heard : List (String × Round) := []

namespace Stand

/-- Publishes a round to those who are subscribed now. What they publish in turn nests inside, at
most `depth` deep. -/
def publish : (depth : Nat) → Round → Stand → Stand
  | depth, r, s =>
    let held := Provider.held s.ledger
    let s := { s with ledger := (Provider.store r s.ledger).2 }
    held.foldl (fun s id =>
      match s.subscribers.lookup id, depth with
      | none, _ => s
      | some subscriber, 0 => { s with heard := (subscriber.name, r) :: s.heard }
      | some subscriber, depth + 1 =>
        let s := { s with heard := (subscriber.name, r) :: s.heard }
        if r.number.toNat < subscriber.limit then
          s.publish depth { r with number := r.number + 1 }
        else s) s

/-- How deep publications nest: each one raises the number. -/
def depthLimit (s : Stand) : Nat := (s.subscribers.map (·.2.limit)).foldl max 0

/-- Publishes a round and counts the subscriptions it reaches. -/
def announce (r : Round) (s : Stand) : Nat × Stand :=
  ((Provider.held s.ledger).length, s.publish (s.depthLimit - r.number.toNat) r)

def subscribe (subscriber : Subscriber) (s : Stand) : Except Fault Unit × Stand :=
  match s.ledger.subscribe .randomnessPublished with
  | (.returned id, ledger) => (.ok (), { s with
      ledger
      subscribers := (id, subscriber) :: s.subscribers
      names := (subscriber.name, id) :: s.names })
  | (.failed fault, ledger) => (.error fault, { s with ledger })
  | (.panicked _, ledger) => (.ok (), { s with ledger })

/-- The refusal to give back a subscription, with a generated name left out. -/
def refusal (known : Option SubscriptionId) (fault : Fault) : Fault :=
  match known, fault with
  | some id, .rejected detail => .rejected (detail.replace id.text "<id>")
  | _, fault => fault

def unsubscribe (name : String) (s : Stand) : Except Fault Unit × Stand :=
  let known := s.names.lookup name
  match s.ledger.unsubscribe (known.getD ⟨name⟩) with
  | (.failed fault, ledger) => (.error (refusal known fault), { s with ledger })
  | (_, ledger) => (.ok (), { s with ledger })

inductive Work where
  /-- A call that is about to start. -/
  | calling (d : Detached)
  | inFlight (d : Detached) (pending : Pending Simulated (Outcome d.Reply))
  | publishing (draw : Simulated → Round × Simulated)

abbrev Turn := Schedule.Turn Stand Work (Option Answer)

/-- Starts a call, or waits for its end. -/
def call (now : Nat) (d : Detached) (s : Stand) : Turn :=
  match d with
  | .submit op =>
    let (pending, ledger) := s.ledger.start (.submit op "")
    ⟨{ s with ledger }, .wait (some (now + pending.delay)) (.inFlight (.submit op) pending), []⟩
  | .query q =>
    let (pending, ledger) := s.ledger.start (.query q "")
    ⟨{ s with ledger }, .wait (some (now + pending.delay)) (.inFlight (.query q) pending), []⟩

def run (now : Nat) (s : Stand) : Work → Turn
  | .calling d => s.call now d
  | .inFlight d pending =>
    let settled := pending.finish s.ledger
    ⟨{ s with ledger := settled.provider }, .ended (some (d.answer settled.result)),
      settled.publication.toList.map fun p => (some (now + p.delay), .publishing p.draw)⟩
  | .publishing draw =>
    let (round, ledger) := draw s.ledger
    ⟨({ s with ledger }.announce round).2, .ended none, []⟩

def rules : Schedule.Rules Stand Work (Option Answer) where
  woken _ _ := false
  resume now task s := s.run now task.work

end Stand

structure LedgerRun where
  timeline : Schedule.Timeline Stand Stand.Work (Option Answer)
  /-- The tasks of the calls with names. -/
  names : List (Nat × String) := []

namespace LedgerRun

def fresh (behavior : Behavior) : LedgerRun where
  timeline := { state := { ledger := freshLedger behavior } }

/-- More turns than the calls of a run can take. -/
def fuel (r : LedgerRun) : Nat := 8 * (r.timeline.tasks.length + 2)

def spawn (d : Detached) (r : LedgerRun) : Nat × LedgerRun :=
  (r.timeline.issued, { r with timeline := r.timeline.spawn (some r.timeline.now) (.calling d) })

def await (d : Detached) (r : LedgerRun) : LedgerReply × LedgerRun :=
  let (id, r) := r.spawn d
  let timeline := r.timeline.await Stand.rules r.fuel id
  ((timeline.resultOf? id).join.elim .nothing .ended, { r with timeline })

def settle (r : LedgerRun) : LedgerRun :=
  { r with timeline := r.timeline.settle Stand.rules r.fuel }

def change {α : Type} (f : Stand → α × Stand) (r : LedgerRun) : α × LedgerRun :=
  let (a, timeline) := r.timeline.change f
  (a, { r with timeline })

def apply (r : LedgerRun) : LedgerStep → LedgerReply × LedgerRun
  | .await d => r.await d
  | .start name d =>
    let (id, r) := r.spawn d
    (.started, { r with names := (id, name) :: r.names })
  | .subscribe subscriber =>
    let (result, r) := r.change fun s => s.subscribe subscriber
    (.done result, r)
  | .unsubscribe name =>
    let (result, r) := r.change fun s => s.unsubscribe name
    (.done result, r)
  | .publish round =>
    let (count, r) := r.change fun s => s.announce round
    (.reached count, r)
  | .publishRound =>
    let (round, r) := r.change fun s =>
      let (round, ledger) := s.ledger.draw
      (round, ({ s with ledger }.announce round).2)
    (.published round, r)
  | .configure change => r.change fun s =>
    (.nothing, { s with ledger := { s.ledger with behavior := change s.ledger.behavior } })
  | .sleep duration =>
    (.nothing, { r with
      timeline := r.timeline.pass Stand.rules r.fuel duration })
  | .chain => (.chain Simulated.chainId, r)
  | .account => (.account Simulated.account, r)
  | .inspect => (.text r.timeline.state.ledger.inspected, r)

def report (before after : LedgerRun) (reply : LedgerReply) : LedgerReport where
  reply := reply
  instant := after.timeline.now
  heard := newest before.timeline.state.heard after.timeline.state.heard
  completed := completions after.names before.timeline after.timeline
  ledger := after.timeline.state.ledger

end LedgerRun

/-- Runs the steps and reports after each what is new. -/
def runLedger : LedgerRun → List LedgerStep → List LedgerReport
  | _, [] => []
  | before, step :: rest =>
    let (reply, after) := before.apply step
    let after := after.settle
    before.report after reply :: runLedger after rest

end RandomBeacon.Scenario
