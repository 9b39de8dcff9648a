import RandomBeacon.Client.Delivery
import RandomBeacon.Client.Exchange
import RandomBeacon.Client.Session
import RandomBeacon.Ledger.Detached
import RandomBeacon.Schedule
import RandomBeacon.Stamp

/-!
A client, its handlers' side and its provider, and the tasks that run over them. A task runs
without interruption between two waits; while it waits, anything else may run. Submissions and
queries are calls of their own, detached from the task that waits for them: when that one gives
up, the call goes on.
-/

namespace RandomBeacon

/-- What a caller may ask for that takes time. -/
inductive Errand where
  | openSession
  | closeSession
  | request (handler : ClientHandler)
  | query (q : Query)
  /-- Waits until the client is ready, for at most `limit` milliseconds. -/
  | awaitReady (limit : Nat)
  | chain
  | account

/-- How an errand ends. -/
inductive Reply where
  /-- An operation on the session has ended. -/
  | finished (result : Except Failure Unit)
  | requested (result : Except Failure RequestId)
  | found (result : Except Failure (Option Randomness))
  | ready (verdict : Bool)
  | chain (outcome : Outcome ChainId)
  | account (outcome : Outcome Account)
  /-- A call or a publication that nobody waits for has ended. -/
  | unheard
  /-- The provider panicked and took the errand with it. -/
  | lost

inductive Work (π : Type) where
  | errand (e : Errand)
  /-- A recovery from a call that was lost in this generation. -/
  | recovery (generation : Nat)
  | operation (stage : Stage) (pending : Pending π stage.Signal)
  /-- Waits for the answer to a request. -/
  | submitting (name : String) (id : RequestId) (op : Operation) (generation exchange : Nat)
  /-- Waits for the answer to a query. -/
  | querying (q : Query) (generation exchange : Nat)
  /-- A detached call that is about to start. -/
  | calling (d : Detached) (exchange : Nat)
  | inFlight (d : Detached) (exchange : Nat) (pending : Pending π (Outcome d.Reply))
  /-- The provider publishes a round by itself. -/
  | publishing (draw : π → Round × π)
  /-- Waits for a change after version `seen` of the lifecycle. -/
  | watching (deadline seen : Nat)
  | askingChain (pending : Pending π (Outcome ChainId))
  | askingAccount (pending : Pending π (Outcome Account))

structure World (π : Type) where
  scene : Scene
  provider : π
  /-- The random tails of names, one for each request. -/
  suffixes : Nat → Suffix
  /-- How many names have been given. -/
  named : Nat := 0
  /-- The last stamp given. -/
  stamp : Nat := 0
  /-- How many calls have been detached. -/
  exchanges : Nat := 0
  /-- The detached calls that have ended, newest first. -/
  answers : List (Nat × Answer) := []
  /-- The provider calls with their instants, newest first. -/
  calls : List (Nat × Call) := []
  /-- The notices with their instants, newest first. -/
  journal : List (Nat × Notice) := []

namespace World

variable {π : Type}

def client (w : World π) : Client := w.scene.client

def withClient (w : World π) (c : Client) : World π := { w with scene := { w.scene with client := c } }

def address (w : World π) : String := w.client.config.beaconAddress

def noteAll (w : World π) (ns : List Notice) : World π := w.withClient (w.client.noteAll ns)

/-- Moves the client's notices to the journal under an instant. -/
def journalAt (now : Nat) (w : World π) : World π :=
  { w.withClient { w.client with journal := [] } with
    journal := w.client.journal.map (now, ·) ++ w.journal }

def submissionOutcome? (w : World π) (exchange : Nat) : Option (Outcome Receipt) :=
  match w.answers.lookup exchange with
  | some (.submitted outcome) => some outcome
  | _ => none

def queryOutcome? (w : World π) (exchange : Nat) : Option (Outcome Lookup) :=
  match w.answers.lookup exchange with
  | some (.looked outcome) => some outcome
  | _ => none

/-- Names a request. The clock shows microseconds. -/
def nameRequest (now : Nat) (w : World π) : RequestId × World π :=
  let stamp := nextStamp w.stamp (1000 * now)
  (.ofStamp stamp (w.suffixes w.named), { w with stamp, named := w.named + 1 })

/-- Starts a call at the provider. -/
def call [Provider π] (now : Nat) (c : Call) (w : World π) :
    Pending π (Outcome c.Reply) × World π :=
  let (pending, provider) := Provider.start c w.provider
  (pending, { w with provider, calls := (now, c) :: w.calls })

/-- Starts a stage of an operation. -/
def enter [Provider π] (now : Nat) : (s : Stage) → World π → Pending π s.Signal × World π
  | .subscribing _ _, w => w.call now (.subscribe .randomnessPublished w.address)
  | .releasing _ id, w => w.call now (.unsubscribe id)
  | .dropping _ id, w => w.call now (.unsubscribe id)
  | .closing id, w => w.call now (.unsubscribe id)
  | .pausing _ failed, w => (.timer π (Client.subscribePause failed), w)
  | .scheduled _ duration, w => (.timer π duration, w)

/-- Hands a published round to every subscription that the provider holds, and counts them. -/
def publish [Provider π] (r : Round) (w : World π) : Nat × World π :=
  let (notices, provider) := Provider.store r w.provider
  let w := { w with provider }.noteAll notices
  let held := Provider.held provider
  (held.length, { w with scene := held.foldl (fun s _ => s.deliver r) w.scene })

abbrev Turn (π : Type) := Schedule.Turn (World π) (Work π) Reply

/-- What follows the end of a wait: its result, the world after it, and what it leaves behind. -/
def finish {β : Type} (now : Nat) (pending : Pending π β) (w : World π) :
    β × World π × List (Option Nat × Work π) :=
  let s := pending.finish w.provider
  (s.result, { w with provider := s.provider }.noteAll s.notices,
    s.publication.toList.map fun p => (some (now + p.delay), .publishing p.draw))

/-- Goes on with an operation. -/
def proceed [Provider π] (now : Nat) (spawned : List (Option Nat × Work π)) (w : World π)
    (step : Client × Progress) : Turn π :=
  let w := w.withClient step.1
  match step.2 with
  | .wait stage =>
    let (pending, w) := w.enter now stage
    ⟨w, .wait (some (now + pending.delay)) (.operation stage pending), spawned⟩
  | .ended result => ⟨w, .ended (.finished result), spawned⟩
  | .lost => ⟨w, .ended .lost, spawned⟩

/-- Detaches a call and waits for its answer until the deadline. -/
def detach (now : Nat) (d : Detached) (wait : (exchange : Nat) → Work π) (w : World π) :
    Turn π :=
  ⟨{ w with exchanges := w.exchanges + 1 },
    .wait (some (now + w.client.config.requestTimeout)) (wait w.exchanges),
    [(some now, .calling d w.exchanges)]⟩

/-- Waits for the client to be ready. A failed client ends the wait, as does the deadline. -/
def watchReady (now deadline : Nat) (w : World π) : Turn π :=
  match w.client.watch.value with
  | .ready => ⟨w, .ended (.ready true), []⟩
  | .failed => ⟨w, .ended (.ready false), []⟩
  | _ =>
    if deadline ≤ now then ⟨w, .ended (.ready false), []⟩
    else ⟨w, .wait (some deadline) (.watching deadline w.client.watch.version), []⟩

def begin [Provider π] (now : Nat) (w : World π) : Errand → Turn π
  | .openSession => w.proceed now [] w.client.openSession
  | .closeSession => w.proceed now [] w.client.closeSession
  | .request handler =>
    let (id, w) := w.nameRequest now
    match w.client.admitRequest id handler with
    | .error e => ⟨w, .ended (.requested (.error e)), []⟩
    | .ok (generation, client) =>
      let op := .requestRandomness id.text (UInt64.ofNat now)
      (w.withClient client).detach now (.submit op) (.submitting handler.name id op generation)
  | .query q =>
    match w.client.readyGeneration with
    | .error e => ⟨w, .ended (.found (.error e)), []⟩
    | .ok generation => w.detach now (.query q) (.querying q generation)
  | .awaitReady limit => w.watchReady now (now + limit)
  | .chain =>
    let (pending, w) := w.call now .chain
    ⟨w, .wait (some (now + pending.delay)) (.askingChain pending), []⟩
  | .account =>
    let (pending, w) := w.call now .account
    ⟨w, .wait (some (now + pending.delay)) (.askingAccount pending), []⟩

/-- The recovery that a result calls for. -/
def recoveries {α : Type} (now generation : Nat) (result : Except Failure α) :
    List (Option Nat × Work π) :=
  if Client.isLost result then [(some now, .recovery generation)] else []

/-- What one who waited for an outcome gets; there is none if the deadline came first. -/
def raced {α : Type} (outcome : Option (Outcome α)) : Raced α := outcome.elim .expired .ended

def run [Provider π] (now : Nat) (w : World π) : Work π → Turn π
  | .errand e => w.begin now e
  | .recovery generation => w.proceed now [] (w.client.recoverSession generation)
  | .operation stage pending =>
    let (signal, w, spawned) := w.finish now pending
    w.proceed now spawned (w.client.resume stage signal)
  | .submitting name id op generation exchange =>
    let (result, client) :=
      w.client.concludeRequest id op (raced (w.submissionOutcome? exchange))
    let w := w.withClient client
    let w := match result with
      | .ok () => { w with scene := { w.scene with host :=
          { w.scene.host with requests := (name, id) :: w.scene.host.requests } } }
      | .error _ => w
    ⟨w, .ended (.requested (result.map fun _ => id)), recoveries now generation result⟩
  | .querying q generation exchange =>
    let (result, client) := w.client.concludeQuery q (raced (w.queryOutcome? exchange))
    ⟨w.withClient client, .ended (.found result), recoveries now generation result⟩
  | .calling d exchange =>
    match d with
    | .submit op =>
      let (pending, w) := w.call now (.submit op w.address)
      ⟨w, .wait (some (now + pending.delay)) (.inFlight (.submit op) exchange pending), []⟩
    | .query q =>
      let (pending, w) := w.call now (.query q w.address)
      ⟨w, .wait (some (now + pending.delay)) (.inFlight (.query q) exchange pending), []⟩
  | .inFlight d exchange pending =>
    let (outcome, w, spawned) := w.finish now pending
    ⟨{ w with answers := (exchange, d.answer outcome) :: w.answers }, .ended .unheard, spawned⟩
  | .publishing draw =>
    let (r, provider) := draw w.provider
    ⟨({ w with provider }.publish r).2, .ended .unheard, []⟩
  | .watching deadline _ => w.watchReady now deadline
  | .askingChain pending =>
    let (outcome, w, spawned) := w.finish now pending
    ⟨w, .ended (.chain outcome), spawned⟩
  | .askingAccount pending =>
    let (outcome, w, spawned) := w.finish now pending
    ⟨w, .ended (.account outcome), spawned⟩

/-- What wakes a task before its instant: a reset of the budget, an answer, or a change of the
lifecycle. -/
def woken (w : World π) : Work π → Bool
  | .operation (.scheduled h _) _ => w.client.budget.epoch ≠ h.epoch
  | .submitting _ _ _ _ exchange | .querying _ _ exchange => (w.answers.lookup exchange).isSome
  | .watching _ seen => w.client.watch.version ≠ seen
  | _ => false

def rules [Provider π] : Schedule.Rules (World π) (Work π) Reply where
  woken := woken
  resume now task w :=
    let turn := w.run now task.work
    { turn with state := turn.state.journalAt now }

abbrev Timeline (π : Type) := Schedule.Timeline (World π) (Work π) Reply

namespace Timeline

/-- More turns than the tasks of a timeline can take. -/
def fuel (t : Timeline π) : Nat :=
  let tasks := t.tasks.length + 2
  64 * tasks * tasks * (t.state.client.config.reconnection.maxAttempts + 2)

/-- Starts an errand as a task. The task has the number that is issued next. -/
def start (e : Errand) (t : Timeline π) : Timeline π := t.spawn (some t.now) (.errand e)

/-- Runs an errand to its end, and whatever else can run at that instant. -/
def complete [Provider π] (e : Errand) (t : Timeline π) : Option Reply × Timeline π :=
  let started := t.start e
  let ended := started.await rules started.fuel t.issued
  (ended.resultOf? t.issued, ended)

end Timeline

end World

end RandomBeacon
