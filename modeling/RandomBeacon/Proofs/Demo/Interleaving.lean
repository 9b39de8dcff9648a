import RandomBeacon.Demo.Program
import RandomBeacon.Proofs.Clock

/-!
The demonstration among the tasks of its client. The session is one more task: between two waits it
goes on by itself (`State.advance?`), and while it waits any task that is ready may take its turn.
Callbacks run in any order, and results may overtake one another on their way to the session. The
clock moves when nothing can run and the session cannot go on, to the next instant at which a task
or the session is due.
-/

namespace RandomBeacon

/-- The world with the callbacks in another order. -/
def World.reordered {π : Type} (callbacks : List (RequestId × ClientHandler)) (w : World π) :
    World π :=
  w.withClient { w.client with callbacks }

namespace Demo

/-- What the session is given. -/
structure Plan where
  config : Config
  requests : Nat
  publishDelay : Nat
  chance : Chance

/-- How long the session waits for the next result. -/
def Plan.patience (p : Plan) : Nat := p.config.requestTimeout + p.publishDelay

/-- Where the session stands. A `number` is that of the task whose end it waits for. -/
inductive Standing where
  | opening (number : Nat)
  | asking (number : Nat)
  /-- So many requests are left after the one that it waits for. -/
  | requesting (left number : Nat)
  | collecting (rounds : List Randomness) (deadline : Nat)
  | verifying (rounds : List Randomness) (number : Nat)
  | closing (rounds : List Randomness) (verified : Option Randomness) (number : Nat)
  | ended (result : Except Failure Collection)

structure State where
  standing : Standing
  timeline : Timeline
  /-- The results that wait to be taken up by the session. -/
  inbox : List Randomness

/-- The results that callbacks have sent to the session meanwhile. -/
def arrivals (before after : World Simulated) : List Randomness :=
  (after.scene.host.heard.take
    (after.scene.host.invocations - before.scene.host.invocations)).map (·.2)

namespace State

/-- Asks for something, and waits for its end. -/
def ask (s : State) (e : Errand) (standing : Nat → Standing) : State :=
  { s with standing := standing s.timeline.issued, timeline := s.timeline.start e }

def leave (s : State) (result : Except Failure Collection) : State :=
  { s with standing := .ended result }

/-- Submits the next request, or starts to collect when none is left. -/
def request (p : Plan) (s : State) : (left : Nat) → State
  | 0 => { s with standing := .collecting [] (s.timeline.now + p.patience) }
  | left + 1 => s.ask (.request handler) (.requesting left)

/-- The end of the collection: the last round is looked up again. -/
def report (s : State) (rounds : List Randomness) : State :=
  let rounds := rounds.mergeSort fun a b => a.number ≤ b.number
  match rounds.getLast? with
  | some last => s.ask (.query (.getRandomness last.number)) (.verifying rounds)
  | none => s.ask .closeSession (.closing rounds none)

/-- Takes up the next result. Without one the collection ends when the session's patience is at its
end, or when no callback is left to send one. -/
def collect? (p : Plan) (s : State) (rounds : List Randomness) (deadline : Nat) : Option State :=
  if p.requests ≤ rounds.length then some (s.report rounds)
  else match s.inbox with
    | r :: rest =>
      some { s with
        standing := .collecting (gather p.requests rounds [r]) (s.timeline.now + p.patience)
        inbox := rest }
    | [] =>
      if deadline ≤ s.timeline.now ∨ s.timeline.state.client.callbacks = [] then
        some (s.report rounds)
      else none

/-- The session goes on, if it can. -/
def advance? (p : Plan) (s : State) : Option State :=
  match s.standing with
  | .opening number => (s.timeline.resultOf? number).map fun
    | .finished (.error e) => s.leave (.error e)
    | _ => s.ask .chain .asking
  -- the simulated beacon never fails to tell its chain
  | .asking number => (s.timeline.resultOf? number).map fun _ => s.request p p.requests
  | .requesting left number => (s.timeline.resultOf? number).map fun
    | .requested (.error e) => s.leave (.error e)
    | _ => s.request p left
  | .collecting rounds deadline => s.collect? p rounds deadline
  | .verifying rounds number => (s.timeline.resultOf? number).map fun
    | .found (.ok found) => s.ask .closeSession (.closing rounds found)
    | .found (.error e) => s.leave (.error e)
    | _ => s.ask .closeSession (.closing rounds none)
  | .closing rounds verified number =>
    (s.timeline.resultOf? number).map fun _ => s.leave (.ok ⟨rounds, verified, s.timeline.now⟩)
  | .ended _ => none

/-- The instant at which the session goes on without a result, if it waits for results. -/
def deadline? (s : State) : Option Nat :=
  match s.standing with
  | .collecting _ deadline => some deadline
  | _ => none

/-- The clock may move on to this instant, at which a task or the session is due. -/
structure Sleeps (p : Plan) (s : State) (instant : Nat) : Prop where
  later : s.timeline.now < instant
  idle : s.timeline.Idle World.rules instant
  waits : s.advance? p = none
  patient : ∀ deadline, s.deadline? = some deadline → instant ≤ deadline
  due : (∃ task ∈ s.timeline.tasks, task.due = some instant) ∨ s.deadline? = some instant

/-- What the turn of a task makes of the timeline, with the callbacks in this order. -/
def fired (s : State) (callbacks : List (RequestId × ClientHandler))
    (task : Schedule.Task (Work Simulated)) : Timeline :=
  Schedule.Timeline.fire World.rules
    { s.timeline with state := s.timeline.state.reordered callbacks } task

end State

/-- What happens next. -/
inductive Step (p : Plan) (s : State) : State → Prop
  | turn (callbacks : List (RequestId × ClientHandler))
      (order : callbacks.Perm s.timeline.state.client.callbacks)
      (task : Schedule.Task (Work Simulated)) (mem : task ∈ s.timeline.tasks)
      (ready : s.timeline.isReady World.rules task = true) (inbox : List Randomness)
      (arrive : inbox.Perm
        (s.inbox ++ arrivals s.timeline.state (s.fired callbacks task).state)) :
      Step p s { s with timeline := s.fired callbacks task, inbox }
  | pass (instant : Nat) (sleeps : s.Sleeps p instant) :
      Step p s { s with timeline := { s.timeline with now := instant } }
  | advance {t : State} (goes : s.advance? p = some t) : Step p s t

/-- So many steps lead from one state to another. -/
inductive Path (p : Plan) (s : State) : Nat → State → Prop
  | start : Path p s 0 s
  | next {k : Nat} {t u : State} (path : Path p s k t) (step : Step p t u) : Path p s (k + 1) u

/-- The session begins by asking for itself to be opened. -/
def Plan.start (p : Plan) : State :=
  let t := begin p.config p.publishDelay p.chance
  ⟨.opening t.issued, t.start .openSession, []⟩

end Demo

end RandomBeacon
