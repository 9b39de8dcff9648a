import RandomBeacon.Proofs.Actions
import RandomBeacon.Proofs.Exchanges
import RandomBeacon.Proofs.Ledger.Custody

/-!
What a run enters into the chronicle of a simulated ledger: that a submission starts, that one ends,
and that a round is published. Whatever else happens, the chronicle stays as it is, so after a run it
holds what has been entered during it (`Runs.chronicle`).
-/

namespace RandomBeacon

/-- How long a detached call takes that meets `b` when it starts. -/
def Behavior.delay (b : Behavior) : Detached → Nat
  | .submit _ => b.submitDelay
  | .query _ => b.queryDelay

/-- The end of a detached call that met `b` when it started. -/
def Behavior.settle (b : Behavior) : (d : Detached) → Simulated → Settlement Simulated (Outcome d.Reply)
  | .submit (.requestRandomness requestId _) => Simulated.settleSubmission b requestId
  | .query (.getRandomness number) => Simulated.settleQuery b number

def Behavior.pending (b : Behavior) (d : Detached) : Pending Simulated (Outcome d.Reply) :=
  ⟨b.delay d, b.settle d⟩

/-- How long after the end of a detached call a round is published, if one is: the ledger has to
accept a submission and to be set to publish by itself. -/
def Behavior.publishes? (b : Behavior) : Detached → Option Nat
  | .submit _ => if b.submitTransportFailure || b.rejectSubmissions then none else b.publishAfter
  | .query _ => none

def Detached.isSubmission : Detached → Bool
  | submit _ => true
  | query _ => false

namespace Simulated

/-- What may change in a ledger between two turns: its behavior, and the round that it draws next. -/
inductive Changes (l : Simulated) : Simulated → Prop
  | configures (behavior : Behavior) : Changes l { l with behavior }
  | draws : Changes l l.draw.2

/-- What a ledger has counted and published. -/
structure Chronicle where
  submitted : Nat := 0
  completed : Nat := 0
  rounds : List Round := []

def chronicle (l : Simulated) : Chronicle := ⟨l.submitCalls, l.completedSubmissions, l.rounds⟩

inductive Entry where
  | submits
  | completes
  | publishes (r : Round)
  deriving DecidableEq

/-- A round takes the place of the one of its number. -/
def Chronicle.enter (b : Chronicle) : Entry → Chronicle
  | .submits => { b with submitted := b.submitted + 1 }
  | .completes => { b with completed := b.completed + 1 }
  | .publishes r => { b with rounds := r :: b.rounds.filter (·.number ≠ r.number) }

theorem Changes.chronicle {l m : Simulated} (changes : l.Changes m) : m.chronicle = l.chronicle := by
  cases changes <;> rfl

theorem subscribe_chronicle (topic : Topic) (l : Simulated) :
    (l.subscribe topic).2.chronicle = l.chronicle := by
  simp only [subscribe]
  cases (SubscribeFailure.next l.behavior.subscribeFailure).1 <;> rfl

theorem unsubscribe_chronicle (id : SubscriptionId) (l : Simulated) :
    (l.unsubscribe id).2.chronicle = l.chronicle := by
  simp only [unsubscribe]
  split <;> rfl

/-- The ledger once a detached call has come back. -/
def receives : Detached → Simulated → Simulated
  | .submit _, l => { l with completedSubmissions := l.completedSubmissions + 1 }
  | .query _, l => l

theorem settle_provider (b : Behavior) (d : Detached) (l : Simulated) :
    (b.settle d l).provider = l.receives d := by
  cases d with
  | submit op =>
    obtain ⟨requestId, timestamp⟩ := op
    simp only [Behavior.settle, settleSubmission]
    split
    · rfl
    · split <;> rfl
  | query q =>
    obtain ⟨number⟩ := q
    rfl

theorem settle_chronicle (b : Behavior) (d : Detached) (l : Simulated) :
    (b.settle d l).provider.chronicle =
      if d.isSubmission then l.chronicle.enter .completes else l.chronicle := by
  rw [settle_provider]
  cases d <;> rfl

end Simulated

/-- The entries that the turn of a task makes. -/
def Work.entries (l : Simulated) : Work Simulated → List Simulated.Entry
  | calling (.submit _) _ => [.submits]
  | inFlight (.submit _) _ _ => [.completes]
  | publishing draw => [.publishes (draw l).1]
  | _ => []

/-- A call in flight is settled as the ledger's behavior said when it started. -/
theorem Work.Issued.inFlight {d : Detached} {exchange : Nat}
    {pending : Pending Simulated (Outcome d.Reply)}
    (issued : (Work.inFlight d exchange pending).Issued) : ∃ b : Behavior, pending = b.pending d := by
  cases d with
  | submit op =>
    obtain ⟨requestId, timestamp⟩ := op
    obtain ⟨address, p, rfl⟩ := issued
    exact ⟨p.behavior, rfl⟩
  | query q =>
    obtain ⟨number⟩ := q
    obtain ⟨address, p, rfl⟩ := issued
    exact ⟨p.behavior, rfl⟩

/-- The calls of a stage are settled when they are taken up. -/
theorem Stage.Began.provider {s : Stage} {pending : Pending Simulated s.Signal}
    (began : s.Began pending) (l : Simulated) : (pending.finish l).provider = l := by
  obtain ⟨now, w, rfl⟩ := began
  cases s <;> rfl

namespace World

open Simulated

variable {now : Nat} {w : World Simulated}

theorem enter_chronicle (s : Stage) : (w.enter now s).2.provider.chronicle = w.provider.chronicle := by
  cases s with
  | subscribing => exact subscribe_chronicle _ _
  | releasing | dropping | closing => exact unsubscribe_chronicle _ _
  | pausing | scheduled => rfl

theorem proceed_chronicle (spawned : List (Option Nat × Work Simulated)) (step : Client × Progress) :
    (w.proceed now spawned step).state.provider.chronicle = w.provider.chronicle := by
  obtain ⟨c, progress⟩ := step
  cases progress with
  | wait stage => exact enter_chronicle stage
  | ended | lost => rfl

theorem begin_chronicle (errand : Errand) :
    (w.begin now errand).state.provider.chronicle = w.provider.chronicle := by
  cases errand with
  | openSession | closeSession => exact proceed_chronicle _ _
  | request handler =>
    simp only [begin]
    split <;> rfl
  | query q =>
    simp only [begin]
    split <;> rfl
  | awaitReady limit => rw [begin, watchReady_state]
  | chain | account => rfl

/-- The turn of a task makes its entries and no other. -/
theorem run_chronicle {work : Work Simulated} (issued : work.Issued) :
    (w.run now work).state.provider.chronicle =
      (work.entries w.provider).foldl Chronicle.enter w.provider.chronicle := by
  cases work with
  | errand errand => exact begin_chronicle errand
  | recovery generation => exact proceed_chronicle _ _
  | operation s pending =>
    have settled := Stage.Began.provider issued w.provider
    exact (proceed_chronicle _ _).trans (congrArg chronicle settled)
  | submitting name id op generation exchange =>
    simp only [run]
    split <;> rfl
  | querying => rfl
  | calling d exchange =>
    cases d with
    | submit op =>
      obtain ⟨requestId, timestamp⟩ := op
      rfl
    | query q =>
      obtain ⟨number⟩ := q
      rfl
  | inFlight d exchange pending =>
    obtain ⟨b, rfl⟩ := Work.Issued.inFlight issued
    have settled := settle_chronicle b d w.provider
    cases d <;> exact settled
  | publishing draw =>
    obtain rfl := left_draw issued
    rfl
  | watching deadline seen => rw [run, watchReady_state]; rfl
  | askingChain pending | askingAccount pending =>
    obtain ⟨p, rfl⟩ := issued
    rfl

namespace Timeline

variable {e : Surroundings Simulated} {s t : Timeline Simulated} {a : Action Simulated}
  {actions : List (Action Simulated)}

/-- The entries that an action makes. -/
def entries (t : Timeline Simulated) : Action Simulated → List Entry
  | .publish r => [.publishes r]
  | a => (t.work? a).elim [] (·.entries t.state.provider)

/-- The entries that are made while actions are taken. -/
def entriesOf (t : Timeline Simulated) (actions : List (Action Simulated)) : List Entry :=
  recorded act entries actions t

theorem entries_turn {number : Nat} {task : Schedule.Task (Work Simulated)}
    (found : t.task? number = some task) :
    t.entries (.turn number) = task.work.entries t.state.provider := by
  have is : t.entries (.turn number) =
      (t.work? (.turn number)).elim [] (·.entries t.state.provider) := rfl
  rw [is, work?, found]
  rfl

theorem entries_none {number : Nat} (none : t.task? number = none) :
    t.entries (.turn number) = [] := by
  have is : t.entries (.turn number) =
      (t.work? (.turn number)).elim [] (·.entries t.state.provider) := rfl
  rw [is, work?, none]
  rfl

theorem act_chronicle (within : ∀ l m, e.adjusts l m → l.Changes m) (allowed : t.Allows e a)
    (sound : Sound t) :
    (t.act a).state.provider.chronicle =
      (t.entries a).foldl Chronicle.enter t.state.provider.chronicle := by
  cases a with
  | turn number =>
    obtain ⟨task, found, _, _⟩ := allowed
    have mem := List.mem_map_of_mem (f := (·.work)) (task?_spec found).1
    rw [state_turn found, entries_turn found]
    exact run_chronicle (sound.issued _ mem)
  | adjust provider => exact (within _ _ allowed).chronicle
  | pass | ask | cancel | listen | unlisten | publish => rfl

/-- After a run the chronicle holds what has been entered. -/
theorem Runs.chronicle (within : ∀ l m, e.adjusts l m → l.Changes m) (run : Runs e s actions t)
    (sound : Sound s) :
    t.state.provider.chronicle =
      (s.entriesOf actions).foldl Chronicle.enter s.state.provider.chronicle := by
  have start : s.state.provider.chronicle =
    [].foldl Chronicle.enter s.state.provider.chronicle := rfl
  refine run.carries entries
    (P := fun past t => t.state.provider.chronicle =
      past.foldl Chronicle.enter s.state.provider.chronicle)
    sound start ?_
  intro past u a allowed sound holds
  rw [act_chronicle within allowed sound, holds, List.foldl_append]

end Timeline

end World

end RandomBeacon
