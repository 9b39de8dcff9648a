/-!
Tasks over a shared state and a clock of their own. A task runs when its instant has come or the
state has woken it; it runs without interruption until it waits again or ends, which is one atomic
step. The clock moves only when nothing can run. `Rules` says what a kind of task does; any task
that is ready may be the next to run, and `settle` takes the oldest one.
-/

namespace RandomBeacon.Schedule

structure Task (τ : Type) where
  id : Nat
  /-- The instant at which the clock wakes the task. -/
  due : Option Nat
  work : τ

/-- What becomes of a task that has run. -/
inductive Next (τ ρ : Type) where
  | wait (due : Option Nat) (work : τ)
  | ended (result : ρ)

structure Turn (σ τ ρ : Type) where
  state : σ
  next : Next τ ρ
  /-- Tasks that start with this turn, each with its instant. -/
  spawned : List (Option Nat × τ) := []

structure Rules (σ τ ρ : Type) where
  /-- Whether the state alone makes a waiting task ready. -/
  woken : σ → τ → Bool
  resume : (now : Nat) → Task τ → σ → Turn σ τ ρ

/-- A result with the task that gave it and the instant. -/
structure Ended (ρ : Type) where
  id : Nat
  instant : Nat
  result : ρ

structure Timeline (σ τ ρ : Type) where
  now : Nat := 0
  state : σ
  tasks : List (Task τ) := []
  /-- How many tasks there have been. -/
  issued : Nat := 0
  /-- Newest first. -/
  ended : List (Ended ρ) := []

namespace Timeline

variable {σ τ ρ : Type}

/-- Adds a task; its number is the count of those before it. -/
def spawn (t : Timeline σ τ ρ) (due : Option Nat) (work : τ) : Timeline σ τ ρ :=
  { t with tasks := t.tasks ++ [⟨t.issued, due, work⟩], issued := t.issued + 1 }

def isReady (rules : Rules σ τ ρ) (t : Timeline σ τ ρ) (task : Task τ) : Bool :=
  task.due.any (· ≤ t.now) || rules.woken t.state task.work

/-- The oldest task that is ready. -/
def ready? (rules : Rules σ τ ρ) (t : Timeline σ τ ρ) : Option (Task τ) :=
  t.tasks.find? (t.isReady rules)

/-- Runs a task up to its next wait or its end. -/
def fire (rules : Rules σ τ ρ) (t : Timeline σ τ ρ) (task : Task τ) : Timeline σ τ ρ :=
  let turn := rules.resume t.now task t.state
  let t := { t with state := turn.state }
  let t := match turn.next with
    | .wait due work => { t with
        tasks := t.tasks.map fun other => if other.id = task.id then ⟨task.id, due, work⟩ else other }
    | .ended result => { t with
        tasks := t.tasks.filter (·.id ≠ task.id)
        ended := ⟨task.id, t.now, result⟩ :: t.ended }
  turn.spawned.foldl (fun t (due, work) => t.spawn due work) t

/-- A turn of the surroundings, between two turns of tasks. -/
def change {α : Type} (f : σ → α × σ) (t : Timeline σ τ ρ) : α × Timeline σ τ ρ :=
  let (a, state) := f t.state
  (a, { t with state })

/-- Runs whatever can run at this instant, at most `fuel` turns of it. -/
def settle (rules : Rules σ τ ρ) : (fuel : Nat) → Timeline σ τ ρ → Timeline σ τ ρ
  | 0, t => t
  | fuel + 1, t =>
    match t.ready? rules with
    | none => t
    | some task => settle rules fuel (t.fire rules task)

/-- The next instant that wakes a task. -/
def nextInstant? (t : Timeline σ τ ρ) : Option Nat :=
  (t.tasks.filterMap (·.due)).min?

def isLive (t : Timeline σ τ ρ) (id : Nat) : Bool := t.tasks.any (·.id = id)

/-- Runs turns and moves the clock until `enough` holds, the clock would pass `limit`, or nothing
is left to wait for; at most `fuel` turns. -/
def runUntil (rules : Rules σ τ ρ) (enough : Timeline σ τ ρ → Bool) (limit : Option Nat) :
    (fuel : Nat) → Timeline σ τ ρ → Timeline σ τ ρ
  | 0, t => t
  | fuel + 1, t =>
    if enough t then t
    else match t.ready? rules with
      | some task => runUntil rules enough limit fuel (t.fire rules task)
      | none =>
        match t.nextInstant?.filter (fun instant => limit.all (instant ≤ ·)) with
        | some instant => runUntil rules enough limit fuel { t with now := max t.now instant }
        | none => { t with now := max t.now (limit.getD t.now) }

/-- Runs until a task has ended, and then whatever else can run at that instant. -/
def await (rules : Rules σ τ ρ) (fuel : Nat) (id : Nat) (t : Timeline σ τ ρ) : Timeline σ τ ρ :=
  (t.runUntil rules (fun t => !t.isLive id) none fuel).settle rules fuel

/-- Lets so much time pass, with whatever runs meanwhile and at its end. -/
def pass (rules : Rules σ τ ρ) (fuel : Nat) (duration : Nat) (t : Timeline σ τ ρ) :
    Timeline σ τ ρ :=
  t.runUntil rules (fun _ => false) (some (t.now + duration)) fuel

def resultOf? (t : Timeline σ τ ρ) (id : Nat) : Option ρ :=
  (t.ended.find? (·.id = id)).map (·.result)

end Timeline

end RandomBeacon.Schedule
