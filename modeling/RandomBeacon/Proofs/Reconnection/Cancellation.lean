import RandomBeacon.Proofs.Clock
import RandomBeacon.Proofs.Reconnection.Turns

/-!
Any number of loops on one controller, and resets between their turns. A reset starts an epoch, and
a loop keeps the epoch in which it began, so a loop that a reset finds running is outdated from then
on (`Leaving`): its next turn is its last, and changes neither the budget nor the connect calls.
That turn comes at once if the loop waits out a delay, since the reset wakes it, and else when its
connect call ends (`reset_cancels_the_past`).
-/

namespace RandomBeacon

namespace LoopWork

/-- Whether a loop waits out a delay. -/
def isDelaying : LoopWork → Bool
  | delaying _ _ => true
  | _ => false

end LoopWork

namespace Controller

section Moves

variable {now : Nat} {c : Controller} {work next : LoopWork} {b : Budget}
  {made : List (String × Nat)} {wakes : Option Nat}
  {goes : Schedule.Next LoopWork (Except Failure Unit)}

/-- No turn of a loop begins an epoch. -/
theorem Moves.epoch (moves : c.Moves now work b made goes) : b.epoch = c.budget.epoch := by
  cases moves <;> rfl

/-- A loop waits for an instant that has not passed. -/
theorem Moves.due (moves : c.Moves now work b made (.wait wakes next)) :
    ∃ due, wakes = some due ∧ now ≤ due := by
  cases moves <;> exact ⟨_, rfl, Nat.le_add_right _ _⟩

/-- A loop that goes on belongs to the epoch at hand. -/
theorem Moves.loop (moves : c.Moves now work b made (.wait wakes next)) {loop : Loop}
    (begun : next.loop? = some loop) : loop.epoch = c.budget.epoch := by
  cases moves with
  | begins =>
    obtain rfl := Option.some.inj begun
    rfl
  | connects _ _ own | retries _ _ _ own =>
    obtain rfl := Option.some.inj begun
    exact own.symm

/-- The next turn of an outdated loop is its last, and changes nothing. -/
theorem Moves.outdated (moves : c.Moves now work b made goes) {loop : Loop}
    (begun : work.loop? = some loop) (late : loop.epoch < c.budget.epoch) :
    b = c.budget ∧ made = c.connects ∧ goes = .ended (.error Budget.cancelled) := by
  cases moves with
  | spent | begins => cases begun
  | cancels | discards => exact ⟨rfl, rfl, rfl⟩
  | connects _ _ own | succeeds _ _ own | aborts _ _ _ own | exhausts _ _ _ own
  | retries _ _ _ own =>
    obtain rfl := Option.some.inj begun
    exact absurd own (Nat.ne_of_gt late)

end Moves

namespace Timeline

/-- A controller that has run no loop yet. -/
def fresh (pacing : Pacing) : Timeline := { state := { pacing } }

/-- Resets the budget between two turns. -/
def reset (t : Timeline) : Timeline := { t with state := t.state.reset }

/-- No delay ends at this very instant. -/
def Between (t : Timeline) : Prop :=
  ∀ task ∈ t.tasks, task.work.isDelaying = true → task.due ≠ some t.now

/-- What happens next on a controller. -/
inductive Step : Timeline → Timeline → Prop
  | turn {t : Timeline} (task : Schedule.Task LoopWork) (mem : task ∈ t.tasks)
      (ready : t.isReady rules task = true) : Step t (t.fire rules task)
  | pass {t : Timeline} (instant : Nat) (idle : t.Idle rules instant) :
      Step t { t with now := instant }
  | start {t : Timeline} (plan : Plan) : Step t (t.start plan)
  | reset {t : Timeline} (between : t.Between) : Step t t.reset

inductive Reachable (s : Timeline) : Timeline → Prop
  | start : Reachable s s
  | next {t u : Timeline} : Reachable s t → Step t u → Reachable s u

variable {s t u : Timeline} {task : Schedule.Task LoopWork}

/-- What holds of every controller: its tasks wait for instants that have not passed, and its loops
began no later than its epoch. -/
structure Regular (t : Timeline) : Prop where
  numbered : t.Numbered
  retired : t.Retired
  punctual : t.Punctual
  timed : ∀ task ∈ t.tasks, ∃ due, task.due = some due
  begun : ∀ task ∈ t.tasks, ∀ loop, task.work.loop? = some loop →
    loop.epoch ≤ t.state.budget.epoch

theorem regular_fresh (pacing : Pacing) : (fresh pacing).Regular := by
  refine ⟨⟨List.nodup_nil, ?_⟩, ⟨List.nodup_nil, ?_, ?_⟩, ?_, ?_, ?_⟩
  all_goals rintro _ ⟨⟩

/-- The turn of a task, as one of the ways that a turn can go. -/
theorem fire_moves (t : Timeline) (task : Schedule.Task LoopWork) :
    t.state.Moves t.now task.work (t.fire rules task).state.budget
      (t.fire rules task).state.connects (rules.resume t.now task t.state).next ∧
    (rules.resume t.now task t.state).spawned = [] := by
  have fired : (t.fire rules task).state = (t.state.run t.now task.work).state :=
    Schedule.Timeline.state_fire rules t task
  obtain ⟨moves, lone⟩ := run_moves t.now t.state task.work
  rw [fired]
  exact ⟨moves, lone.spawned⟩

theorem Regular.fire (regular : t.Regular) (mem : task ∈ t.tasks) :
    Regular (t.fire rules task) := by
  obtain ⟨numbered, retired, punctual, timed, begun⟩ := regular
  obtain ⟨moves, none⟩ := fire_moves t task
  have epoch := moves.epoch
  constructor
  · exact Schedule.Timeline.numbered_fire numbered task
  · exact retired.fire numbered mem
  · apply punctual.fire
    · intro due work goes
      rw [goes] at moves
      obtain ⟨instant, is, later⟩ := moves.due
      obtain rfl := Option.some.inj is
      exact later
    · rw [none]
      rintro due work ⟨⟩
  · intro other inside
    rcases Schedule.Timeline.mem_fire_waits inside with ⟨old, _⟩ | ⟨_, goes⟩ | ⟨_, new⟩
    · exact timed other old
    · rw [goes] at moves
      obtain ⟨instant, is, _⟩ := moves.due
      exact ⟨instant, is⟩
    · rw [none] at new
      cases new
  · intro other inside loop is
    rw [epoch]
    rcases Schedule.Timeline.mem_fire_waits inside with ⟨old, _⟩ | ⟨_, goes⟩ | ⟨_, new⟩
    · exact begun other old loop is
    · rw [goes] at moves
      exact Nat.le_of_eq (moves.loop is)
    · rw [none] at new
      cases new

theorem Step.regular (step : Step t u) (regular : t.Regular) : u.Regular := by
  obtain ⟨numbered, retired, punctual, timed, begun⟩ := regular
  cases step with
  | turn task mem => exact Regular.fire ⟨numbered, retired, punctual, timed, begun⟩ mem
  | pass instant idle =>
    exact ⟨numbered, ⟨retired.once, retired.given, retired.gone⟩, .pass idle, timed, begun⟩
  | start plan =>
    constructor
    · exact Schedule.Timeline.numbered_spawn numbered _ _
    · exact retired.spawn _ _
    · exact punctual.spawn (Nat.le_refl _) _
    · intro task mem
      rcases List.mem_append.mp mem with old | new
      · exact timed task old
      · obtain rfl := List.mem_singleton.mp new
        exact ⟨_, rfl⟩
    · intro task mem loop is
      rcases List.mem_append.mp mem with old | new
      · exact begun task old loop is
      · obtain rfl := List.mem_singleton.mp new
        cases is
  | reset between =>
    refine ⟨numbered, ⟨retired.once, retired.given, retired.gone⟩, punctual, timed, ?_⟩
    intro task mem loop is
    exact Nat.le_succ_of_le (begun task mem loop is)

theorem Reachable.regular (run : Reachable s t) (regular : s.Regular) : t.Regular := by
  induction run with
  | start => exact regular
  | next _ step ih => exact step.regular ih

/-- Whatever a controller does while the clock goes by its rule, it does step by step. -/
theorem Reachable.elapses (run : Reachable s t) (elapses : t.Elapses rules u) :
    Reachable s u := by
  induction elapses with
  | start => exact run
  | turn _ task mem ready ih => exact .next ih (.turn task mem ready)
  | pass _ instant idle ih => exact .next ih (.pass instant idle)

/-- The instant at which a loop that a reset has found running returns: at once if it waits out a
delay, and else when its connect call ends. -/
def returnsAt? (now : Nat) (task : Schedule.Task LoopWork) : Option Nat :=
  if task.work.isDelaying then some now else task.due

/-- A loop that a reset has found running: it is outdated and has to return at `instant`, or it did. -/
inductive Leaving (id instant : Nat) (t : Timeline) : Prop
  | leaves {task : Schedule.Task LoopWork} {loop : Loop} (mem : task ∈ t.tasks)
      (is : task.id = id) (begun : task.work.loop? = some loop)
      (late : loop.epoch < t.state.budget.epoch) (returns : returnsAt? t.now task = some instant)
  | returned (entry : ⟨id, instant, .error Budget.cancelled⟩ ∈ t.ended)

section Outdated

variable {loop : Loop} {id instant : Nat}

/-- Of the outdated loops those are awake that wait out a delay. -/
theorem woken_outdated {c : Controller} {work : LoopWork} (begun : work.loop? = some loop)
    (late : loop.epoch < c.budget.epoch) : rules.woken c work = work.isDelaying := by
  cases work with
  | starting => cases begun
  | delaying =>
    obtain rfl := Option.some.inj begun
    exact decide_eq_true (Nat.ne_of_gt late)
  | connecting => rfl

/-- The next turn of an outdated loop ends it and changes neither the budget nor the connect
calls. -/
theorem fire_outdated (begun : task.work.loop? = some loop)
    (late : loop.epoch < t.state.budget.epoch) :
    (t.fire rules task).state.budget = t.state.budget ∧
    (t.fire rules task).state.connects = t.state.connects ∧
    (t.fire rules task).ended = ⟨task.id, t.now, .error Budget.cancelled⟩ :: t.ended := by
  obtain ⟨moves, _⟩ := fire_moves t task
  obtain ⟨budget, connects, goes⟩ := moves.outdated begun late
  refine ⟨budget, connects, ?_⟩
  rw [Schedule.Timeline.ended_fire, goes]

/-- An outdated loop takes its last turn when it has to. -/
theorem Regular.on_time (regular : t.Regular) (mem : task ∈ t.tasks)
    (ready : t.isReady rules task = true) (begun : task.work.loop? = some loop)
    (late : loop.epoch < t.state.budget.epoch) (returns : returnsAt? t.now task = some instant) :
    t.now = instant := by
  have woken := woken_outdated begun late
  unfold returnsAt? at returns
  cases delaying : task.work.isDelaying with
  | true =>
    rw [if_pos delaying] at returns
    exact Option.some.inj returns
  | false =>
    rw [if_neg (by simp [delaying])] at returns
    rw [delaying] at woken
    have past : instant ≤ t.now := by
      simpa [Schedule.Timeline.isReady, returns, woken] using ready
    exact Nat.le_antisymm (regular.punctual task mem instant returns) past

theorem Step.leaving (step : Step t u) (regular : t.Regular) (leaving : t.Leaving id instant) :
    u.Leaving id instant := by
  cases leaving with
  | returned entry =>
    cases step with
    | pass | start | reset => exact .returned entry
    | turn other =>
      apply Leaving.returned
      rw [Schedule.Timeline.ended_fire]
      cases (rules.resume t.now other t.state).next with
      | wait => exact entry
      | ended => exact List.mem_cons_of_mem _ entry
  | @leaves task loop mem is begun late returns =>
    cases step with
    | turn other inside ready =>
      by_cases same : other.id = task.id
      · obtain rfl := regular.numbered.unique inside mem same
        have now := regular.on_time mem ready begun late returns
        obtain ⟨_, _, ended⟩ := fire_outdated begun late
        apply Leaving.returned
        rw [ended, is, now]
        exact List.mem_cons_self
      · obtain ⟨moves, _⟩ := fire_moves t other
        refine .leaves (Schedule.Timeline.mem_fire_other rules mem (Ne.symm same)) is begun ?_ ?_
        · rwa [moves.epoch]
        · rwa [Schedule.Timeline.now_fire]
    | pass next idle =>
      -- a loop that waits out a delay is awake, so the clock stands still until it has returned
      have asleep := idle.still task mem
      have woken := woken_outdated begun late
      rw [Schedule.Timeline.isReady, woken] at asleep
      have connecting : task.work.isDelaying = false := (Bool.or_eq_false_iff.mp asleep).2
      unfold returnsAt? at returns
      rw [if_neg (by simp [connecting])] at returns
      refine .leaves mem is begun late ?_
      rw [returnsAt?, if_neg (by simp [connecting])]
      exact returns
    | start plan => exact .leaves (List.mem_append_left _ mem) is begun late returns
    | reset => exact .leaves mem is begun (Nat.lt_succ_of_lt late) returns

theorem Reachable.leaving (run : Reachable t u) (regular : t.Regular)
    (leaving : t.Leaving id instant) : u.Leaving id instant := by
  induction run with
  | start => exact leaving
  | next run step ih => exact step.leaving (run.regular regular) ih

/-- A reset makes the loops that run outdated. -/
theorem Regular.leaving (regular : t.Regular) (mem : task ∈ t.tasks)
    (begun : task.work.loop? = some loop) (returns : returnsAt? t.now task = some instant) :
    t.reset.Leaving task.id instant :=
  .leaves mem rfl begun (Nat.lt_succ_of_le (regular.begun task mem loop begun)) returns

end Outdated

/-- What has become of a loop that a reset has found running and that has to return at
`instant`. -/
structure Cancelled (id instant : Nat) (t : Timeline) : Prop where
  /-- Its next turn is its last, whatever its connect call comes to: it counts nothing, connects no
  more and returns that it was cancelled. -/
  turn : ∀ task ∈ t.tasks, task.id = id →
    (t.fire rules task).state.budget = t.state.budget ∧
    (t.fire rules task).state.connects = t.state.connects ∧
    (t.fire rules task).ended = ⟨id, t.now, .error Budget.cancelled⟩ :: t.ended
  /-- It returns nothing else, and at no other instant. -/
  result : ∀ entry ∈ t.ended, entry.id = id → entry = ⟨id, instant, .error Budget.cancelled⟩
  /-- When the clock is past that instant it has returned. -/
  returned : instant < t.now → ⟨id, instant, .error Budget.cancelled⟩ ∈ t.ended

theorem Leaving.cancelled {id instant : Nat} (leaving : t.Leaving id instant)
    (regular : t.Regular) : t.Cancelled id instant := by
  cases leaving with
  | returned entry =>
    constructor
    · intro task mem is
      exact absurd is (regular.retired.gone _ entry task mem)
    · intro other mem is
      exact regular.retired.unique mem entry is
    · exact fun _ => entry
  | @leaves task loop mem is begun late returns =>
    constructor
    · intro other inside same
      obtain rfl := regular.numbered.unique inside mem (same.trans is.symm)
      rw [← is]
      exact fire_outdated begun late
    · intro entry ended same
      exact absurd (is.trans same.symm) (regular.retired.gone entry ended task mem)
    · intro past
      unfold returnsAt? at returns
      cases delaying : task.work.isDelaying with
      | true =>
        rw [if_pos delaying] at returns
        obtain rfl := Option.some.inj returns
        omega
      | false =>
        rw [if_neg (by simp [delaying])] at returns
        have := regular.punctual task mem instant returns
        omega

/-- A loop whose connect calls take a second and succeed. -/
def sluggish (name : String) : Plan where
  name := name
  connect _ := ⟨1000, .ok ()⟩

/-- A tenth of a second before each attempt, or some tenths. -/
def tenths : Pacing where
  config := { baseDelay := 100, jitter := false }

/-- Lets so much time pass, with a few turns at most. -/
def wait (duration : Nat) (t : Timeline) : Timeline := Schedule.Timeline.pass rules 9 duration t

/-- Task 0 is connecting, and task 1 waits out its delay. -/
def contended : Timeline :=
  ((((fresh tenths).start (sluggish "first")).wait 150).start (sluggish "second")).wait 50

/-- Two seconds after a reset, with a loop that was started right after it. -/
def resumed : Timeline := (contended.reset.start (sluggish "third")).wait 2000

end Timeline

end Controller

end RandomBeacon
