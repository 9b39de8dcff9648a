import RandomBeacon.Reconnection.Controller

/-!
What a turn of a loop does, one case for each way that it can go (`Moves`): to the budget, to the
connect calls, and to the loop itself. It starts no other task and leaves the settings alone.
-/

namespace RandomBeacon

/-- The loop of a work that has begun. -/
def LoopWork.loop? : LoopWork → Option Loop
  | starting _ => none
  | delaying loop _ | connecting loop _ _ => some loop

namespace Budget

/-- The budget when one more delay has begun. -/
def delayed (b : Budget) : Budget := { b with delays := b.delays + 1 }

def withAttempts (attempts : Nat) (b : Budget) : Budget := { b with attempts }

/-- A loop with attempts left waits for its next one. -/
theorem schedule_left {p : Pacing} {b : Budget} {epoch : Nat} (own : b.epoch = epoch)
    (left : b.attempts < p.config.maxAttempts) :
    b.schedule p epoch =
      ⟨{ b with delays := b.delays + 1 },
        [.attemptScheduled (b.attempts + 1) p.config.maxAttempts
          (p.config.delay (p.factors b.delays) b.attempts)],
        .delay b.attempts (p.config.delay (p.factors b.delays) b.attempts)⟩ := by
  rw [schedule, if_neg (fun differs => differs own), if_neg (Nat.not_le_of_lt left)]

/-- A connect call that fails for the network is counted, and the next one is scheduled if one is
left. -/
theorem settle_network {p : Pacing} {b : Budget} {epoch : Nat} (attempt : Nat)
    (own : b.epoch = epoch) {e : Failure} (network : e.isNetwork = true) :
    b.settle p epoch attempt (.error e) =
      if p.config.maxAttempts ≤ b.attempts + 1 then
        ⟨b.withAttempts (b.attempts + 1),
          [.attemptFailed (b.attempts + 1) p.config.maxAttempts e],
          .ended (.error (.reconnection (b.attempts + 1)))⟩
      else
        { (b.withAttempts (b.attempts + 1)).schedule p epoch with
          notices := .attemptFailed (b.attempts + 1) p.config.maxAttempts e ::
            ((b.withAttempts (b.attempts + 1)).schedule p epoch).notices } := by
  rw [settle, if_neg (fun differs => differs own)]
  simp only [network, if_true]
  rfl

end Budget

namespace Controller

/-- How many attempts a loop may make. -/
def limit (c : Controller) : Nat := c.pacing.config.maxAttempts

/-- The delay that precedes the next attempt on this budget. -/
def delayOn (c : Controller) (b : Budget) : Nat :=
  c.pacing.config.delay (c.pacing.factors b.delays) b.attempts

/-- How a turn goes: what it makes of the budget and of the connect calls, and what comes next. -/
inductive Moves (now : Nat) (c : Controller) :
    LoopWork → Budget → List (String × Nat) → Schedule.Next LoopWork (Except Failure Unit) → Prop
  | spent (plan : Plan) (spent : c.limit ≤ c.budget.attempts) :
      Moves now c (.starting plan) c.budget c.connects
        (.ended (.error (.reconnection c.budget.attempts)))
  | begins (plan : Plan) (left : c.budget.attempts < c.limit) :
      Moves now c (.starting plan) c.budget.delayed c.connects
        (.wait (some (now + c.delayOn c.budget)) (.delaying ⟨plan, c.budget.epoch, 0⟩
          c.budget.attempts))
  | cancels (loop : Loop) (attempt : Nat) (other : c.budget.epoch ≠ loop.epoch) :
      Moves now c (.delaying loop attempt) c.budget c.connects (.ended (.error Budget.cancelled))
  | connects (loop : Loop) (attempt : Nat) (own : c.budget.epoch = loop.epoch) :
      Moves now c (.delaying loop attempt) c.budget ((loop.plan.name, now) :: c.connects)
        (.wait (some (now + (loop.plan.connect loop.made).delay))
          (.connecting { loop with made := loop.made + 1 } attempt
            (loop.plan.connect loop.made).outcome))
  | discards (loop : Loop) (attempt : Nat) (outcome : Except Failure Unit)
      (other : c.budget.epoch ≠ loop.epoch) :
      Moves now c (.connecting loop attempt outcome) c.budget c.connects
        (.ended (.error Budget.cancelled))
  | succeeds (loop : Loop) (attempt : Nat) (own : c.budget.epoch = loop.epoch) :
      Moves now c (.connecting loop attempt (.ok ())) (c.budget.withAttempts 0) c.connects
        (.ended (.ok ()))
  | aborts (loop : Loop) (attempt : Nat) (e : Failure) (own : c.budget.epoch = loop.epoch)
      (other : e.isNetwork = false) :
      Moves now c (.connecting loop attempt (.error e)) (c.budget.withAttempts 0) c.connects
        (.ended (.error e))
  | exhausts (loop : Loop) (attempt : Nat) (e : Failure) (own : c.budget.epoch = loop.epoch)
      (network : e.isNetwork = true) (spent : c.limit ≤ c.budget.attempts + 1) :
      Moves now c (.connecting loop attempt (.error e))
        (c.budget.withAttempts (c.budget.attempts + 1)) c.connects
        (.ended (.error (.reconnection (c.budget.attempts + 1))))
  | retries (loop : Loop) (attempt : Nat) (e : Failure) (own : c.budget.epoch = loop.epoch)
      (network : e.isNetwork = true) (left : c.budget.attempts + 1 < c.limit) :
      Moves now c (.connecting loop attempt (.error e))
        (c.budget.withAttempts (c.budget.attempts + 1)).delayed c.connects
        (.wait (some (now + c.delayOn (c.budget.withAttempts (c.budget.attempts + 1))))
          (.delaying loop (c.budget.attempts + 1)))

/-- A turn starts no other task and leaves the settings alone. -/
structure Lone (c : Controller) (turn : Turn) : Prop where
  spawned : turn.spawned = []
  pacing : turn.state.pacing = c.pacing

section Follow

variable (now : Nat) (loop : Loop) (turn : LoopTurn) (c : Controller)

theorem follow_state : (c.follow now loop turn).state.budget = turn.budget ∧
    (c.follow now loop turn).state.connects = c.connects ∧
    (c.follow now loop turn).state.pacing = c.pacing := by
  have noted (notices : List Notice) (c : Controller) :
      (notices.foldl (fun c n => c.note now n) c).budget = c.budget ∧
      (notices.foldl (fun c n => c.note now n) c).connects = c.connects ∧
      (notices.foldl (fun c n => c.note now n) c).pacing = c.pacing := by
    induction notices generalizing c with
    | nil => exact ⟨rfl, rfl, rfl⟩
    | cons n rest ih => exact ih (c.note now n)
  unfold follow
  cases turn.next <;> exact noted turn.notices _

theorem follow_next : (c.follow now loop turn).next =
    match turn.next with
    | .delay attempt duration => .wait (some (now + duration)) (.delaying loop attempt)
    | .ended result => .ended result := by
  unfold follow
  cases turn.next <;> rfl

theorem follow_lone : c.Lone (c.follow now loop turn) := by
  refine ⟨?_, (follow_state now loop turn c).2.2⟩
  unfold follow
  cases turn.next <;> rfl

variable {now loop turn c} {work : LoopWork}

theorem moves_of_ended {result : Except Failure Unit} (is : c.run now work = c.follow now loop turn)
    (next : turn.next = .ended result)
    (moves : c.Moves now work turn.budget c.connects (.ended result)) :
    c.Moves now work (c.run now work).state.budget (c.run now work).state.connects
      (c.run now work).next ∧ c.Lone (c.run now work) := by
  obtain ⟨budget, connects, _⟩ := follow_state now loop turn c
  rw [is, budget, connects, follow_next, next]
  exact ⟨moves, follow_lone now loop turn c⟩

theorem moves_of_delay {attempt duration : Nat} (is : c.run now work = c.follow now loop turn)
    (next : turn.next = .delay attempt duration)
    (moves : c.Moves now work turn.budget c.connects
      (.wait (some (now + duration)) (.delaying loop attempt))) :
    c.Moves now work (c.run now work).state.budget (c.run now work).state.connects
      (c.run now work).next ∧ c.Lone (c.run now work) := by
  obtain ⟨budget, connects, _⟩ := follow_state now loop turn c
  rw [is, budget, connects, follow_next, next]
  exact ⟨moves, follow_lone now loop turn c⟩

end Follow

/-- A turn goes in one of these ways. -/
theorem run_moves (now : Nat) (c : Controller) (work : LoopWork) :
    c.Moves now work (c.run now work).state.budget (c.run now work).state.connects
      (c.run now work).next ∧ c.Lone (c.run now work) := by
  cases work with
  | starting plan =>
    by_cases spent : c.limit ≤ c.budget.attempts
    · have turn : c.budget.schedule c.pacing c.budget.epoch =
          ⟨c.budget, [], .ended (.error (.reconnection c.budget.attempts))⟩ := by
        rw [Budget.schedule, if_neg (fun differs => differs rfl)]
        exact if_pos spent
      exact moves_of_ended rfl (by rw [turn]) (by rw [turn]; exact .spent plan spent)
    · have left : c.budget.attempts < c.limit := Nat.lt_of_not_le spent
      have turn := Budget.schedule_left (p := c.pacing) rfl left
      exact moves_of_delay rfl (by rw [turn]) (by rw [turn]; exact .begins plan left)
  | delaying loop attempt =>
    by_cases own : c.budget.epoch = loop.epoch
    · have elapse : c.budget.elapse loop.epoch = none := if_pos own
      simp only [run, elapse]
      exact ⟨.connects loop attempt own, rfl, rfl⟩
    · have elapse : c.budget.elapse loop.epoch = some _ := if_neg own
      refine moves_of_ended (by rw [run, elapse]) rfl ?_
      exact .cancels loop attempt own
  | connecting loop attempt outcome =>
    by_cases own : c.budget.epoch = loop.epoch
    · cases outcome with
      | ok =>
        have turn : c.budget.settle c.pacing loop.epoch attempt (.ok ()) =
            ⟨c.budget.withAttempts 0, [.reconnected (attempt + 1)], .ended (.ok ())⟩ :=
          if_neg fun differs => differs own
        exact moves_of_ended rfl (by rw [turn]) (by rw [turn]; exact .succeeds loop attempt own)
      | error e =>
        cases network : e.isNetwork with
        | false =>
          have turn : c.budget.settle c.pacing loop.epoch attempt (.error e) =
              ⟨c.budget.withAttempts 0, [.attemptAborted e], .ended (.error e)⟩ := by
            rw [Budget.settle, if_neg (fun differs => differs own)]
            simp only [network, Bool.false_eq_true, if_false]
            rfl
          exact moves_of_ended rfl (by rw [turn])
            (by rw [turn]; exact .aborts loop attempt e own network)
        | true =>
          have counted := Budget.settle_network (p := c.pacing) attempt own network
          by_cases spent : c.limit ≤ c.budget.attempts + 1
          · have turn := counted.trans (if_pos spent)
            exact moves_of_ended rfl (by rw [turn])
              (by rw [turn]; exact .exhausts loop attempt e own network spent)
          · have left : c.budget.attempts + 1 < c.limit := Nat.lt_of_not_le spent
            have next := Budget.schedule_left (p := c.pacing)
              (b := c.budget.withAttempts (c.budget.attempts + 1)) own left
            have turn := counted.trans (if_neg spent)
            rw [next] at turn
            exact moves_of_delay rfl (by rw [turn])
              (by rw [turn]; exact .retries loop attempt e own network left)
    · have turn : c.budget.settle c.pacing loop.epoch attempt outcome =
          ⟨c.budget, [.attemptDiscarded], .ended (.error Budget.cancelled)⟩ := if_pos own
      exact moves_of_ended rfl (by rw [turn]) (by rw [turn]; exact .discards loop attempt outcome own)

/-- Starts a loop as a task. The task has the number that is issued next. -/
def Timeline.start (plan : Plan) (t : Timeline) : Timeline :=
  t.spawn (some t.now) (.starting plan)

end Controller

end RandomBeacon
