import Mathlib.Data.Nat.Find
import RandomBeacon.Proofs.Lone
import RandomBeacon.Proofs.Reconnection.Turns

/-!
A loop that has its controller to itself, against any sequence of connect calls, each with any
duration and outcome (`reconnection_of_outcomes`). The instants of the calls follow from the delays
before them and from how long they take (`connectAt`), and how the loop ends from the first call
that is not lost for the network, if there is one among those that the budget allows. The loop is in
its attempt number `k` while it waits out the delay before connect call `k` (`Delaying`) and while
that call is under way (`Connecting`).
-/

namespace RandomBeacon

/-- Connect call number `k` fails for the network. -/
def Plan.Lost (plan : Plan) (k : Nat) : Prop :=
  ∃ e : Failure, (plan.connect k).outcome = .error e ∧ e.isNetwork = true

namespace Controller.Timeline

open Schedule.Timeline (Leads)

section Reference

variable (t : Timeline) (plan : Plan)

/-- The delay before connect call number `k` of a loop that begins here: that of attempt `k` after
those that the budget counts already. -/
def delayAt (k : Nat) : Nat :=
  t.state.pacing.config.delay (t.state.pacing.factors (t.state.budget.delays + k))
    (t.state.budget.attempts + k)

/-- The instant of connect call number `k`: the delay before it begins with the loop or with the
end of the call before. -/
def connectAt : Nat → Nat
  | 0 => t.now + t.delayAt 0
  | k + 1 => connectAt k + (plan.connect k).delay + t.delayAt (k + 1)

/-- The instant at which connect call number `k` ends. -/
def endAt (k : Nat) : Nat := t.connectAt plan k + (plan.connect k).delay

/-- The first `n` connect calls with their instants, newest first. -/
def firstConnects : Nat → List (String × Nat)
  | 0 => []
  | n + 1 => (plan.name, t.connectAt plan n) :: firstConnects n

/-- How many connect calls the budget has left. -/
def left : Nat := t.state.limit - t.state.budget.attempts

/-- A loop that began here has ended at `instant`, after `n` connect calls. -/
structure Over (n : Nat) (result : Except Failure Unit) (attempts instant : Nat) (u : Timeline) :
    Prop where
  now : u.now = instant
  tasks : u.tasks = []
  ended : u.ended = ⟨t.issued, instant, result⟩ :: t.ended
  connects : u.state.connects = t.firstConnects plan n ++ t.state.connects
  budget : u.state.budget = ⟨t.state.budget.epoch, attempts, t.state.budget.delays + n⟩

/-- A loop that begins here ends so. -/
def Ends (n : Nat) (result : Except Failure Unit) (attempts instant : Nat) : Prop :=
  ∀ fuel, 2 + 4 * n ≤ fuel →
    t.Over plan n result attempts instant ((t.start plan).await rules fuel t.issued)

/-- A loop that began here is in its attempt number `k`, after so many connect calls, and waits
until `due`. -/
structure Trying (k made due : Nat) (work : LoopWork) (u : Timeline) : Prop where
  tasks : u.tasks = [⟨t.issued, some due, work⟩]
  now : u.now ≤ due
  ended : u.ended = t.ended
  pacing : u.state.pacing = t.state.pacing
  connects : u.state.connects = t.firstConnects plan made ++ t.state.connects
  budget : u.state.budget =
    ⟨t.state.budget.epoch, t.state.budget.attempts + k, t.state.budget.delays + (k + 1)⟩

/-- It waits out the delay before connect call number `k`. -/
abbrev Delaying (k : Nat) : Timeline → Prop :=
  t.Trying plan k k (t.connectAt plan k)
    (.delaying ⟨plan, t.state.budget.epoch, k⟩ (t.state.budget.attempts + k))

/-- Its connect call number `k` is under way. -/
abbrev Connecting (k : Nat) : Timeline → Prop :=
  t.Trying plan k (k + 1) (t.endAt plan k)
    (.connecting ⟨plan, t.state.budget.epoch, k + 1⟩ (t.state.budget.attempts + k)
      (plan.connect k).outcome)

end Reference

variable {t u : Timeline} {plan : Plan} {k : Nat}

/-- A task that has the controller to itself takes its turn when it is due. -/
theorem goes {id due : Nat} {work : LoopWork} (alone : u.tasks = [⟨id, some due, work⟩])
    (later : u.now ≤ due) (asleep : rules.woken u.state work = false) :
    ∃ v : Timeline, ∃ next, Leads rules id 2 u v ∧ v.now = due ∧
      u.state.Moves due work v.state.budget v.state.connects next ∧
      v.state.pacing = u.state.pacing ∧ v.Remains id due u.ended next := by
  obtain ⟨moves, lone⟩ := run_moves due u.state work
  have none : (rules.resume due ⟨id, some due, work⟩ u.state).spawned = [] := lone.spawned
  obtain ⟨v, leads, now, state, next⟩ := Leads.goes alone later asleep none
  have state : v.state = (u.state.run due work).state := state
  rw [← state] at moves
  refine ⟨v, _, leads, now, moves, ?_, next⟩
  rw [state]
  exact lone.pacing

theorem starts (idle : t.tasks = []) (plan : Plan) :
    ∃ u : Timeline, ∃ next, Leads rules t.issued 2 (t.start plan) u ∧ u.now = t.now ∧
      t.state.Moves t.now (.starting plan) u.state.budget u.state.connects next ∧
      u.state.pacing = t.state.pacing ∧ u.Remains t.issued t.now t.ended next := by
  have alone : (t.start plan).tasks = [⟨t.issued, some t.now, .starting plan⟩] := by
    simp [start, Schedule.Timeline.spawn, idle]
  exact goes alone (Nat.le_refl _) rfl

/-- A loop with attempts left waits for its first one. -/
theorem start_delays (idle : t.tasks = []) (plan : Plan) (more : 0 < t.left) :
    ∃ u, Leads rules t.issued 2 (t.start plan) u ∧ t.Delaying plan 0 u := by
  obtain ⟨u, next, leads, now, moves, pacing, after⟩ := starts idle plan
  refine ⟨u, leads, ?_⟩
  generalize budget : u.state.budget = b at moves
  generalize connects : u.state.connects = made at moves
  cases moves with
  | spent _ spent =>
    rw [left] at more
    omega
  | begins =>
    obtain ⟨tasks, ended⟩ := after
    exact ⟨tasks, now ▸ Nat.le_add_right _ _, ended, pacing, connects, budget⟩

/-- A loop without attempts left ends at once. -/
theorem start_spent (idle : t.tasks = []) (none : t.left = 0) :
    t.Ends plan 0 (.error (.reconnection t.state.budget.attempts)) t.state.budget.attempts
      t.now := by
  obtain ⟨u, next, leads, now, moves, pacing, after⟩ := starts idle plan
  generalize budget : u.state.budget = b at moves
  generalize connects : u.state.connects = made at moves
  cases moves with
  | begins _ more =>
    rw [left] at none
    omega
  | spent =>
    obtain ⟨tasks, ended⟩ := after
    intro fuel enough
    rw [Schedule.Timeline.await_of_leads leads enough tasks]
    exact ⟨now, tasks, ended, connects, budget⟩

/-- When a delay is over the loop connects. -/
theorem Trying.connects_next (delaying : t.Delaying plan k u) :
    ∃ v, Leads rules t.issued 2 u v ∧ t.Connecting plan k v := by
  have own : u.state.budget.epoch = t.state.budget.epoch := by rw [delaying.budget]
  have asleep : rules.woken u.state (.delaying ⟨plan, t.state.budget.epoch, k⟩
      (t.state.budget.attempts + k)) = false := by
    simp [rules, woken, own]
  obtain ⟨v, next, leads, now, moves, pacing, after⟩ :=
    goes delaying.tasks delaying.now asleep
  refine ⟨v, leads, ?_⟩
  generalize budget : v.state.budget = b at moves
  generalize connects : v.state.connects = made at moves
  cases moves with
  | cancels _ _ other => exact absurd own other
  | connects =>
    obtain ⟨tasks, ended⟩ := after
    constructor
    · exact tasks
    · exact now ▸ Nat.le_add_right _ _
    · exact ended.trans delaying.ended
    · exact pacing.trans delaying.pacing
    · rw [connects, delaying.connects]
      rfl
    · exact budget.trans delaying.budget

section Connecting

variable (connecting : t.Connecting plan k u)
include connecting

/-- The end of a connect call, seen from the start of the loop. -/
theorem Trying.settles {outcome : Except Failure Unit} (is : (plan.connect k).outcome = outcome) :
    ∃ v : Timeline, ∃ next, Leads rules t.issued 2 u v ∧ v.now = t.endAt plan k ∧
      u.state.Moves (t.endAt plan k) (.connecting ⟨plan, t.state.budget.epoch, k + 1⟩
        (t.state.budget.attempts + k) outcome) v.state.budget v.state.connects next ∧
      v.state.pacing = t.state.pacing ∧ v.Remains t.issued (t.endAt plan k) t.ended next ∧
      u.state.budget.epoch = t.state.budget.epoch ∧ u.state.limit = t.state.limit ∧
      u.state.budget.attempts = t.state.budget.attempts + k := by
  obtain ⟨v, next, leads, now, moves, pacing, after⟩ := goes connecting.tasks connecting.now rfl
  rw [is] at moves
  rw [connecting.ended] at after
  refine ⟨v, next, leads, now, moves, pacing.trans connecting.pacing, after, ?_, ?_, ?_⟩
  · rw [connecting.budget]
  · exact congrArg (·.config.maxAttempts) connecting.pacing
  · rw [connecting.budget]

/-- A connect call that is lost leads to the delay before the next one, if there is one. -/
theorem Trying.retries (lost : plan.Lost k) (more : k + 1 < t.left) :
    ∃ v, Leads rules t.issued 2 u v ∧ t.Delaying plan (k + 1) v := by
  obtain ⟨e, outcome, network⟩ := lost
  obtain ⟨v, next, leads, now, moves, pacing, after, own, limit, attempts⟩ :=
    connecting.settles outcome
  refine ⟨v, leads, ?_⟩
  rw [left] at more
  generalize budget : v.state.budget = b at moves
  generalize connects : v.state.connects = made at moves
  cases moves with
  | discards _ _ _ other => exact absurd own other
  | aborts _ _ _ _ other =>
    rw [network] at other
    cases other
  | exhausts _ _ _ _ _ spent => omega
  | retries =>
    obtain ⟨tasks, ended⟩ := after
    have delay : u.state.delayOn (u.state.budget.withAttempts (u.state.budget.attempts + 1)) =
        t.delayAt (k + 1) := by
      rw [delayOn, connecting.pacing, connecting.budget]
      rfl
    rw [delay, attempts] at tasks
    constructor
    · exact tasks
    · exact now ▸ Nat.le_add_right _ _
    · exact ended
    · exact pacing
    · exact connects.trans connecting.connects
    · rw [budget, connecting.budget]
      rfl

/-- A loop that is over with connect call number `k` has made this call and those before it. -/
theorem Trying.over {v : Timeline} {result : Except Failure Unit} {attempts : Nat}
    (now : v.now = t.endAt plan k)
    (after : v.Remains t.issued (t.endAt plan k) t.ended (.ended result))
    (connects : v.state.connects = u.state.connects)
    (budget : v.state.budget = u.state.budget.withAttempts attempts) :
    t.Over plan (k + 1) result attempts (t.endAt plan k) v := by
  obtain ⟨tasks, ended⟩ := after
  refine ⟨now, tasks, ended, connects.trans connecting.connects, ?_⟩
  rw [budget, connecting.budget]
  rfl

/-- A connect call that succeeds ends the loop and clears the count. -/
theorem Trying.succeeds (outcome : (plan.connect k).outcome = .ok ()) :
    ∃ v, Leads rules t.issued 2 u v ∧ t.Over plan (k + 1) (.ok ()) 0 (t.endAt plan k) v := by
  obtain ⟨v, next, leads, now, moves, _, after, own, _⟩ := connecting.settles outcome
  refine ⟨v, leads, ?_⟩
  generalize budget : v.state.budget = b at moves
  generalize connects : v.state.connects = made at moves
  cases moves with
  | discards _ _ _ other => exact absurd own other
  | succeeds => exact connecting.over now after connects budget

/-- A connect call that fails otherwise than for the network does so too. -/
theorem Trying.aborts {e : Failure} (outcome : (plan.connect k).outcome = .error e)
    (other : e.isNetwork = false) :
    ∃ v, Leads rules t.issued 2 u v ∧ t.Over plan (k + 1) (.error e) 0 (t.endAt plan k) v := by
  obtain ⟨v, next, leads, now, moves, _, after, own, _⟩ := connecting.settles outcome
  refine ⟨v, leads, ?_⟩
  generalize budget : v.state.budget = b at moves
  generalize connects : v.state.connects = made at moves
  cases moves with
  | discards _ _ _ differs => exact absurd own differs
  | aborts => exact connecting.over now after connects budget
  | exhausts _ _ _ _ network | retries _ _ _ _ network =>
    rw [other] at network
    cases network

/-- The last connect call that the budget allows ends the loop if it is lost. -/
theorem Trying.exhausts (lost : plan.Lost k) (last : k + 1 = t.left) :
    ∃ v, Leads rules t.issued 2 u v ∧
      t.Over plan (k + 1) (.error (.reconnection t.state.limit)) t.state.limit
        (t.endAt plan k) v := by
  obtain ⟨e, outcome, network⟩ := lost
  obtain ⟨v, next, leads, now, moves, _, after, own, limit, attempts⟩ :=
    connecting.settles outcome
  refine ⟨v, leads, ?_⟩
  rw [left] at last
  have spent : u.state.budget.attempts + 1 = t.state.limit := by omega
  generalize budget : v.state.budget = b at moves
  generalize connects : v.state.connects = made at moves
  cases moves with
  | discards _ _ _ other => exact absurd own other
  | aborts _ _ _ _ other =>
    rw [network] at other
    cases other
  | retries _ _ _ _ _ more => omega
  | exhausts =>
    rw [spent] at after budget
    exact connecting.over now after connects budget

end Connecting

section Outcomes

variable (idle : t.tasks = [])
include idle

/-- As long as connect calls are lost a loop comes to the next one. -/
theorem reaches (within : k < t.left) (lost : ∀ j < k, plan.Lost j) :
    ∃ u, Leads rules t.issued (4 + 4 * k) (t.start plan) u ∧ t.Connecting plan k u := by
  induction k with
  | zero =>
    obtain ⟨u, begun, delaying⟩ := start_delays idle plan within
    obtain ⟨v, waited, connecting⟩ := delaying.connects_next
    exact ⟨v, begun.trans waited, connecting⟩
  | succ k ih =>
    have earlier : k < t.left := Nat.lt_of_succ_lt within
    obtain ⟨u, reached, connecting⟩ := ih earlier fun j less => lost j (Nat.lt_succ_of_lt less)
    obtain ⟨v, failed, delaying⟩ := connecting.retries (lost k (Nat.lt_succ_self k)) within
    obtain ⟨w, waited, connecting⟩ := delaying.connects_next
    exact ⟨w, (reached.trans failed).trans waited, connecting⟩

/-- A loop whose connect call number `k` is its last ends with that call. -/
theorem ends_of_over (within : k < t.left) (lost : ∀ j < k, plan.Lost j)
    {result : Except Failure Unit} {attempts : Nat}
    (finishes : ∀ u, t.Connecting plan k u →
      ∃ v, Leads rules t.issued 2 u v ∧
        t.Over plan (k + 1) result attempts (t.endAt plan k) v) :
    t.Ends plan (k + 1) result attempts (t.endAt plan k) := by
  obtain ⟨u, reached, connecting⟩ := reaches idle within lost
  obtain ⟨v, last, finishes⟩ := finishes u connecting
  intro fuel enough
  rw [Schedule.Timeline.await_of_leads (reached.trans last) (by omega) finishes.tasks]
  exact finishes

/-- What a loop comes to is determined by the first of the connect calls that the budget allows
which is not lost, if there is one. -/
theorem ends_of_first (within : k < t.left) (lost : ∀ j < k, plan.Lost j)
    (first : ¬plan.Lost k) :
    t.Ends plan (k + 1) (plan.connect k).outcome 0 (t.endAt plan k) := by
  apply ends_of_over idle within lost
  intro u connecting
  cases outcome : (plan.connect k).outcome with
  | ok => exact connecting.succeeds outcome
  | error e =>
    have other : e.isNetwork = false := by
      cases network : e.isNetwork with
      | false => rfl
      | true => exact absurd ⟨e, outcome, network⟩ first
    exact connecting.aborts outcome other

theorem ends_of_none (some : 0 < t.left) (lost : ∀ j < t.left, plan.Lost j) :
    t.Ends plan t.left (.error (.reconnection t.state.limit)) t.state.limit
      (t.endAt plan (t.left - 1)) := by
  obtain ⟨k, last⟩ : ∃ k, t.left = k + 1 := Nat.exists_eq_succ_of_ne_zero (Nat.ne_of_gt some)
  have within : k < t.left := by omega
  have finishes := ends_of_over idle within (fun j less => lost j (Nat.lt_trans less within))
    fun u connecting => connecting.exhausts (lost k within) last.symm
  rwa [last]

end Outcomes

/-- What a loop with a controller to itself does is determined by its connect calls and by the count
of attempts that it finds: with none left it ends at once; else it makes the calls up to the first
one that is not lost, if the budget comes to it, and ends with what that one ends with and the count
cleared; and where all that the budget allows are lost the budget is spent. Each call is made when
the delay is over that begins with the end of the call before. -/
theorem reconnection_of_outcomes (idle : t.tasks = []) (plan : Plan) :
    (t.state.limit ≤ t.state.budget.attempts →
      t.Ends plan 0 (.error (.reconnection t.state.budget.attempts)) t.state.budget.attempts
        t.now) ∧
    (∀ k < t.left, (∀ j < k, plan.Lost j) → ¬plan.Lost k →
      t.Ends plan (k + 1) (plan.connect k).outcome 0 (t.endAt plan k)) ∧
    (t.state.budget.attempts < t.state.limit → (∀ j < t.left, plan.Lost j) →
      t.Ends plan t.left (.error (.reconnection t.state.limit)) t.state.limit
        (t.endAt plan (t.left - 1))) ∧
    (∃ n ≤ t.left, ∃ result attempts instant, t.Ends plan n result attempts instant) ∧
    (t.state.pacing.config.jitter = false → ∀ k,
      t.delayAt k = Backoff.delay (t.state.budget.attempts + k) t.state.pacing.config.baseDelay
        t.state.pacing.config.maxDelay t.state.pacing.config.multiplier) := by
  refine ⟨fun spent => start_spent idle (Nat.sub_eq_zero_of_le spent),
    fun k => ends_of_first idle, fun more => ends_of_none idle (Nat.sub_pos_of_lt more), ?_, ?_⟩
  · rcases Nat.eq_zero_or_pos t.left with none | some
    · exact ⟨0, Nat.zero_le _, _, _, _, start_spent idle none⟩
    · by_cases lost : ∀ j < t.left, plan.Lost j
      · exact ⟨t.left, Nat.le_refl _, _, _, _, ends_of_none idle some lost⟩
      · have stops : ∃ k, k < t.left ∧ ¬plan.Lost k := by simpa using lost
        classical
        obtain ⟨within, first⟩ := Nat.find_spec stops
        have before : ∀ j < Nat.find stops, plan.Lost j := by
          intro j less
          by_contra kept
          exact Nat.find_min stops less ⟨Nat.lt_trans less within, kept⟩
        exact ⟨Nat.find stops + 1, within, _, _, _, ends_of_first idle within before first⟩
  · intro plain k
    simp only [delayAt, ReconnectionConfig.delay, plain, Bool.false_eq_true, if_false]
    rfl

/-- A controller with one failed attempt on its count. -/
def weary : Timeline where
  state := {
    pacing := { config := { maxAttempts := 5, baseDelay := 100, maxDelay := 1000, jitter := false } }
    budget := { attempts := 1 } }

/-- Two lost connect calls and one that succeeds, each slower than the one before. -/
def stubborn : Plan where
  name := "stubborn"
  connect k := ⟨10 * (k + 1), if k < 2 then .error (.network none) else .ok ()⟩

theorem reconnection_of_outcomes_weary :
    weary.tasks = [] ∧ weary.left = 4 ∧
    (List.range 3).map (weary.connectAt stubborn) = [200, 610, 1430] ∧
    weary.Ends stubborn 3 (.ok ()) 0 1460 := by
  have idle : weary.tasks = [] := rfl
  have lost : ∀ j < 2, stubborn.Lost j := by
    intro j less
    exact ⟨.network none, if_pos less, rfl⟩
  have first : ¬stubborn.Lost 2 := by
    rintro ⟨e, outcome, _⟩
    cases outcome
  have ends := (reconnection_of_outcomes idle stubborn).2.1 2 (by decide) lost first
  have instant : weary.endAt stubborn 2 = 1460 := by decide +kernel
  rw [instant] at ends
  exact ⟨idle, rfl, by decide +kernel, ends⟩

end Controller.Timeline

end RandomBeacon
