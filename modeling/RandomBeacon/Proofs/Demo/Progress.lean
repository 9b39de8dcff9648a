import RandomBeacon.Proofs.Demo.Standings

/-!
The session comes to its end in every order of events. It is never stuck (`At.progress`), and what
is still to happen grows less with every step (`At.step`), so there is a bound on the number of
steps (`Path.bounded`).
-/

namespace RandomBeacon.Demo

open World (rules)

variable {p : Plan} {s : State} {turns number : Nat}

/-- The number of the task whose end the session waits for. -/
def Standing.number? : Standing → Option Nat
  | opening number | asking number | requesting _ number | verifying _ number
  | closing _ _ number => some number
  | collecting _ _ | ended _ => none

namespace State

/-- The session goes on when its errand is over. -/
theorem advances (waits : s.standing.number? = some number) {reply : Reply}
    (left : s.timeline.resultOf? number = some reply) : ∃ t, s.advance? p = some t := by
  obtain ⟨standing, timeline, inbox⟩ := s
  cases standing with
  | collecting | ended => cases waits
  | opening | asking | requesting | verifying | closing =>
    obtain rfl := Option.some.inj waits
    exact ⟨_, Option.map_eq_some_iff.mpr ⟨reply, left, rfl⟩⟩

/-- The session waits for results only when it has taken up all that have come and wants more. -/
theorem wants {rounds : List Randomness} {deadline : Nat}
    (waits : s.collect? p rounds deadline = none) : rounds.length < p.requests ∧ s.inbox = [] := by
  rw [collect?] at waits
  split at waits
  next => cases waits
  next more =>
    refine ⟨Nat.lt_of_not_le more, ?_⟩
    split at waits
    next => cases waits
    next empty => exact empty

end State

namespace At

variable {standing : Standing} {t : Timeline} {inbox : List Randomness}

theorem scheduled (here : At p ⟨standing, t, inbox⟩ turns) :
    ∃ own numbers, Scheduled p own numbers t := by
  cases here with
  | opening _ scheduled | asking _ scheduled | closing _ scheduled | ended scheduled =>
    exact ⟨_, _, scheduled⟩
  | requesting _ holds | verifying _ holds | collecting holds => exact ⟨_, _, holds.scheduled⟩

/-- Few turns are left beside those of the publications. -/
theorem turns_le (here : At p ⟨standing, t, inbox⟩ turns) : turns ≤ t.tasks.length + 4 := by
  have many {own : List Task} {numbers : List Nat} (scheduled : Scheduled p own numbers t) :
      t.tasks.length = own.length + numbers.length := by
    rw [scheduled.tasks.length_eq, List.length_append, List.length_map]
  cases here with
  | opening stands scheduled | asking stands scheduled | closing stands scheduled =>
    have few := stands.turns_le
    have length := many scheduled
    omega
  | requesting underway holds | verifying underway holds =>
    have few := underway.turns_le
    have length := many holds.scheduled
    omega
  | collecting holds =>
    have length := many holds.scheduled
    omega
  | ended => exact Nat.zero_le _

/-- What the session's errands have left. -/
theorem opened (here : At p ⟨.opening number, t, inbox⟩ turns) {reply : Reply}
    (left : t.resultOf? number = some reply) : reply = .finished (.ok ()) := by
  cases here with
  | opening stands scheduled => exact (stands.ended scheduled left).2.2

theorem requested {many : Nat} (here : At p ⟨.requesting many number, t, inbox⟩ turns)
    {reply : Reply} (left : t.resultOf? number = some reply) :
    ∃ id, reply = .requested (.ok id) := by
  cases here with
  | requesting underway holds =>
    obtain ⟨_, _, _, reports⟩ := underway.ended holds.scheduled left
    cases reports with
    | requested id => exact ⟨id, rfl⟩

theorem verified {rounds : List Randomness}
    (here : At p ⟨.verifying rounds number, t, inbox⟩ turns) {reply : Reply}
    (left : t.resultOf? number = some reply) : reply = .found (.ok p.results.getLast?) := by
  cases here with
  | verifying underway holds =>
    exact (underway.ended holds.scheduled left).2.2.2.last

theorem collected {rounds : List Randomness} {deadline : Nat}
    (here : At p ⟨.collecting rounds deadline, t, inbox⟩ turns) :
    turns = t.tasks.length ∧
      ∃ drawn, Told p drawn rounds inbox ∧ drawn + t.tasks.length = p.requests := by
  cases here with
  | collecting holds told count =>
    rw [holds.scheduled.tasks.length_eq, List.nil_append, List.length_map]
    exact ⟨rfl, _, told, count⟩

theorem ended_all {result : Except Failure Collection}
    (here : At p ⟨.ended result, t, inbox⟩ turns) :
    result = .ok p.collection ∧ Heard p p.requests (hears t.state) := by
  cases here with
  | ended _ heard => exact ⟨rfl, heard⟩

/-- An errand of the session is over, or one of its tasks may take its turn. -/
theorem goes (here : At p ⟨standing, t, inbox⟩ turns) (waits : standing.number? = some number) :
    (∃ reply, t.resultOf? number = some reply) ∨
    (∃ task ∈ t.tasks, t.isReady rules task = true) ∧ t.isLive number = true := by
  have lives {own : List Task} {numbers : List Nat} (scheduled : Scheduled p own numbers t)
      (turn : (∃ task ∈ own, t.isReady rules task = true) ∧ ∃ task ∈ own, task.id = number) :
      (∃ task ∈ t.tasks, t.isReady rules task = true) ∧ t.isLive number = true := by
    obtain ⟨⟨task, mem, ready⟩, first, inside, is⟩ := turn
    refine ⟨⟨task, scheduled.mem_iff.mpr (.inl mem), ready⟩, List.any_eq_true.mpr ⟨first, ?_, ?_⟩⟩
    · exact scheduled.mem_iff.mpr (.inl inside)
    · exact decide_eq_true is
  cases here with
  | collecting | ended => cases waits
  | opening stands scheduled | asking stands scheduled | closing stands scheduled =>
    obtain rfl := Option.some.inj waits
    exact stands.goes.imp_right (lives scheduled)
  | requesting underway holds | verifying underway holds =>
    obtain rfl := Option.some.inj waits
    exact underway.goes.imp_right (lives holds.scheduled)

/-- With nothing on its way the session waits for more. -/
theorem waiting {rounds : List Randomness} {deadline : Nat}
    (here : At p ⟨.collecting rounds deadline, t, []⟩ turns)
    (wants : ¬p.requests ≤ rounds.length) :
    State.advance? p ⟨.collecting rounds deadline, t, []⟩ = none := by
  cases here with
  | collecting holds told count room listen patient =>
    exact (if_neg wants).trans (if_neg (still holds listen patient (by omega)))

section Collecting

variable (feasible : p.Feasible)
include feasible

/-- While the session waits for results, a publication is due. -/
theorem awaits {rounds : List Randomness} {deadline : Nat}
    (here : At p ⟨.collecting rounds deadline, t, inbox⟩ turns)
    (waits : State.advance? p ⟨.collecting rounds deadline, t, inbox⟩ = none) :
    (∃ number, p.publication number ∈ t.tasks) ∧
    (∀ task ∈ t.tasks, ∃ number, p.publication number = task) ∧
    (t.now = 0 ∨ t.now = p.publishDelay) ∧ p.publishDelay < deadline ∧
    At p ⟨.collecting rounds deadline, { t with now := p.publishDelay }, inbox⟩ turns := by
  cases here with
  | @collecting _ drawn _ _ _ numbers holds told count room listen patient =>
    obtain ⟨more, empty⟩ := State.wants (p := p) waits
    obtain rfl : inbox = [] := empty
    have behind := told.drawn_le feasible (by omega)
    have due : 0 < numbers.length := by omega
    obtain ⟨number, mem⟩ := List.exists_mem_of_length_pos due
    refine ⟨⟨number, holds.scheduled.mem_iff.mpr (.inr ⟨number, mem, rfl⟩)⟩, ?_, holds.clock,
      patient, .collecting ?_ told count room listen patient ?_⟩
    · intro task inside
      obtain ⟨number, _, is⟩ : ∃ number ∈ numbers, p.publication number = task := by
        simpa using holds.scheduled.mem_iff.mp inside
      exact ⟨number, is⟩
    · exact ⟨holds.scheduled.within _ _, holds.serves, holds.heard, .inr rfl, fun _ => rfl⟩
    · omega

/-- The clock may then move on to the instant at which it is due. -/
theorem sleeps {rounds : List Randomness} {deadline : Nat}
    (here : At p ⟨.collecting rounds deadline, t, inbox⟩ turns)
    (waits : State.advance? p ⟨.collecting rounds deadline, t, inbox⟩ = none)
    (early : t.now < p.publishDelay) :
    State.Sleeps p ⟨.collecting rounds deadline, t, inbox⟩ p.publishDelay := by
  obtain ⟨⟨number, mem⟩, all, _, patient, _⟩ := here.awaits feasible waits
  refine ⟨early, ⟨Nat.le_of_lt early, ?_, ?_⟩, waits, ?_, .inl ⟨_, mem, rfl⟩⟩
  · intro task inside
    obtain ⟨other, rfl⟩ := all task inside
    exact (p.isReady_publication _ t).trans (decide_eq_false (Nat.not_le_of_lt early))
  · intro task inside due is
    obtain ⟨other, rfl⟩ := all task inside
    exact Nat.le_of_eq (Option.some.inj is)
  · intro limit is
    obtain rfl := Option.some.inj is
    exact Nat.le_of_lt patient

/-- The clock moves only while the session waits for results, and to the instant at which rounds are
published. -/
theorem pass (here : At p ⟨standing, t, inbox⟩ turns) {instant : Nat}
    (sleeps : State.Sleeps p ⟨standing, t, inbox⟩ instant) :
    instant = p.publishDelay ∧ At p ⟨standing, { t with now := instant }, inbox⟩ turns := by
  -- whoever waits for an errand does not let the clock move
  have awake (number : Nat) : standing.number? ≠ some number := by
    intro waits
    rcases here.goes waits with ⟨reply, left⟩ | ⟨⟨task, mem, ready⟩, _⟩
    · obtain ⟨next, goes⟩ := State.advances (p := p) (s := ⟨standing, t, inbox⟩) waits left
      rw [sleeps.waits] at goes
      cases goes
    · have still := sleeps.idle.still task mem
      rw [ready] at still
      cases still
  cases standing with
  | opening number | asking number | requesting left number | verifying rounds number
  | closing rounds verified number => exact absurd rfl (awake number)
  | collecting rounds deadline =>
    obtain ⟨⟨number, mem⟩, all, clock, patient, later⟩ := here.awaits feasible sleeps.waits
    have limit : instant ≤ p.publishDelay := sleeps.idle.next _ mem _ rfl
    obtain rfl : instant = p.publishDelay := by
      rcases sleeps.due with ⟨task, inside, due⟩ | due
      · obtain ⟨other, rfl⟩ := all task inside
        exact (Option.some.inj due).symm
      · have is : deadline = instant := Option.some.inj due
        omega
    exact ⟨rfl, later⟩
  | ended result =>
    cases here with
    | ended scheduled =>
      rcases sleeps.due with ⟨task, mem, _⟩ | due
      · simp [scheduled.mem_iff] at mem
      · cases due

/-- The session is never stuck: it has ended with all results, or something can happen. -/
theorem progress (here : At p ⟨standing, t, inbox⟩ turns) :
    (∃ s, Step p ⟨standing, t, inbox⟩ s) ∨ standing = .ended (.ok p.collection) := by
  have turn {task : Task} (mem : task ∈ t.tasks) (ready : t.isReady rules task = true) :
      ∃ s, Step p ⟨standing, t, inbox⟩ s :=
    ⟨_, .turn _ (List.Perm.refl _) task mem ready _ (List.Perm.refl _)⟩
  have errand {number : Nat} (waits : standing.number? = some number) :
      ∃ s, Step p ⟨standing, t, inbox⟩ s := by
    rcases here.goes waits with ⟨reply, left⟩ | ⟨⟨task, mem, ready⟩, _⟩
    · obtain ⟨next, goes⟩ := State.advances (p := p) (s := ⟨standing, t, inbox⟩) waits left
      exact ⟨next, .advance goes⟩
    · exact turn mem ready
  cases standing with
  | opening | asking | requesting | verifying | closing => exact .inl (errand rfl)
  | collecting rounds deadline =>
    refine .inl ?_
    cases goes : State.advance? p ⟨.collecting rounds deadline, t, inbox⟩ with
    | some next => exact ⟨next, .advance goes⟩
    | none =>
      rcases Nat.lt_or_ge t.now p.publishDelay with early | late
      · exact ⟨_, .pass p.publishDelay (here.sleeps feasible goes early)⟩
      · obtain ⟨⟨number, mem⟩, _⟩ := here.awaits feasible goes
        exact turn mem ((p.isReady_publication _ t).trans (decide_eq_true late))
  | ended result =>
    cases here with
    | ended => exact .inr rfl

end Collecting

end At

/-- What is still to happen: turns, each of which may send as many results as there are requests,
results to be taken up, and the one move of the clock. -/
def State.rank (p : Plan) (s : State) (turns : Nat) : Nat :=
  (p.requests + 1) * (turns + s.standing.ahead p.requests) +
    (s.inbox.length + s.standing.moves p.requests) +
    if s.timeline.now < p.publishDelay then 1 else 0

/-- The session has been asked to open. -/
theorem At.start (p : Plan) : At p p.start 2 := by
  have nothing : Scheduled p [] [] (begin p.config p.publishDelay p.chance) :=
    ⟨⟨.nil, fun _ mem => (List.not_mem_nil mem).elim⟩,
      ⟨.nil, fun _ mem => (List.not_mem_nil mem).elim, fun _ mem => (List.not_mem_nil mem).elim⟩,
      .nil⟩
  exact .opening (.asked rfl) (nothing.start .openSession) rfl

section Ranks

variable (feasible : p.Feasible) (patient : 0 < p.config.requestTimeout)
include feasible patient

/-- Every step brings the end nearer. -/
theorem At.step (here : At p s turns) {u : State} (step : Step p s u) :
    ∃ turns', At p u turns' ∧ u.rank p turns' < s.rank p turns := by
  obtain ⟨standing, t, before⟩ := s
  cases step with
  | turn callbacks order task mem ready inbox arrive =>
    obtain ⟨turns', less, (length : inbox.length ≤ before.length + p.requests), _, there⟩ :=
      (here.reordered order).fire feasible patient mem ready arrive
    refine ⟨turns', there, ?_⟩
    have now : (State.fired ⟨standing, t, before⟩ callbacks task).now = t.now :=
      Schedule.Timeline.now_fire _ _ _
    have weights := Nat.mul_le_mul_left (p.requests + 1)
      (Nat.add_le_add_right less (standing.ahead p.requests))
    have split : turns'.succ + standing.ahead p.requests =
      turns' + standing.ahead p.requests + 1 := by omega
    rw [split, Nat.mul_add_one] at weights
    simp only [State.rank, now]
    omega
  | pass instant sleeps =>
    obtain ⟨rfl, there⟩ := here.pass feasible sleeps
    refine ⟨turns, there, ?_⟩
    have early := sleeps.later
    simp only [State.rank, if_pos early, Nat.lt_irrefl, if_false]
    omega
  | advance goes =>
    obtain ⟨turns', onward⟩ := here.advance feasible patient goes
    refine ⟨turns', onward.here, ?_⟩
    have weights := Nat.mul_le_mul_left (p.requests + 1) onward.ahead
    have moves := onward.moves
    simp only [State.rank, onward.now]
    simp only at weights moves
    omega

/-- However the session goes, it can go on only so often. -/
theorem Path.bounded {k : Nat} (path : Path p p.start k s) :
    ∃ turns, At p s turns ∧
      k + s.rank p turns ≤ (p.requests + 1) * (5 * p.requests + 10) + p.requests + 6 := by
  induction path with
  | start =>
    refine ⟨2, .start p, ?_⟩
    have early : (if p.start.timeline.now < p.publishDelay then 1 else 0) ≤ 1 := by split <;> omega
    have ahead : 2 + p.start.standing.ahead p.requests = 5 * p.requests + 10 := by
      simp only [Plan.start, Standing.ahead]
      omega
    rw [State.rank, ahead]
    simp only [Plan.start, Standing.moves, List.length_nil] at early ⊢
    omega
  | next _ step ih =>
    obtain ⟨turns, here, bound⟩ := ih
    obtain ⟨turns', there, less⟩ := here.step feasible patient step
    exact ⟨turns', there, by omega⟩

end Ranks

end RandomBeacon.Demo
