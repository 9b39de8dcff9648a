import RandomBeacon.Proofs.Demo.Progress

/-!
The demonstration itself is one of its sessions: the oldest task that is ready takes its turn, and
results are taken up in the order in which they were sent. Waiting for an errand comes to its end
within the fuel there is (`Met.complete`), and so does the collection (`Met.collects`), so the whole
session is a path to the end (`session_path`).
-/

namespace RandomBeacon.Demo

open World (rules)

/-- The results that a session has still to take up after so many, oldest first. -/
def unread (taken : Nat) (w : World Simulated) : List Randomness :=
  (w.scene.host.heard.take (w.scene.host.invocations - taken)).reverse.map (·.2)

theorem unread_all (w : World Simulated) : unread w.scene.host.invocations w = [] := by
  rw [unread, Nat.sub_self]
  rfl

theorem unread_grows {taken : Nat} {w v : World Simulated} (grows : Grows w v)
    (known : taken ≤ w.scene.host.invocations) :
    unread taken v = unread taken w ++ (arrivals w v).reverse ∧
    taken ≤ v.scene.host.invocations := by
  obtain ⟨new, grown⟩ := grows
  rw [arrivals_grown grown]
  obtain ⟨heard, count⟩ := Prod.mk.inj grown
  have more : v.scene.host.invocations - taken =
      new.length + (w.scene.host.invocations - taken) := by
    rw [count, hears]
    omega
  constructor
  · rw [unread, more, heard, List.take_length_add_append]
    simp [unread, hears]
  · rw [count, hears]
    omega

/-- The fuel is enough for the few turns of an errand and one of each publication. -/
theorem fuel_large (t : Timeline) : t.tasks.length + 4 < t.fuel := by
  have once : 64 * (t.tasks.length + 2) ≤
      64 * (t.tasks.length + 2) * (t.tasks.length + 2) :=
    Nat.le_mul_of_pos_right _ (Nat.succ_pos _)
  have all : 64 * (t.tasks.length + 2) * (t.tasks.length + 2) ≤ t.fuel :=
    Nat.le_mul_of_pos_right _ (Nat.succ_pos _)
  omega

/-- A state that the session comes to. If it has taken up so many results, the others follow in the
order in which they were sent. -/
structure Met (p : Plan) (taken : Option Nat) (s : State) : Prop where
  path : ∃ k, Path p p.start k s
  order : ∀ n ∈ taken, n ≤ s.timeline.state.scene.host.invocations ∧
    s.inbox = unread n s.timeline.state

namespace Met

variable {p : Plan} {taken : Option Nat} {turns number : Nat} {standing : Standing} {t : Timeline}
  {inbox : List Randomness} {task : Task}

theorem start (p : Plan) : Met p (some 0) p.start := by
  refine ⟨⟨0, .start⟩, ?_⟩
  rintro _ ⟨⟩
  exact ⟨Nat.le_refl _, rfl⟩

/-- What has been sent until now has been taken up. -/
theorem idle (path : ∃ k, Path p p.start k ⟨standing, t, []⟩) :
    Met p (some t.state.scene.host.invocations) ⟨standing, t, []⟩ := by
  refine ⟨path, ?_⟩
  rintro _ ⟨⟩
  exact ⟨Nat.le_refl _, (unread_all _).symm⟩

section Turns

variable (feasible : p.Feasible) (patient : 0 < p.config.requestTimeout)
include feasible patient

theorem here {s : State} (met : Met p taken s) : ∃ turns, At p s turns := by
  obtain ⟨k, path⟩ := met.path
  obtain ⟨turns, here, _⟩ := path.bounded feasible patient
  exact ⟨turns, here⟩

/-- The turn of a task. -/
theorem turn (met : Met p taken ⟨standing, t, inbox⟩) (here : At p ⟨standing, t, inbox⟩ turns)
    (mem : task ∈ t.tasks) (ready : t.isReady rules task = true) :
    ∃ inbox' turns', turns' < turns ∧ Met p taken ⟨standing, t.fire rules task, inbox'⟩ ∧
      At p ⟨standing, t.fire rules task, inbox'⟩ turns' := by
  obtain ⟨⟨k, path⟩, order⟩ := met
  have arrive : (inbox ++ (arrivals t.state (t.fire rules task).state).reverse).Perm
      (inbox ++ arrivals t.state (t.fire rules task).state) :=
    (List.reverse_perm _).append_left _
  obtain ⟨turns', less, _, grows, there⟩ := here.fire feasible patient mem ready arrive
  have step : Step p ⟨standing, t, inbox⟩ ⟨standing, t.fire rules task, _⟩ :=
    .turn t.state.client.callbacks (List.Perm.refl _) task mem ready _ arrive
  refine ⟨_, turns', less, ⟨⟨k + 1, path.next step⟩, fun n is => ?_⟩, there⟩
  obtain ⟨known, waiting⟩ := order n is
  obtain ⟨unread', known'⟩ := unread_grows grows known
  exact ⟨known', (congrArg (· ++ _) waiting).trans unread'.symm⟩

/-- Whatever else can run at an instant runs. -/
theorem settle (fuel : Nat) (met : Met p taken ⟨standing, t, inbox⟩)
    (here : At p ⟨standing, t, inbox⟩ turns) {reply : Reply}
    (left : t.resultOf? number = some reply) :
    ∃ inbox', Met p taken ⟨standing, t.settle rules fuel, inbox'⟩ ∧
      (t.settle rules fuel).resultOf? number = some reply := by
  induction fuel generalizing t inbox turns with
  | zero => exact ⟨inbox, met, left⟩
  | succ fuel ih =>
    rw [Schedule.Timeline.settle]
    cases up : t.ready? rules with
    | none => exact ⟨inbox, met, left⟩
    | some task =>
      have mem := List.mem_of_find?_eq_some up
      obtain ⟨inbox', turns', _, met', there⟩ :=
        met.turn feasible patient here mem (List.find?_some up)
      obtain ⟨own, numbers, scheduled⟩ := here.scheduled
      exact ih met' there (scheduled.retired.resultOf?_fire left mem)

/-- Waiting for the errand of the session comes to its end. -/
theorem waits (waits : standing.number? = some number) (fuel : Nat)
    (met : Met p taken ⟨standing, t, inbox⟩) (here : At p ⟨standing, t, inbox⟩ turns)
    (enough : turns < fuel) :
    ∃ u inbox' turns' reply, t.runUntil rules (fun t => !t.isLive number) none fuel = u ∧
      Met p taken ⟨standing, u, inbox'⟩ ∧ At p ⟨standing, u, inbox'⟩ turns' ∧
      u.resultOf? number = some reply := by
  induction fuel generalizing t inbox turns with
  | zero => cases enough
  | succ fuel ih =>
    rw [Schedule.Timeline.runUntil]
    cases live : t.isLive number with
    | false =>
      rcases here.goes waits with ⟨reply, left⟩ | ⟨_, alive⟩
      · exact ⟨t, inbox, turns, reply, rfl, met, here, left⟩
      · rw [live] at alive
        cases alive
    | true =>
      obtain ⟨task, up⟩ : ∃ task, t.ready? rules = some task := by
        rcases here.goes waits with ⟨reply, left⟩ | ⟨⟨task, mem, ready⟩, _⟩
        · obtain ⟨own, numbers, scheduled⟩ := here.scheduled
          obtain ⟨task, mem, is⟩ := List.any_eq_true.mp live
          exact absurd (of_decide_eq_true is) (scheduled.retired.differs left mem)
        · exact Option.isSome_iff_exists.mp (List.find?_isSome.mpr ⟨task, mem, ready⟩)
      obtain ⟨inbox', turns', less, met', there⟩ := met.turn feasible patient here
        (List.mem_of_find?_eq_some up) (List.find?_some up)
      obtain ⟨u, inbox'', turns'', reply, is, ended⟩ := ih met' there (by omega)
      refine ⟨u, inbox'', turns'', reply, ?_, ended⟩
      simpa [up] using is

/-- An errand of the session is completed within its fuel. -/
theorem complete (e : Errand) (waits : standing.number? = some t.issued)
    (met : Met p taken ⟨standing, t.start e, inbox⟩) :
    ∃ u inbox' reply, t.complete e = (some reply, u) ∧ Met p taken ⟨standing, u, inbox'⟩ ∧
      u.resultOf? t.issued = some reply := by
  obtain ⟨turns, here⟩ := met.here feasible patient
  have large := Nat.lt_of_le_of_lt here.turns_le (fuel_large (t.start e))
  obtain ⟨v, inbox', turns', reply, is, met', there, left⟩ :=
    met.waits feasible patient waits (t.start e).fuel here large
  obtain ⟨inbox'', met'', left'⟩ := met'.settle feasible patient (t.start e).fuel there left
  refine ⟨_, inbox'', reply, ?_, met'', left'⟩
  rw [World.Timeline.complete, Schedule.Timeline.await, is, left']

end Turns

/-- The session goes on, without a result. -/
theorem goes {s u : State} (met : Met p taken s) (goes : s.advance? p = some u)
    (state : u.timeline.state = s.timeline.state) (inbox : u.inbox = s.inbox) : Met p taken u := by
  obtain ⟨⟨k, path⟩, order⟩ := met
  refine ⟨⟨k + 1, path.next (.advance goes)⟩, ?_⟩
  rwa [state, inbox]

section Session

variable (feasible : p.Feasible) (patient : 0 < p.config.requestTimeout)
include feasible patient

/-- The session is opened, and asks for the chain. -/
theorem opened : ∃ t inbox, openSession (begin p.config p.publishDelay p.chance) = .ok t ∧
    Met p (some 0) ⟨.asking t.issued, t.start .chain, inbox⟩ := by
  obtain ⟨t, inbox, reply, is, met, left⟩ :=
    (Met.start p).complete feasible patient .openSession rfl
  obtain ⟨turns, here⟩ := met.here feasible patient
  obtain rfl := here.opened left
  refine ⟨t, inbox, ?_, met.goes (Option.map_eq_some_iff.mpr ⟨_, left, rfl⟩) rfl rfl⟩
  rw [openSession, is]

/-- The chain has been asked for, and the first request is submitted. -/
theorem asked (met : Met p taken ⟨.asking t.issued, t.start .chain, inbox⟩) :
    ∃ inbox', Met p taken (State.request p
      ⟨.asking t.issued, (t.complete .chain).2, inbox'⟩ p.requests) := by
  obtain ⟨u, inbox', reply, is, met', left⟩ := met.complete feasible patient .chain rfl
  rw [is]
  refine ⟨inbox', met'.goes (Option.map_eq_some_iff.mpr ⟨_, left, rfl⟩) ?_ ?_⟩
  all_goals cases p.requests <;> rfl

/-- All requests are submitted, and the session begins to collect. -/
theorem submits {left : Nat} (met : Met p taken (State.request p ⟨standing, t, inbox⟩ left)) :
    ∃ u inbox', submit left t = .ok u ∧
      Met p taken ⟨.collecting [] (u.now + p.patience), u, inbox'⟩ := by
  induction left generalizing standing t inbox with
  | zero => exact ⟨t, inbox, rfl, met⟩
  | succ left ih =>
    obtain ⟨u, inbox', reply, is, met', ended⟩ :=
      Met.complete feasible patient (.request handler) rfl met
    obtain ⟨turns, here⟩ := met'.here feasible patient
    obtain ⟨id, rfl⟩ := here.requested ended
    rw [submit, is]
    refine ih (met'.goes (Option.map_eq_some_iff.mpr ⟨_, ended, rfl⟩) ?_ ?_)
    all_goals cases left <;> rfl

end Session

end Met

theorem gather_cons {wanted : Nat} {rounds rest : List Randomness} {r : Randomness}
    (wants : ¬wanted ≤ rounds.length) :
    gather wanted rounds (r :: rest) = gather wanted (gather wanted rounds [r]) rest := by
  rw [gather, gather, if_neg wants, if_neg wants]
  split <;> rfl

/-- The session takes up the results that have come, as far as it wants more. -/
theorem drain {p : Plan} {rounds inbox : List Randomness} {deadline k : Nat} {t : Timeline}
    (path : Path p p.start k ⟨.collecting rounds deadline, t, inbox⟩) :
    ∃ deadline' rest k',
      Path p p.start k' ⟨.collecting (gather p.requests rounds inbox) deadline', t, rest⟩ ∧
      (rest = [] ∨ p.requests ≤ (gather p.requests rounds inbox).length) := by
  induction inbox generalizing rounds deadline k with
  | nil => exact ⟨deadline, [], k, path, .inl rfl⟩
  | cons r rest ih =>
    by_cases enough : p.requests ≤ rounds.length
    · rw [gather, if_pos enough]
      exact ⟨deadline, r :: rest, k, path, .inr enough⟩
    · rw [gather_cons enough]
      exact ih (path.next (.advance (if_neg enough)))

namespace Met

variable {p : Plan} {turns number deadline : Nat} {t : Timeline}
  {rounds inbox : List Randomness}

section Session

variable (feasible : p.Feasible) (patient : 0 < p.config.requestTimeout)
include feasible patient

/-- The turn of a publication while nothing is on its way to the session. -/
theorem published (path : ∃ k, Path p p.start k ⟨.collecting rounds deadline, t, []⟩) {task : Task}
    (up : t.ready? rules = some task) :
    ∃ inbox, Met p (some t.state.scene.host.invocations)
        ⟨.collecting rounds deadline, t.fire rules task, inbox⟩ ∧
      t.state.scene.host.invocations <
        (t.fire rules task).state.scene.host.invocations ∧
      (t.fire rules task).tasks.length < t.tasks.length := by
  have mem := List.mem_of_find?_eq_some up
  obtain ⟨turns, here⟩ := (idle path).here feasible patient
  obtain ⟨inbox, turns', less, met', there⟩ :=
    (idle path).turn feasible patient here mem (List.find?_some up)
  obtain ⟨rfl, drawn, told, count⟩ := here.collected
  obtain ⟨rfl, drawn', told', count'⟩ := there.collected
  obtain ⟨known, order⟩ := met'.order _ rfl
  refine ⟨inbox, met', Nat.lt_of_le_of_ne known fun same => ?_, less⟩
  -- otherwise a round would have been drawn that nobody has heard of
  have nothing : inbox = [] := order.trans ((congrArg (unread · _) same).trans (unread_all _))
  have old := told.length_le
  have all := (nothing ▸ told').drawn_le feasible (by omega)
  omega

/-- While nothing can run, the clock waits for the instant of publication. -/
theorem asleep (path : ∃ k, Path p p.start k ⟨.collecting rounds deadline, t, []⟩)
    (wants : ¬p.requests ≤ rounds.length) (blocked : t.ready? rules = none) :
    t.now < p.publishDelay ∧ t.nextInstant? = some p.publishDelay ∧
      (∃ k, Path p p.start k
        ⟨.collecting rounds deadline, { t with now := p.publishDelay }, []⟩) ∧
      ∃ task, ({ t with now := p.publishDelay } : Timeline).ready? rules = some task := by
  obtain ⟨turns, here⟩ := (idle path).here feasible patient
  have waits := here.waiting wants
  obtain ⟨⟨number, mem⟩, all, _⟩ := here.awaits feasible waits
  have early : t.now < p.publishDelay := by
    have still := List.find?_eq_none.mp blocked _ mem
    rwa [Plan.isReady_publication, decide_eq_true_iff, Nat.not_le] at still
  have next : t.nextInstant? = some p.publishDelay := by
    refine List.min?_eq_some_iff.mpr ⟨List.mem_filterMap.mpr ⟨_, mem, rfl⟩, ?_⟩
    intro due inside
    obtain ⟨task, there, is⟩ := List.mem_filterMap.mp inside
    obtain ⟨other, rfl⟩ := all task there
    exact Nat.le_of_eq (Option.some.inj is)
  obtain ⟨k, path⟩ := path
  refine ⟨early, next, ⟨_, path.next (.pass _ (here.sleeps feasible waits early))⟩, ?_⟩
  refine Option.isSome_iff_exists.mp (List.find?_isSome.mpr ⟨_, mem, ?_⟩)
  exact (p.isReady_publication _ _).trans (decide_eq_true (Nat.le_refl _))

/-- Waiting for results comes to the next publication. -/
theorem awaited (path : ∃ k, Path p p.start k ⟨.collecting rounds deadline, t, []⟩)
    (wants : ¬p.requests ≤ rounds.length) :
    ∃ u inbox, t.runUntil rules
        (fun later => t.state.scene.host.invocations < later.state.scene.host.invocations)
        (some (t.now + p.patience)) t.fuel = u ∧
      Met p (some t.state.scene.host.invocations) ⟨.collecting rounds deadline, u, inbox⟩ ∧
      t.state.scene.host.invocations < u.state.scene.host.invocations ∧
      u.tasks.length < t.tasks.length := by
  obtain ⟨fuel, is⟩ : ∃ fuel, t.fuel = fuel + 3 := ⟨t.fuel - 3, by have := fuel_large t; omega⟩
  rw [is, Schedule.Timeline.runUntil, if_neg (by simp)]
  cases up : t.ready? rules with
  | some task =>
    obtain ⟨inbox, met', more, fewer⟩ := published feasible patient path up
    refine ⟨_, inbox, ?_, met', more, fewer⟩
    simp only [Schedule.Timeline.runUntil, more, decide_true, if_true]
  | none =>
    obtain ⟨early, next, passed, task, up'⟩ := asleep feasible patient path wants up
    obtain ⟨inbox, met', more, fewer⟩ := published feasible patient passed up'
    have soon : p.publishDelay ≤ t.now + p.patience := by
      rw [Plan.patience]
      omega
    refine ⟨_, inbox, ?_, met', more, fewer⟩
    simp only [next, Option.filter, Option.all, soon, decide_true, if_true,
      Nat.max_eq_right (Nat.le_of_lt early), Schedule.Timeline.runUntil, up', more, Nat.lt_irrefl,
      decide_false, Bool.false_eq_true, if_false]

/-- The collection comes to an end with a result for each request. -/
theorem collects (fuel : Nat) {taken : Nat}
    (met : Met p (some taken) ⟨.collecting rounds deadline, t, inbox⟩)
    (enough : t.tasks.length < fuel) :
    ∃ rounds' deadline' u rest k,
      collect p.requests p.patience fuel taken rounds t = (rounds', u) ∧
      Path p p.start k ⟨.collecting rounds' deadline', u, rest⟩ ∧ p.requests ≤ rounds'.length := by
  induction fuel generalizing taken rounds deadline t inbox with
  | zero => cases enough
  | succ fuel ih =>
    obtain ⟨k, path⟩ := met.path
    obtain ⟨deadline', rest, k', path', dry⟩ := drain path
    have fresh : ((t.state.scene.host.heard.take
        (t.state.scene.host.invocations - taken)).reverse.map (·.2)) = inbox :=
      (met.order _ rfl).2.symm
    simp only [collect, fresh]
    by_cases all : p.requests ≤ (gather p.requests rounds inbox).length
    · exact ⟨_, deadline', t, rest, k', if_pos all, path', all⟩
    · obtain rfl : rest = [] := dry.resolve_right all
      obtain ⟨u, inbox', is, met', more, fewer⟩ := awaited feasible patient ⟨k', path'⟩ all
      rw [if_neg all, is, if_neg (Nat.not_le_of_lt more)]
      exact ih met' (by omega)

/-- The last round is looked up again. -/
theorem verifies {r : Randomness} (path : ∃ k, Path p p.start k
      ⟨.verifying rounds t.issued, t.start (.query (.getRandomness r.number)), inbox⟩) :
    ∃ found u inbox', verify r t = .ok (found, u) ∧
      ∃ k, Path p p.start k ⟨.closing rounds found u.issued, u.start .closeSession, inbox'⟩ := by
  have met : Met p none ⟨.verifying rounds t.issued, t.start _, inbox⟩ := ⟨path, nofun⟩
  obtain ⟨u, inbox', reply, is, met', left⟩ := met.complete feasible patient _ rfl
  obtain ⟨turns, here⟩ := met'.here feasible patient
  obtain rfl := here.verified left
  obtain ⟨k, reached⟩ := met'.path
  refine ⟨p.results.getLast?, u, inbox', ?_, k + 1, reached.next (.advance ?_)⟩
  · rw [verify, is]
  · exact Option.map_eq_some_iff.mpr ⟨_, left, rfl⟩

/-- The session is closed. -/
theorem closed {verified : Option Randomness} (path : ∃ k, Path p p.start k
      ⟨.closing rounds verified t.issued, t.start .closeSession, inbox⟩) :
    ∃ k s, Path p p.start k s ∧
      s.standing = .ended (.ok ⟨rounds, verified, (t.complete .closeSession).2.now⟩) := by
  have met : Met p none ⟨.closing rounds verified t.issued, t.start .closeSession, inbox⟩ :=
    ⟨path, nofun⟩
  obtain ⟨u, inbox', reply, is, met', left⟩ := met.complete feasible patient _ rfl
  obtain ⟨k, reached⟩ := met'.path
  rw [is]
  exact ⟨k + 1, _, reached.next (.advance (Option.map_eq_some_iff.mpr ⟨_, left, rfl⟩)), rfl⟩

end Session

end Met

section Session

variable {p : Plan} (feasible : p.Feasible) (patient : 0 < p.config.requestTimeout)
include feasible patient

/-- The demonstration is one of its sessions, and comes to the end. -/
theorem session_path : ∃ k s c, Path p p.start k s ∧ s.standing = .ended (.ok c) ∧
    session p.config p.requests p.publishDelay p.chance = .ok c := by
  obtain ⟨t, inbox, opened, asks⟩ := Met.opened feasible patient
  obtain ⟨inbox', asked⟩ := asks.asked feasible patient
  obtain ⟨u, inbox'', submitted, collecting⟩ := asked.submits feasible patient
  obtain ⟨turns, here⟩ := collecting.here feasible patient
  have few : u.tasks.length < p.requests + 2 := by
    obtain ⟨_, drawn, _, count⟩ := here.collected
    omega
  obtain ⟨rounds, deadline, v, rest, k, collected, path, all⟩ :=
    collecting.collects feasible patient (p.requests + 2) few
  rw [Plan.patience] at collected
  have reached := path.next (.advance (if_pos all))
  rw [session, opened]
  simp only [bind, Except.bind, submitted, collected]
  cases last : (rounds.mergeSort fun a b => a.number ≤ b.number).getLast? with
  | none =>
    simp only [State.report, last] at reached
    obtain ⟨j, s, path', ended⟩ := Met.closed feasible patient ⟨_, reached⟩
    exact ⟨j, s, _, path', ended, rfl⟩
  | some r =>
    simp only [State.report, last] at reached
    obtain ⟨found, w, inbox₃, verified, closing⟩ := Met.verifies feasible patient ⟨_, reached⟩
    obtain ⟨j, s, path', ended⟩ := Met.closed feasible patient closing
    refine ⟨j, s, _, path', ended, ?_⟩
    simp only [verified]
    rfl

end Session

end RandomBeacon.Demo
