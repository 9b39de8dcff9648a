import RandomBeacon.Proofs.Attempts
import RandomBeacon.Proofs.Generations
import RandomBeacon.Proofs.Replies

/-!
The budget of attempts over whole runs (`reconnection_budget`). One count of attempts serves all
sessions of a client, and hand-offs of closed sessions may be under way beside that of the session
at hand; still every hand-off has its budget in full, unless one of the same session has spent it,
and nobody is told that it is spent before it is.
-/

namespace RandomBeacon

/-- A hand-off of the session at hand is one of the operations under way. -/
theorem Client.of_handoffs {c : Client} {s? : Option Stage} (one : c.handoffs s?.toList = 1) :
    ∃ s h, s? = some s ∧ s.purpose? = some (.recovering h) ∧
      h.generation = c.session.generation := by
  cases s? with
  | none => cases one
  | some s =>
    have recovers : s.recovers c.session.generation = true := by
      by_contra other
      simp [handoffs, other] at one
    obtain ⟨p, wants, own⟩ := Option.any_eq_true _ _ |>.mp recovers
    cases p with
    | opening => cases own
    | recovering h => exact ⟨s, h, rfl, wants, by simpa [Purpose.recovers] using own⟩

/-- A guard goes up for a session that loses its connection, in the turn of a lost call or of an
opening that has got no subscription. -/
theorem Course.raises {c d : Client} {event : Event} {new : List Stage}
    (course : Course c event d new) (raised : c.guards < d.guards) :
    c.loses c.session.generation = true ∧
    (event = .recoverSession c.session.generation ∨
      ∃ failed signal,
        event = .resume (.subscribing (.opening c.session.generation) failed) signal ∧
        Stage.received? (.subscribing (.opening c.session.generation) failed) signal = none) := by
  have same {b : Client} (after : d.core = b.core) (guards : b.guards ≤ c.guards) : False := by
    obtain ⟨_, _, session, _⟩ := Client.core_eq_iff.mp after
    have kept : d.guards = b.guards :=
      Client.guards_congr (congrArg Session.generation session)
        (congrArg Session.reconnecting session)
    omega
  have begins {b : Client} {starter : Starter} {progress : Progress} (after : d.core = b.core)
      (handed : c.HandOff c.session.generation starter b progress) :
      c.loses c.session.generation = true := by
    cases handed with
    | busy | skips => exact (same after (Nat.le_refl _)).elim
    | joins => exact (same after (Nat.le_of_eq (Client.guards_congr (by simp) (by simp)))).elim
    | begins _ _ down connected | spent _ _ down connected =>
      exact Client.loses_iff.mpr ⟨rfl, down, connected⟩
  cases course with
  | opens idle after | declines after | passes other after | closed after | breaks panicked after
  | fades wants stale fade after => exact (same after (Nat.le_refl _)).elim
  | closes after => exact (same after (Nat.zero_le _)).elim
  | serves standing =>
    have session : d.session = c.session := congrArg (·.2.1) standing
    have kept : d.guards = c.guards :=
      Client.guards_congr (congrArg Session.generation session)
        (congrArg Session.reconnecting session)
    omega
  | hands handed after => exact ⟨begins after handed, Or.inl rfl⟩
  | @advances s signal p b _ progress wants current advance after =>
    have down (h : Handoff) (own : p = .recovering h) {b : Client}
        (kept : b.session.generation = c.session.generation) :
        (b.clearReconnecting h.generation).guards ≤ c.guards := by
      have generation : c.session.generation = h.generation := by
        rw [current.generation, own]
        rfl
      have cleared : (b.clearReconnecting h.generation).guards = 0 :=
        Client.guards_down (by simp [kept, generation])
          (Client.clearReconnecting_down h.generation b)
      exact cleared ▸ Nat.zero_le _
    generalize received : s.received? signal = brought at advance
    cases advance with
    | pauses | asks | refused | takes | asksAtOnce | asksAnew | retries =>
      exact (same after (Nat.le_refl _)).elim
    | opens => exact (same after (Nat.le_of_eq (Client.guards_congr (by simp) (by simp)))).elim
    | handsOff generation failed handed =>
      obtain rfl := Option.some.inj wants
      obtain rfl : c.session.generation = generation := current.generation
      exact ⟨begins after handed, Or.inr ⟨failed, signal, rfl, received⟩⟩
    | recovers h failed id =>
      obtain rfl := Option.some.inj wants
      exact (same after (down h rfl (by simp))).elim
    | exhausted h | aborts h =>
      obtain rfl := Option.some.inj wants
      exact (same after (down h rfl rfl)).elim

/-- A session that is handed over is at hand, and its guard is down. -/
theorem Event.loses_of_handsOver {c : Client} {event : Event} (hands : event.handsOver c = true) :
    c.loses c.session.generation = true := by
  have own {generation : Nat} (loses : c.loses generation = true) :
      c.loses c.session.generation = true := by
    rwa [(Client.loses_iff.mp loses).1]
  cases event with
  | recoverSession generation => exact own hands
  | resume stage signal =>
    cases stage with
    | subscribing p failed =>
      cases p with
      | recovering h => cases hands
      | opening generation =>
        cases signal with
        | returned | panicked => cases hands
        | failed fault => exact own (Bool.and_eq_true_iff.mp hands).2
    | pausing | releasing | scheduled | dropping | closing => cases hands
  | openSession | closeSession | serve => cases hands

/-- An opening that may ask once more, or has been refused, raises no guard. -/
theorem Client.subscribed_spared {c : Client} {generation failed : Nat} {fault : Fault}
    (spared : ((Failure.ofSubscribeFault fault).isNetwork && subscribeLimit ≤ failed + 1) = false) :
    (c.subscribed (.opening generation) failed (.failed fault)).1.guards = c.guards := by
  simp only [subscribed]
  by_cases network : (Failure.ofSubscribeFault fault).isNetwork = true
  · have more : failed + 1 < subscribeLimit := by simpa [network] using spared
    simp only [network, more, if_true]
    rfl
  · simp only [network, if_false, subscribeFailed, Bool.false_eq_true]
    unfold setLifecycleIf
    split <;> rfl

namespace World.Timeline

variable {π : Type} [Provider π] {e : Surroundings π} {s t u : Timeline π} {a : Action π}
  {actions more : List (Action π)} {number limit : Nat} {past : List Nat}

/-- A guard goes up in no other turn than that of a hand-off. -/
theorem act_guards (allowed : t.Allows e a) (sound : Sound t)
    (raised : t.client.guards < (t.act a).client.guards) :
    ∃ number, a = .turn number ∧ (t.event a).handsOver t.client = true := by
  obtain ⟨_, _, _, _, course⟩ := act_course allowed sound
  obtain ⟨loses, turns⟩ := course.raises raised
  cases a with
  | pass | ask | cancel | listen | unlisten | publish | adjust =>
    rcases turns with recovers | ⟨_, _, resumes, _⟩
    · cases recovers
    · cases resumes
  | turn number =>
    refine ⟨number, rfl, ?_⟩
    rcases turns with recovers | ⟨failed, signal, resumes, received⟩
    · rw [recovers]
      exact loses
    · obtain ⟨due, pending, found, is⟩ := of_event_resume resumes
      obtain ⟨c, finished, _, core⟩ := turn_operation sound.numbered found
      rw [← is] at core
      rw [resumes]
      have guards {b d : Client} (same : b.core = d.core) : b.guards = d.guards := by
        have session := (Client.core_eq_iff.mp same).2.2.1
        exact Client.guards_congr (congrArg Session.generation session)
          (congrArg Session.reconnecting session)
      cases signal with
      | returned id => cases received
      | panicked detail =>
        have same := guards (core.trans finished)
        omega
      | failed fault =>
        simp only [Event.handsOver, loses, Bool.and_true]
        by_contra spared
        have same := (guards core).trans
          ((Client.subscribed_spared (Bool.not_eq_true _ ▸ spared)).trans (guards finished))
        omega

theorem handsOver_lasts (allowed : t.Allows e a) (sound : Sound t)
    (hands : (t.event a).handsOver t.client = true) :
    (t.act a).client.session.generation = t.client.session.generation := by
  obtain ⟨_, _, _, _, course⟩ := act_course allowed sound
  refine course.generation.resolve_right fun closes => ?_
  rw [closes.1] at hands
  cases hands

/-- A turn that hands the session over leaves its task where the hand-off begins. -/
theorem turn_handsOver (sound : Sound t) (allowed : t.Allows e (.turn number))
    (hands : (t.event (.turn number)).handsOver t.client = true) :
    ∃ (b : Client) (starter : Starter) (generation : Nat), b.core = t.client.core ∧
      t.client.loses generation = true ∧
      (t.act (.turn number)).Attends number (b.handOff starter generation).2 ∧
      (t.act (.turn number)).client.core = (b.handOff starter generation).1.core := by
  cases event : t.event (.turn number) with
  | recoverSession generation =>
    rw [event] at hands
    obtain ⟨task, found, _⟩ := allowed
    obtain ⟨mem, rfl⟩ := task?_spec found
    have is : task.work = .recovery generation := by
      apply Work.of_event_recoverSession (w := t.state)
      rwa [Timeline.event, work?, found] at event
    have proceeds : t.state.run t.now task.work =
        World.proceed t.now [] t.state (t.state.client.recoverSession generation) := by
      rw [is]
      rfl
    obtain ⟨attends, core⟩ := fire_attends sound.numbered mem proceeds
    rw [← act_turn found] at attends core
    exact ⟨t.client, .lostCall, generation, rfl, hands, attends, core⟩
  | resume stage signal =>
    obtain ⟨due, pending, found, is⟩ := of_event_resume event
    obtain ⟨c, finished, attends, core⟩ := turn_operation sound.numbered found
    rw [← is] at attends core
    rw [event] at hands
    cases stage with
    | subscribing p failed =>
      cases p with
      | recovering h => cases hands
      | opening generation =>
        cases signal with
        | returned id => cases hands
        | panicked detail => cases hands
        | failed fault =>
          simp only [Event.handsOver, Bool.and_eq_true, decide_eq_true_eq] at hands
          obtain ⟨⟨network, last⟩, loses⟩ := hands
          obtain ⟨b, same, lost⟩ := Client.subscribed_lost network last c
          rw [Client.resume, lost] at attends core
          exact ⟨b, .opening, generation, same.trans finished, loses, attends, core⟩
    | pausing | releasing | scheduled | dropping | closing => cases hands
  | openSession | closeSession | serve =>
    rw [event] at hands
    cases hands

/-- A hand-off that begins with its budget in full has made no attempt yet. -/
theorem handsOver_tried (sound : Sound t) (limits : t.client.limit = limit)
    (allowed : t.Allows e (.turn number))
    (hands : (t.event (.turn number)).handsOver t.client = true)
    (full : t.client.budget.attempts = 0) : (t.act (.turn number)).Tried limit number [] := by
  obtain ⟨b, starter, generation, same, loses, attends, core⟩ :=
    turn_handsOver sound allowed hands
  obtain ⟨config, _, session, _, budget, _⟩ := Client.core_eq_iff.mp same
  have current := (Client.loses_iff.mp loses).1
  obtain ⟨d, handed, after⟩ := Client.handOff_begins
    (c := b) ((congrArg Session.generation session).trans current) starter
  have loses : b.loses generation = true := by
    rw [Client.loses, session]
    exact loses
  have empty : b.budget.attempts = 0 := by rw [budget, full]
  have most : b.limit = limit := by rw [Client.limit, config]; exact limits
  rcases handed.starts loses with ⟨h, duration, waits, own, attempts, left⟩ | ⟨ended, spent⟩
  · rw [waits] at attends
    obtain ⟨due, pending, found⟩ := attends
    obtain ⟨_, _, _, _, budget', _⟩ := Client.core_eq_iff.mp (core.trans after)
    have lasts := handsOver_lasts allowed sound hands
    refine .trying h _ found rfl (own.trans (current.symm.trans lasts.symm)) (by simp) ?_ ?_
    · rw [budget', attempts, empty]
      rfl
    · rw [List.length_nil]
      omega
  · rw [ended, empty] at attends
    obtain rfl : limit = 0 := by omega
    exact .ended attends (.exhausts [] (by simp) rfl)

/-- The generation whose hand-off ends with this action because its budget is spent, if one does. -/
def exhaustion (t : Timeline π) : Action π → List Nat
  | .turn number =>
    if (t.act (.turn number)).ended.any fun entry =>
        entry.id = number && entry.result.failure?.any (·.isReconnection)
    then [t.client.session.generation] else []
  | _ => []

/-- The generations whose hand-offs have spent their budgets. -/
def exhaustions (t : Timeline π) (actions : List (Action π)) : List Nat :=
  recorded act exhaustion actions t

theorem exhaustion_of_gone {n : Nat}
    (gone : (t.act (.turn number)).Gone number (.finished (.error (.reconnection n)))) :
    t.exhaustion (.turn number) = [t.client.session.generation] := by
  obtain ⟨entry, mem, rfl, told⟩ := gone.told
  refine if_pos (List.any_eq_true.mpr ⟨entry, mem, ?_⟩)
  simp [told, Reply.failure?, Failure.isReconnection, Failure.kind]

/-- A hand-off whose last attempt spends the budget tells so. -/
theorem exhaustion_of_spent {s : Stage} {h : Handoff} {due : Option Nat}
    {pending : Pending π s.Signal} (sound : Sound t)
    (found : t.task? number = some ⟨number, due, .operation s pending⟩)
    (wants : s.purpose? = some (.recovering h))
    (own : h.generation = t.client.session.generation)
    (attempts : (t.act (.turn number)).client.budget.attempts = t.client.budget.attempts + 1)
    (spent : t.client.limit ≤ t.client.budget.attempts + 1) :
    t.exhaustion (.turn number) = [t.client.session.generation] := by
  rcases turn_recovering sound found wants own with ⟨_, _, budget, _⟩ | ⟨progress, tries, attends⟩
  · rw [budget] at attempts
    omega
  · generalize (t.event (.turn number)).outcome? = ending at tries
    cases tries with
    | goesOn s' budget wants' =>
      rw [budget] at attempts
      omega
    | @ends b _ _ _ _ counted config attempt budget =>
      rw [budget] at attempts
      cases attempt with
      | succeeds | aborts => simp at attempts
      | exhausted => exact exhaustion_of_gone attends
      | retries _ duration network left =>
        have limit : b.config.reconnection.maxAttempts = t.client.limit := by
          rw [config, Client.limit]
        have same : b.budget.attempts = t.client.budget.attempts := by rw [counted]
        omega

/-- The accounts of a run: nobody overspends the budget, a session whose guard is down has it in
full or has spent it, and those who have been told that it is spent have been told so rightly. -/
structure Accounted (limit : Nat) (past : List Nat) (t : Timeline π) : Prop where
  limits : t.client.limit = limit
  budgeted : Budgeted t.client t.stages
  full : t.client.guards = 0 →
    t.client.budget.attempts = 0 ∨ t.client.session.generation ∈ past
  told : ∀ entry ∈ t.ended, ∀ n, entry.result.failure? = some (.reconnection n) → n = limit

theorem act_budgeted (allowed : t.Allows e a) (sound : Sound t)
    (budgeted : Budgeted t.client t.stages) :
    Budgeted (t.act a).client (t.act a).stages := by
  obtain ⟨new, rest, before, after, course⟩ := act_course allowed sound
  exact (course.budgeted (sound.aligned.perm before) (budgeted.perm before)).perm after.symm

/-- A hand-off that spends the budget tells so. -/
theorem act_full (allowed : t.Allows e a) (sound : Sound t) (budgeted : Budgeted t.client t.stages)
    (full : t.client.guards = 0 →
      t.client.budget.attempts = 0 ∨ t.client.session.generation ∈ past)
    (down : (t.act a).client.guards = 0) : (t.act a).client.budget.attempts = 0 ∨
      (t.act a).client.session.generation ∈ past ++ t.exhaustion a := by
  obtain ⟨new, rest, before, after, course⟩ := act_course allowed sound
  by_cases closes : t.event a = .closeSession
  · rw [closes] at course
    cases course with
    | closes reset =>
      exact Or.inl (congrArg Budget.attempts (Client.core_eq_iff.mp reset).2.2.2.2.1)
  · have generation := course.generation.resolve_right fun closed => closes closed.1
    have single := (budgeted.perm before).single
    rw [Client.handoffs_append] at single
    cases course.spends closes with
    | nothing attempts guards =>
      rw [attempts, generation]
      exact (full (guards ▸ down)).imp_right (List.mem_append_left _)
    | begins attempts _ up => omega
    | retries attempts own guards => omega
    | settles attempts => exact Or.inl attempts
    | exhausts attempts own _ _ spent =>
      right
      obtain ⟨s, h, waits, wants, mine⟩ := Client.of_handoffs own
      obtain ⟨number, due, pending, rfl, found⟩ := of_event_stage? waits
      rw [exhaustion_of_spent sound found wants mine attempts spent, generation]
      exact List.mem_append_right _ List.mem_cons_self

/-- A reply that an action brings tells of the budget as it is. -/
theorem act_told (allowed : t.Allows e a) (sound : Sound t) (budgeted : Budgeted t.client t.stages)
    (limits : t.client.limit = limit)
    (told : ∀ entry ∈ t.ended, ∀ n, entry.result.failure? = some (.reconnection n) → n = limit) :
    ∀ entry ∈ (t.act a).ended, ∀ n, entry.result.failure? = some (.reconnection n) → n = limit := by
  cases a with
  | pass | ask | cancel | listen | unlisten | publish | adjust => exact told
  | turn number =>
    obtain ⟨task, found, _⟩ := allowed
    obtain ⟨inside, _⟩ := task?_spec found
    intro entry mem n tells
    rw [act_turn found, Schedule.Timeline.ended_fire] at mem
    have next : (rules.resume t.now task t.state).next = (t.state.run t.now task.work).next := rfl
    rw [next] at mem
    cases ended : (t.state.run t.now task.work).next with
    | wait due work =>
      rw [ended] at mem
      exact told entry mem n tells
    | ended reply =>
      rw [ended] at mem
      rcases List.mem_cons.mp mem with rfl | old
      · refine (run_told sound.aligned budgeted ?_ ended tells).trans limits
        intro s waits
        exact List.mem_filterMap.mpr ⟨task.work, List.mem_map_of_mem inside, waits⟩
      · exact told entry old n tells

theorem act_accounted (allowed : t.Allows e a) (sound : Sound t)
    (accounted : t.Accounted limit past) :
    (t.act a).Accounted limit (past ++ t.exhaustion a) := by
  obtain ⟨limits, budgeted, full, told⟩ := accounted
  obtain ⟨_, _, _, _, course⟩ := act_course allowed sound
  have config : (t.act a).client.limit = t.client.limit := by
    rw [Client.limit, course.config, Client.limit]
  exact ⟨config.trans limits, act_budgeted allowed sound budgeted,
    act_full allowed sound budgeted full, act_told allowed sound budgeted limits told⟩

theorem Runs.accounted (run : Runs e s actions t) (sound : Sound s)
    (accounted : s.Accounted limit past) : t.Accounted limit (past ++ s.exhaustions actions) :=
  run.carries exhaustion (P := Accounted limit) sound accounted
    fun _ _ _ allowed sound before => act_accounted allowed sound before

/-- While a session lasts, its hand-off goes on as it should. -/
theorem Runs.tried {outcomes : List (Except Failure Unit)} (run : Runs e t more u) (sound : Sound t)
    (accounted : t.Accounted limit past)
    (lasts : u.client.session.generation = t.client.session.generation)
    (tried : t.Tried limit number outcomes) :
    u.Tried limit number (outcomes ++ t.outcomes number more) := by
  have carried := run.carries_within (outcome number) sound lasts
    (P := fun outcomes u => (∃ past, Accounted limit past u) ∧ u.Tried limit number outcomes)
    ⟨⟨past, accounted⟩, tried⟩ ?_
  · exact carried.2
  · rintro outcomes u a allowed sound lasts ⟨⟨past, accounted⟩, tried⟩
    exact ⟨⟨_, act_accounted allowed sound accounted⟩,
      act_tried sound accounted.budgeted accounted.limits allowed lasts tried⟩

variable {config : Config} {factors : Nat → Binary64} {provider : π} {suffixes : Nat → Suffix}

omit [Provider π] in
theorem accounted_fresh : (fresh config factors provider suffixes).Accounted
    config.reconnection.maxAttempts [] := by
  refine ⟨rfl, ⟨Nat.le_refl 0, Nat.zero_le _, ?_⟩, fun _ => Or.inl rfl, ?_⟩
  · rintro ⟨⟩
  · rintro entry ⟨⟩

/-- In every run, for every limit and every provider, no more attempts are counted than the limit.
A hand-off begins with the count at zero unless one of its generation has spent the budget, whatever
hand-offs of closed sessions are under way. One that begins with it at zero goes on while its
session lasts until an attempt succeeds, or fails for another reason than the network, or as many
attempts as the limit have failed (or the provider panics in one). No guard goes up but for such a
hand-off. And whoever is told that the budget is spent is told of as many attempts as the
limit. -/
theorem reconnection_budget (run : Runs e (fresh config factors provider suffixes) actions t) :
    t.client.budget.attempts ≤ config.reconnection.maxAttempts ∧
    (∀ number, t.Allows e (.turn number) →
      (t.event (.turn number)).handsOver t.client = true →
      (t.client.budget.attempts = 0 ∨ t.client.session.generation ∈
        (fresh config factors provider suffixes).exhaustions actions) ∧
      (t.client.budget.attempts = 0 → ∀ more u, Runs e (t.act (.turn number)) more u →
        u.client.session.generation = t.client.session.generation →
        u.Tried config.reconnection.maxAttempts number
          ((t.act (.turn number)).outcomes number more))) ∧
    (∀ a, t.Allows e a → t.client.guards < (t.act a).client.guards →
      ∃ number, a = .turn number ∧ (t.event a).handsOver t.client = true) ∧
    (∀ entry ∈ t.ended, ∀ n, entry.result.failure? = some (.reconnection n) →
      n = config.reconnection.maxAttempts) := by
  have fresh_sound := sound_fresh config factors provider suffixes
  have sound := run.reachable.sound fresh_sound
  have accounted := run.accounted fresh_sound accounted_fresh
  rw [List.nil_append] at accounted
  refine ⟨accounted.limits ▸ accounted.budgeted.bounded, ?_,
    fun a allowed => act_guards allowed sound, accounted.told⟩
  intro number allowed hands
  have generation := handsOver_lasts allowed sound hands
  constructor
  · have loses := Event.loses_of_handsOver hands
    exact accounted.full (Client.guards_down rfl (Client.loses_iff.mp loses).2.1)
  · intro full more u after lasts
    have begun := handsOver_tried sound accounted.limits allowed hands full
    exact after.tried ((step_act allowed).sound sound) (act_accounted allowed sound accounted)
      (lasts.trans generation.symm) begun

/-- A session that has lost a call and is about to be handed to reconnection by task 3. -/
def bereft : Timeline Simulated :=
  (trial 2 (.trial {})).replay (fun _ _ => true) [
    .ask .openSession, .turns 9,
    .behave { submitTransportFailure := true, subscribeFailure := .always },
    .ask (.request (.plain "lost")), .turns 4]

/-- The same session when both attempts have failed. -/
def overdrawn : Timeline Simulated :=
  (bereft.act (.turn 3)).replay (fun _ _ => true) ([
    .pass 100, .turns 9, .pass 1000, .turns 9, .pass 2000, .turns 9,
    .pass 100, .turns 9, .pass 1000, .turns 9, .pass 2000, .turns 9] : List (Cue Simulated.Adjusts))

theorem reconnection_budget_overdrawn :
    overdrawn.client.session.lifecycle = .failed ∧
    ∃ more,
      Runs (.limited Simulated.Adjusts fun _ _ => true) (bereft.act (.turn 3)) more overdrawn ∧
      overdrawn.Tried 2 3 ((bereft.act (.turn 3)).outcomes 3 more) := by
  have before : Reachable (.limited Simulated.Adjusts fun _ _ => true) (trial 2 (.trial {}))
      bereft := reachable_replay _ _
  have numbered := before.numbered (numbered_fresh _ _ _ _)
  obtain ⟨actions, run⟩ := before.runs (numbered_fresh _ _ _ _)
  have due : (bereft.task? 3).any (bereft.isReady rules) = true := by decide +kernel
  obtain ⟨task, found, ready⟩ := Option.any_eq_true _ _ |>.mp due
  have allowed : bereft.Allows (.limited Simulated.Adjusts fun _ _ => true) (.turn 3) :=
    ⟨task, found, ready, rfl⟩
  have onwards : Reachable (.limited Simulated.Adjusts fun _ _ => true) (bereft.act (.turn 3))
      overdrawn := reachable_replay _ _
  obtain ⟨more, after⟩ := onwards.runs ((step_act allowed).numbered numbered)
  have hands : (bereft.event (.turn 3)).handsOver bereft.client = true := by decide +kernel
  have full : bereft.client.budget.attempts = 0 := by decide +kernel
  have failed : overdrawn.client.session.lifecycle = .failed := by decide +kernel
  exact ⟨failed, more, after, ((reconnection_budget run).2.1 3 allowed hands).2 full more overdrawn
    after (by decide +kernel)⟩

end World.Timeline

end RandomBeacon
