import RandomBeacon.Proofs.Client.Advance

/-!
No operation of the session at hand goes on in another way than `Advance` says (`resume_advance`),
and a session is handed to reconnection in no other way than `HandOff` says (`handOff_begins`).
-/

namespace RandomBeacon

namespace Client

/-- The registry after `install`: a new dispatch handler stands in the place of the old one. -/
def reinstalled (c : Client) : Registry Listener :=
  (c.session.dispatch.elim c.registry c.registry.unsubscribe).subscribe
    .randomnessPublished .dispatch

theorem unsubscribeListener_frame (number : Nat) (c : Client) :
    (c.unsubscribeListener number).2.core =
      { c with registry := c.registry.unsubscribe number }.core := by
  unfold unsubscribeListener
  split
  · rfl
  · rename_i absent
    have kept : c.registry.unsubscribe number = c.registry := by
      have entries : c.registry.entries.filter (·.number ≠ number) = c.registry.entries := by
        apply List.filter_eq_self.mpr
        intro entry mem
        have : entry.number ≠ number := by
          intro h
          exact absent (List.any_eq_true.mpr ⟨entry, mem, by simp [h]⟩)
        simpa using this
      rw [Registry.unsubscribe, entries]
    rw [kept]
    rfl

theorem install_core (id : SubscriptionId) (c : Client) :
    (c.install id).core = { c with
      session := { c.session with
        lifecycle := .ready, dispatch := some c.registry.issued, subscription := some id }
      watch := ⟨.ready, c.watch.version + 1⟩
      registry := c.reinstalled }.core := by
  unfold install reinstalled
  cases h : c.session.dispatch with
  | none => simp [core_eq_iff, subscribeListener, setLifecycle, note]
  | some old =>
    obtain ⟨config, factors, session, watch, budget, registry, callbacks⟩ :=
      core_eq_iff.mp (unsubscribeListener_frame old c)
    simp [core_eq_iff, subscribeListener, setLifecycle, note, Registry.unsubscribe, *]

@[simp] theorem install_session (id : SubscriptionId) (c : Client) :
    (c.install id).session = { c.session with
      lifecycle := .ready, dispatch := some c.registry.issued, subscription := some id } :=
  (core_eq_iff.mp (install_core id c)).2.2.1

@[simp] theorem install_watch (id : SubscriptionId) (c : Client) :
    (c.install id).watch = ⟨.ready, c.watch.version + 1⟩ :=
  (core_eq_iff.mp (install_core id c)).2.2.2.1

@[simp] theorem install_config (id : SubscriptionId) (c : Client) :
    (c.install id).config = c.config :=
  (core_eq_iff.mp (install_core id c)).1

@[simp] theorem install_budget (id : SubscriptionId) (c : Client) :
    (c.install id).budget = c.budget :=
  (core_eq_iff.mp (install_core id c)).2.2.2.2.1

theorem finishOpening_core (generation : Nat) (c : Client) :
    (c.finishOpening generation).1.core =
      (c.transition generation .initializing .uninitialized).core ∧
    ∃ result, (c.finishOpening generation).2 = .ended result ∧ Ordinary result := by
  unfold finishOpening readyGeneration
  by_cases ready : c.session.lifecycle = .ready
  · simp [ready, transition, Ordinary]
  · rw [if_neg ready]
    exact ⟨rfl, _, rfl, ordinary_of_isReconnection rfl⟩

theorem finishOpening_ready {c : Client} (ready : c.session.lifecycle = .ready) (generation : Nat) :
    (c.finishOpening generation).1.core = c.core ∧
    (c.finishOpening generation).2 = .ended (.ok ()) := by
  unfold finishOpening readyGeneration
  rw [if_pos ready]
  exact ⟨rfl, rfl⟩

theorem loopEnded_error {c : Client} {h : Handoff} (current : c.session.generation = h.generation)
    (e : Failure) :
    (c.loopEnded h (.error e)).1.core =
      (c.givenUp h.generation (if e.isReconnection then .failed else .uninitialized)).core ∧
    (c.loopEnded h (.error e)).2 = .ended (.error e) := by
  have same : (c.clearReconnecting h.generation).session.generation = h.generation := by
    unfold clearReconnecting
    split <;> exact current
  have moved (result : ReconnectionEnd) (l : Lifecycle) :
      ((c.clearReconnecting h.generation).recordReconnection result).setLifecycleIf h.generation l =
        ((c.clearReconnecting h.generation).recordReconnection result).setLifecycle l := by
    unfold setLifecycleIf
    rw [if_pos (by simpa using same)]
  simp only [loopEnded, moved]
  split
  · obtain ⟨core, ended⟩ := handedOff_error h.starter h.generation e
      ((((c.clearReconnecting h.generation).recordReconnection .exhausted).setLifecycle
        .failed).note (.budgetExhausted e))
    exact ⟨core, ended⟩
  · obtain ⟨core, ended⟩ := handedOff_error h.starter h.generation e
      (((c.clearReconnecting h.generation).recordReconnection .aborted).setLifecycle .uninitialized)
    exact ⟨core, ended⟩

theorem loopEnded_ready {c : Client} (ready : c.session.lifecycle = .ready) (h : Handoff) :
    (c.loopEnded h (.ok ())).1.core = (c.clearReconnecting h.generation).core ∧
    (c.loopEnded h (.ok ())).2 = .ended (.ok ()) := by
  have same : (((c.clearReconnecting h.generation).recordReconnection .success).note
      .recovered).session.lifecycle = .ready := by
    unfold clearReconnecting
    split <;> exact ready
  simp only [loopEnded, handedOff]
  cases h.starter with
  | lostCall => exact ⟨rfl, rfl⟩
  | opening => exact finishOpening_ready same h.generation

/-- A loop that ends without a connection gives the hand-off up. -/
theorem followLoop_error {c : Client} {h : Handoff} (current : c.session.generation = h.generation)
    (budget : Budget) (notices : List Notice) (e : Failure) :
    (c.followLoop h ⟨budget, notices, .ended (.error e)⟩).1.core =
      ({ c with budget }.givenUp h.generation
        (if e.isReconnection then .failed else .uninitialized)).core ∧
    (c.followLoop h ⟨budget, notices, .ended (.error e)⟩).2 = .ended (.error e) := by
  have same := noteAll_core { c with budget } notices
  obtain ⟨core, ended⟩ := loopEnded_error (c := { c with budget }.noteAll notices) (h := h)
    (by simpa using current) e
  exact ⟨core.trans (givenUp_congr same _ _), ended⟩

/-- A connected session waits for its first attempt to reconnect, or may make none. -/
theorem loseConnection_begins {c : Client} {generation : Nat}
    (current : c.session.generation = generation) (starter : Starter)
    (down : c.session.reconnecting ≠ some generation)
    (connected : c.session.lifecycle = .ready ∨ c.session.lifecycle = .initializing) :
    ∃ d, HandOff c generation starter d
      ((c.loseConnection generation).followLoop
        ⟨starter, generation, c.budget.epoch, c.budget.attempts⟩
        (c.budget.schedule c.pacing c.budget.epoch)).2 ∧
      ((c.loseConnection generation).followLoop
        ⟨starter, generation, c.budget.epoch, c.budget.attempts⟩
        (c.budget.schedule c.pacing c.budget.epoch)).1.core = d.core := by
  unfold Budget.schedule
  rw [if_neg (fun differs => differs rfl)]
  split
  · rename_i spent
    obtain ⟨core, ended⟩ := followLoop_error (c := c.loseConnection generation)
      (h := ⟨starter, generation, c.budget.epoch, c.budget.attempts⟩) current c.budget []
      (.reconnection c.budget.attempts)
    refine ⟨_, ?_, core⟩
    rw [ended]
    exact .spent starter _ down connected spent rfl
  · rename_i left
    exact ⟨_, .begins starter _ down connected (Nat.lt_of_not_le left), noteAll_core _ _⟩

/-- A session at hand is handed to reconnection in one of the ways of `HandOff`. -/
theorem handOff_begins {c : Client} {generation : Nat} (current : c.session.generation = generation)
    (starter : Starter) :
    ∃ d, HandOff c generation starter d (c.handOff starter generation).2 ∧
      (c.handOff starter generation).1.core = d.core := by
  unfold handOff
  rw [if_neg (fun differs => differs current)]
  by_cases up : c.session.reconnecting = some generation
  · rw [if_pos up]
    cases starter with
    | lostCall => exact ⟨c, .busy up, rfl⟩
    | opening =>
      obtain ⟨core, result, ended, ordinary⟩ :=
        finishOpening_core generation (c.note .reconnectionInProgress)
      refine ⟨c.transition generation .initializing .uninitialized, ?_,
        core.trans (transition_congr (note_core c _) generation _ _)⟩
      rw [handedOff, ended]
      exact .joins up result ordinary
  · rw [if_neg up]
    cases l : c.session.lifecycle with
    | ready => exact loseConnection_begins current starter up (Or.inl l)
    | initializing => exact loseConnection_begins current starter up (Or.inr l)
    | uninitialized | reconnecting | failed =>
      obtain ⟨core, ended⟩ := handedOff_error starter generation (.notReady c.session.lifecycle)
        (c.note (.reconnectionSkipped c.session.lifecycle))
      rw [l] at core ended
      refine ⟨c, ?_, core⟩
      rw [ended]
      exact .skips starter _ up (by simp [l]) (ordinary_of_isReconnection rfl)

/-- How the loop at hand goes on after an attempt: it goes on while attempts fail for the network
and the budget lasts. -/
inductive Attempt (c : Client) (h : Handoff) : Except Failure Unit → Client → Progress → Prop
  | succeeds :
      Attempt c h (.ok ()) ((c.withAttempts 0).clearReconnecting h.generation) (.ended (.ok ()))
  | retries (e : Failure) (duration : Nat) (network : e.isNetwork = true)
      (left : c.budget.attempts + 1 < c.config.reconnection.maxAttempts) :
      Attempt c h (.error e) (c.withAttempts (c.budget.attempts + 1)).delayed
        (.wait (.scheduled { h with attempt := c.budget.attempts + 1 } duration))
  | exhausted (e : Failure) (network : e.isNetwork = true)
      (spent : c.config.reconnection.maxAttempts ≤ c.budget.attempts + 1) :
      Attempt c h (.error e)
        ((c.withAttempts (c.budget.attempts + 1)).givenUp h.generation .failed)
        (.ended (.error (.reconnection (c.budget.attempts + 1))))
  | aborts (e : Failure) (other : e.isNetwork = false) :
      Attempt c h (.error e) ((c.withAttempts 0).givenUp h.generation .uninitialized)
        (.ended (.error e))

/-- An attempt of the loop at hand has failed. -/
theorem attempted_error {c : Client} {h : Handoff} (current : c.Current (.recovering h))
    {e : Failure} (other : e.isReconnection = false) :
    ∃ d, Attempt c h (.error e) d (c.attempted h (.error e)).2 ∧
      (c.attempted h (.error e)).1.core = d.core := by
  have generation : c.session.generation = h.generation := current.generation
  have epoch : c.budget.epoch = h.epoch := current.epoch h rfl
  unfold attempted Budget.settle
  rw [if_neg (fun differs => differs epoch)]
  by_cases network : e.isNetwork = true
  · simp only [network, if_true]
    by_cases spent : c.config.reconnection.maxAttempts ≤ c.budget.attempts + 1
    · have turn : c.pacing.config.maxAttempts ≤ c.budget.attempts + 1 := spent
      rw [if_pos turn]
      obtain ⟨core, ended⟩ := followLoop_error generation
        { c.budget with attempts := c.budget.attempts + 1 }
        [.attemptFailed (c.budget.attempts + 1) c.pacing.config.maxAttempts e]
        (.reconnection (c.budget.attempts + 1))
      refine ⟨_, ?_, core⟩
      rw [ended]
      exact .exhausted e network spent
    · have turn : ¬c.pacing.config.maxAttempts ≤ c.budget.attempts + 1 := spent
      rw [if_neg turn]
      unfold Budget.schedule
      rw [if_neg (fun differs => differs epoch), if_neg turn]
      exact ⟨_, .retries e _ network (Nat.lt_of_not_le spent), noteAll_core _ _⟩
  · simp only [network, if_false, Bool.false_eq_true]
    obtain ⟨core, ended⟩ := followLoop_error generation { c.budget with attempts := 0 }
      [.attemptAborted e] e
    rw [other] at core
    refine ⟨_, ?_, core⟩
    rw [ended]
    exact .aborts e (Bool.not_eq_true _ ▸ network)

/-- The loop at hand has connected. -/
theorem attempted_ok {c : Client} {h : Handoff} (current : c.Current (.recovering h))
    (ready : c.session.lifecycle = .ready) :
    (c.attempted h (.ok ())).1.core = ((c.withAttempts 0).clearReconnecting h.generation).core ∧
    (c.attempted h (.ok ())).2 = .ended (.ok ()) := by
  unfold attempted Budget.settle
  rw [if_neg (fun differs => differs (current.epoch h rfl))]
  obtain ⟨core, ended⟩ := loopEnded_ready
    (c := (c.withAttempts 0).noteAll [.reconnected (h.attempt + 1)]) ready h
  exact ⟨core.trans (clearReconnecting_congr (noteAll_core _ _) h.generation), ended⟩

/-- The end of a failed attempt is an end of the subscribe call that it has made last. -/
theorem Attempt.advance {c d : Client} {h : Handoff} {e : Failure} {progress : Progress}
    (attempt : Attempt c h (.error e) d progress) (other : e.isReconnection = false)
    (failed : Nat) : Advance c (.subscribing (.recovering h) failed) none d progress := by
  cases attempt with
  | retries _ duration network left => exact .retries h failed duration left
  | exhausted _ network spent => exact .exhausted h failed _ spent rfl
  | aborts _ abort => exact .aborts h failed e (ordinary_of_isReconnection other)

theorem subscribeFailed_advance {c : Client} {p : Purpose} (current : c.Current p) {e : Failure}
    (other : e.isReconnection = false) (failed : Nat) :
    ∃ d, Advance c (.subscribing p failed) none d (c.subscribeFailed p e).2 ∧
      (c.subscribeFailed p e).1.core = d.core := by
  cases p with
  | recovering h =>
    obtain ⟨d, attempt, core⟩ := attempted_error current other
    exact ⟨d, attempt.advance other failed, core⟩
  | opening generation =>
    have same : c.session.generation = generation := current.generation
    simp only [subscribeFailed]
    split
    · obtain ⟨d, handed, core⟩ := handOff_begins (c := c.note (.initialSubscriptionFailed e)) same
        .opening
      obtain ⟨d', handed', core'⟩ := handed.congr (note_core c _)
      exact ⟨d', .handsOff generation failed handed', core.trans core'⟩
    · refine ⟨_, .refused generation failed e (ordinary_of_isReconnection other), ?_⟩
      simp only [setLifecycleIf, same, if_true]
      rfl

theorem beginSubscribing_current {c : Client} {p : Purpose} (current : c.Current p) (failed : Nat) :
    c.beginSubscribing p failed = (c, .wait (.subscribing p failed)) := by
  unfold beginSubscribing
  rw [if_pos current.generation]

theorem commit_advance {c : Client} {p : Purpose} (current : c.Current p) (failed : Nat)
    (id : SubscriptionId) :
    ∃ d, Advance c (.subscribing p failed) (some id) d (c.commit p id).2 ∧
      (c.commit p id).1.core = d.core := by
  unfold commit
  rw [if_pos current.generation]
  cases p with
  | opening generation =>
    obtain ⟨core, ended⟩ := finishOpening_ready (c := c.install id) rfl generation
    refine ⟨_, ?_, core⟩
    rw [ended]
    exact .opens generation failed id
  | recovering h =>
    have installed : (c.install id).Current (.recovering h) :=
      ⟨by simpa using current.generation, by simpa using current.epoch⟩
    obtain ⟨core, ended⟩ := attempted_ok installed rfl
    refine ⟨_, ?_, core⟩
    rw [ended]
    exact .recovers h failed id

theorem subscribed_advance {c : Client} {p : Purpose} (current : c.Current p) (failed : Nat)
    (outcome : Outcome SubscriptionId)
    (calm : Stage.panicked (.subscribing p failed) outcome = false) :
    ∃ d, Advance c (.subscribing p failed) (Stage.received? (.subscribing p failed) outcome) d
        (c.subscribed p failed outcome).2 ∧
      (c.subscribed p failed outcome).1.core = d.core := by
  cases outcome with
  | panicked detail => cases calm
  | returned id =>
    have noted := note_core c (.subscribed id (failed + 1))
    obtain ⟨d, advance, core⟩ := commit_advance (current.congr noted.symm) failed id
    obtain ⟨d', advance', core'⟩ := advance.congr noted
    exact ⟨d', advance', core.trans core'⟩
  | failed fault =>
    have other := ofSubscribeFault_isReconnection fault
    simp only [subscribed]
    split
    · split
      · exact ⟨c, .pauses p failed, rfl⟩
      · have noted := note_core c (.subscriptionFailed (failed + 1) subscribeLimit
          (Failure.ofSubscribeFault fault))
        obtain ⟨d, advance, core⟩ := subscribeFailed_advance (current.congr noted.symm) other failed
        obtain ⟨d', advance', core'⟩ := advance.congr noted
        exact ⟨d', advance', core.trans core'⟩
    · exact subscribeFailed_advance current other failed

theorem resubscribe_advance {c : Client} {h : Handoff} (current : c.Current (.recovering h))
    (duration : Nat) :
    ∃ d, Advance c (.scheduled h duration) none d (c.resubscribe h).2 ∧
      (c.resubscribe h).1.core = d.core := by
  have generation : c.session.generation = h.generation := current.generation
  unfold resubscribe
  rw [if_neg (fun differs => differs generation)]
  cases owned : c.session.subscription with
  | some id => exact ⟨_, .takes h duration id owned, rfl⟩
  | none =>
    simp only [beginSubscribing_current current]
    exact ⟨c, .asksAtOnce h duration owned, rfl⟩

theorem elapsed_advance {c : Client} {h : Handoff} (current : c.Current (.recovering h))
    (duration : Nat) :
    ∃ d, Advance c (.scheduled h duration) none d (c.elapsed h).2 ∧
      (c.elapsed h).1.core = d.core := by
  unfold elapsed Budget.elapse
  rw [if_pos (current.epoch h rfl)]
  have counted :
      ({ c with metrics := c.metrics.recordReconnectAttempt } : Client).core = c.core := rfl
  obtain ⟨d, advance, core⟩ := resubscribe_advance (current.congr counted.symm) duration
  obtain ⟨d', advance', core'⟩ := advance.congr counted
  exact ⟨d', advance', core.trans core'⟩

theorem dropped_advance {c : Client} {h : Handoff} (current : c.Current (.recovering h))
    (id : SubscriptionId) (outcome : Outcome Unit)
    (calm : Stage.panicked (.dropping h id) outcome = false) :
    ∃ d, Advance c (.dropping h id) none d (c.dropped h id outcome).2 ∧
      (c.dropped h id outcome).1.core = d.core := by
  cases outcome with
  | panicked detail => cases calm
  | returned value =>
    simp only [dropped, beginSubscribing_current current]
    exact ⟨c, .asksAnew h id, rfl⟩
  | failed fault =>
    have noted := note_core c (.staleSubscriptionGone id fault)
    simp only [dropped, beginSubscribing_current (current.congr noted.symm)]
    exact ⟨c, .asksAnew h id, noted⟩

/-- An operation of the session at hand goes on in one of the ways of `Advance`. It is not giving
back a subscription that came too late: only an operation of a closed session does that. -/
theorem resume_advance {c : Client} {s : Stage} {p : Purpose} (wants : s.purpose? = some p)
    (current : c.Current p) (timely : ∀ id, s ≠ .releasing p id) (signal : s.Signal)
    (calm : s.panicked signal = false) :
    ∃ d, Advance c s (s.received? signal) d (c.resume s signal).2 ∧
      (c.resume s signal).1.core = d.core := by
  cases s with
  | subscribing q failed =>
    obtain rfl := Option.some.inj wants
    exact subscribed_advance current failed signal calm
  | pausing q failed =>
    obtain rfl := Option.some.inj wants
    rw [resume, beginSubscribing_current current]
    exact ⟨c, .asks _ failed, rfl⟩
  | releasing q id =>
    obtain rfl := Option.some.inj wants
    exact absurd rfl (timely id)
  | scheduled h duration =>
    obtain rfl := Option.some.inj wants
    exact elapsed_advance current duration
  | dropping h id =>
    obtain rfl := Option.some.inj wants
    exact dropped_advance current id signal calm
  | closing id => cases wants

end Client

end RandomBeacon
