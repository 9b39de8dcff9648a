import RandomBeacon.Proofs.Client.Resume

/-!
The attempts of a hand-off. An attempt may take several stages; it ends with the last subscribe call
that it makes (`Stage.outcome?`), and then the hand-off goes on as `Attempt` says
(`resume_recovering`).
-/

namespace RandomBeacon

/-- How the attempt of a hand-off has ended, if it ends with this stage. A subscribe call that fails
for the network is made again, up to a limit. -/
def Stage.outcome? : (s : Stage) → s.Signal → Option (Except Failure Unit)
  | subscribing (.recovering _) _, .returned _ => some (.ok ())
  | subscribing (.recovering _) failed, .failed fault =>
    if (Failure.ofSubscribeFault fault).isNetwork ∧ failed + 1 < Client.subscribeLimit then none
    else some (.error (.ofSubscribeFault fault))
  | _, _ => none

/-- A call that has panicked tells nothing of the attempt. -/
theorem Stage.outcome?_panicked {s : Stage} {signal : s.Signal}
    (panics : s.panicked signal = true) : s.outcome? signal = none := by
  cases s with
  | subscribing p failed =>
    cases signal with
    | panicked detail => cases p <;> rfl
    | returned | failed => cases panics
  | pausing | releasing | scheduled | dropping | closing => rfl

namespace Client

/-- Whether the session of `generation` would be handed to reconnection. -/
def loses (generation : Nat) (c : Client) : Bool :=
  c.session.generation = generation ∧ c.session.reconnecting ≠ some generation ∧
    (c.session.lifecycle = .ready ∨ c.session.lifecycle = .initializing)

theorem loses_iff {generation : Nat} {c : Client} : c.loses generation = true ↔
    c.session.generation = generation ∧ c.session.reconnecting ≠ some generation ∧
      (c.session.lifecycle = .ready ∨ c.session.lifecycle = .initializing) := by
  simp [loses]

variable {c d : Client} {h : Handoff}

/-- What a turn makes of a hand-off of the session at hand: its attempt goes on, or ends like this,
and the hand-off with it or not. -/
inductive Tries (c : Client) (h : Handoff) :
    Option (Except Failure Unit) → Client → Progress → Prop
  | goesOn {d : Client} (s : Stage) (budget : d.budget = c.budget)
      (wants : s.purpose? = some (.recovering h)) : Tries c h none d (.wait s)
  | ends {b b' d : Client} {outcome : Except Failure Unit} {progress : Progress}
      (counted : b.budget = c.budget) (config : b.config = c.config)
      (attempt : b.Attempt h outcome b' progress) (budget : d.budget = b'.budget) :
      Tries c h (some outcome) d progress

/-- Only the budget matters of what a turn leaves, and with it the limit of what it finds. -/
theorem Tries.congr {b e : Client} {ending : Option (Except Failure Unit)} {progress : Progress}
    (tries : b.Tries h ending d progress) (before : b.core = c.core) (after : e.core = d.core) :
    c.Tries h ending e progress := by
  obtain ⟨config, _, _, _, budget, _⟩ := core_eq_iff.mp before
  have last : e.budget = d.budget := (core_eq_iff.mp after).2.2.2.2.1
  cases tries with
  | goesOn s same wants => exact .goesOn s (last.trans (same.trans budget)) wants
  | ends counted limits attempt spends =>
    exact .ends (counted.trans budget) (limits.trans config) attempt (last.trans spends)

/-- A subscribe call of a hand-off that fails leaves a pause or ends the attempt. -/
theorem subscribed_recovering (current : c.Current (.recovering h)) (failed : Nat) (fault : Fault) :
    c.Tries h (Stage.outcome? (.subscribing (.recovering h) failed) (.failed fault))
      (c.subscribed (.recovering h) failed (.failed fault)).1
      (c.subscribed (.recovering h) failed (.failed fault)).2 := by
  have other := ofSubscribeFault_isReconnection fault
  simp only [subscribed, Stage.outcome?]
  by_cases network : (Failure.ofSubscribeFault fault).isNetwork = true
  · by_cases more : failed + 1 < subscribeLimit
    · simp only [network, more, and_self, if_true]
      exact .goesOn _ rfl rfl
    · simp only [network, more, and_false, if_true, if_false]
      have noted := note_core c (.subscriptionFailed (failed + 1) subscribeLimit
        (Failure.ofSubscribeFault fault))
      obtain ⟨d, attempt, core⟩ := attempted_error (current.congr noted.symm) other
      exact (Tries.ends rfl rfl attempt rfl).congr noted core
  · simp only [network, false_and, if_false, Bool.false_eq_true]
    obtain ⟨d, attempt, core⟩ := attempted_error current other
    exact (Tries.ends rfl rfl attempt rfl).congr rfl core

/-- A subscribe call of a hand-off that returns ends the attempt. -/
theorem committed_recovering (current : c.Current (.recovering h)) (failed : Nat)
    (id : SubscriptionId) :
    c.Tries h (some (.ok ())) (c.subscribed (.recovering h) failed (.returned id)).1
      (c.subscribed (.recovering h) failed (.returned id)).2 := by
  have generation : c.session.generation = h.generation := current.generation
  let b := (c.note (.subscribed id (failed + 1))).install id
  have budget : b.budget = c.budget := install_budget id _
  have config : b.config = c.config := install_config id _
  have installed : b.Current (.recovering h) := by
    refine ⟨?_, by rw [budget]; exact current.epoch⟩
    have same : b.session.generation = c.session.generation := by simp [b]
    exact same.trans generation
  have committed : c.subscribed (.recovering h) failed (.returned id) =
      b.attempted h (.ok ()) := by
    have mine : (c.note (.subscribed id (failed + 1))).session.generation =
      (Purpose.recovering h).generation := generation
    simp only [subscribed, commit, if_pos mine, b]
  have ready : b.session.lifecycle = .ready := by simp [b]
  obtain ⟨core, ended⟩ := attempted_ok installed ready
  rw [committed, ended]
  exact (Tries.ends budget config .succeeds rfl).congr rfl core

/-- A turn of a hand-off of the session at hand goes on with its attempt or ends it. -/
theorem resume_recovering {s : Stage} (wants : s.purpose? = some (.recovering h))
    (current : c.Current (.recovering h)) (timely : ∀ id, s ≠ .releasing (.recovering h) id)
    (signal : s.Signal) (calm : s.panicked signal = false) :
    c.Tries h (s.outcome? signal) (c.resume s signal).1 (c.resume s signal).2 := by
  have counted {b d : Client} (same : b.core = d.core) : b.budget = d.budget :=
    (core_eq_iff.mp same).2.2.2.2.1
  cases s with
  | closing id => cases wants
  | releasing q id =>
    obtain rfl := Option.some.inj wants
    exact absurd rfl (timely id)
  | pausing q failed =>
    obtain rfl := Option.some.inj wants
    rw [resume, beginSubscribing_current current]
    exact .goesOn _ rfl rfl
  | scheduled g duration =>
    obtain rfl : g = h := Purpose.recovering.inj (Option.some.inj wants)
    obtain ⟨d, advance, core⟩ := elapsed_advance current duration
    have budget := counted core
    simp only [resume]
    generalize c.elapsed g = step at advance budget ⊢
    obtain ⟨after, progress⟩ := step
    cases advance with
    | takes | asksAtOnce => exact .goesOn _ budget rfl
  | dropping g id =>
    obtain rfl : g = h := Purpose.recovering.inj (Option.some.inj wants)
    obtain ⟨d, advance, core⟩ := dropped_advance current id signal calm
    have budget := counted core
    have ending : Stage.outcome? (.dropping g id) signal = none := rfl
    simp only [resume]
    rw [ending]
    generalize c.dropped g id signal = step at advance budget ⊢
    obtain ⟨after, progress⟩ := step
    cases advance with
    | asksAnew => exact .goesOn _ budget rfl
  | subscribing q failed =>
    obtain rfl := Option.some.inj wants
    cases signal with
    | panicked detail => cases calm
    | failed fault => exact subscribed_recovering current failed fault
    | returned id => exact committed_recovering current failed id

/-- An opening that may make no more subscribe calls hands its session to reconnection. -/
theorem subscribed_lost {generation failed : Nat} {fault : Fault}
    (network : (Failure.ofSubscribeFault fault).isNetwork = true)
    (last : subscribeLimit ≤ failed + 1) (c : Client) :
    ∃ b : Client, b.core = c.core ∧
      c.subscribed (.opening generation) failed (.failed fault) =
        b.handOff .opening generation := by
  have no_more : ¬failed + 1 < subscribeLimit := Nat.not_lt_of_le last
  simp only [subscribed, subscribeFailed, network, no_more, if_true, if_false]
  exact ⟨(c.note (.subscriptionFailed (failed + 1) subscribeLimit (.ofSubscribeFault fault))).note
    (.initialSubscriptionFailed (.ofSubscribeFault fault)), rfl, rfl⟩

section Told

variable {n : Nat}

/-- A hand-off that tells at once that the budget is spent tells how many attempts were made. -/
theorem HandOff.told {generation : Nat} {starter : Starter}
    (handed : c.HandOff generation starter d (.ended (.error (.reconnection n)))) :
    n = c.budget.attempts ∧ c.config.reconnection.maxAttempts ≤ c.budget.attempts := by
  cases handed with
  | joins up result ordinary => exact absurd rfl (ordinary n)
  | skips starter e down idle ordinary => exact absurd rfl (ordinary n)
  | spent starter e down connected spent tells => exact ⟨Failure.reconnection.inj tells, spent⟩

/-- An operation that tells that the budget is spent tells how many attempts were made, the one that
has just failed among them. -/
theorem Advance.told {s : Stage} {received : Option SubscriptionId}
    (advance : c.Advance s received d (.ended (.error (.reconnection n)))) :
    (n = c.budget.attempts ∧ c.config.reconnection.maxAttempts ≤ c.budget.attempts) ∨
    (n = c.budget.attempts + 1 ∧ c.config.reconnection.maxAttempts ≤ c.budget.attempts + 1 ∧
      ∃ h, s.purpose? = some (.recovering h)) := by
  cases advance with
  | refused generation failed e ordinary => exact absurd rfl (ordinary n)
  | aborts h failed e ordinary => exact absurd rfl (ordinary n)
  | handsOff generation failed handed => exact Or.inl handed.told
  | exhausted h failed e spent tells =>
    exact Or.inr ⟨Failure.reconnection.inj tells, spent, h, rfl⟩

theorem Fades.told {p : Purpose} {received : Option SubscriptionId} :
    ¬Fades p received (.ended (.error (.reconnection n))) := by
  intro fade
  cases fade with
  | ends result ordinary => exact ordinary n rfl

end Told

end Client

end RandomBeacon
