import RandomBeacon.Proofs.Client.Core

/-!
How an operation of the session at hand goes on, one case for each way: `Advance` for its turns
between two stages, `HandOff` for the moment in which it, or a lost call, hands the session to
reconnection. An invariant of the session is an inspection of these cases. Clients with one core go
on alike.
-/

namespace RandomBeacon

namespace Client

/-- An operation of the session at hand. -/
structure Current (c : Client) (p : Purpose) : Prop where
  generation : c.session.generation = p.generation
  epoch : ∀ h, p = .recovering h → c.budget.epoch = h.epoch

def withAttempts (attempts : Nat) (c : Client) : Client :=
  { c with budget := { c.budget with attempts } }

/-- One more delay has been drawn. -/
def delayed (c : Client) : Client :=
  { c with budget := { c.budget with delays := c.budget.delays + 1 } }

/-- The session without its subscription, which is being given back. -/
def disowned (c : Client) : Client :=
  { c with session := { c.session with subscription := none } }

/-- The end of a hand-off that has not made the session ready. -/
def givenUp (generation : Nat) (l : Lifecycle) (c : Client) : Client :=
  (c.clearReconnecting generation).setLifecycle l

/-- How the session of `generation` is handed to reconnection. -/
inductive HandOff (c : Client) (generation : Nat) : Starter → Client → Progress → Prop
  | busy (up : c.session.reconnecting = some generation) :
      HandOff c generation .lostCall c (.ended (.ok ()))
  | joins (up : c.session.reconnecting = some generation) (result : Except Failure Unit)
      (ordinary : Ordinary result) :
      HandOff c generation .opening (c.transition generation .initializing .uninitialized)
        (.ended result)
  | skips (starter : Starter) (e : Failure) (down : c.session.reconnecting ≠ some generation)
      (idle : c.session.lifecycle ≠ .ready ∧ c.session.lifecycle ≠ .initializing)
      (ordinary : Ordinary (.error e)) :
      HandOff c generation starter c (.ended (.error e))
  | begins (starter : Starter) (duration : Nat)
      (down : c.session.reconnecting ≠ some generation)
      (connected : c.session.lifecycle = .ready ∨ c.session.lifecycle = .initializing)
      (left : c.budget.attempts < c.config.reconnection.maxAttempts) :
      HandOff c generation starter (c.loseConnection generation).delayed
        (.wait (.scheduled ⟨starter, generation, c.budget.epoch, c.budget.attempts⟩ duration))
  | spent (starter : Starter) (e : Failure)
      (down : c.session.reconnecting ≠ some generation)
      (connected : c.session.lifecycle = .ready ∨ c.session.lifecycle = .initializing)
      (spent : c.config.reconnection.maxAttempts ≤ c.budget.attempts)
      (tells : e = .reconnection c.budget.attempts) :
      HandOff c generation starter ((c.loseConnection generation).givenUp generation .failed)
        (.ended (.error e))

/-- How an operation goes on after a stage that has brought it this subscription, or none. -/
inductive Advance (c : Client) : Stage → Option SubscriptionId → Client → Progress → Prop
  | pauses (p : Purpose) (failed : Nat) :
      Advance c (.subscribing p failed) none c (.wait (.pausing p (failed + 1)))
  | asks (p : Purpose) (failed : Nat) :
      Advance c (.pausing p failed) none c (.wait (.subscribing p failed))
  | opens (generation failed : Nat) (id : SubscriptionId) :
      Advance c (.subscribing (.opening generation) failed) (some id) (c.install id)
        (.ended (.ok ()))
  | refused (generation failed : Nat) (e : Failure) (ordinary : Ordinary (.error e)) :
      Advance c (.subscribing (.opening generation) failed) none (c.setLifecycle .uninitialized)
        (.ended (.error e))
  | handsOff (generation failed : Nat) {d : Client} {progress : Progress}
      (handed : HandOff c generation .opening d progress) :
      Advance c (.subscribing (.opening generation) failed) none d progress
  | takes (h : Handoff) (duration : Nat) (id : SubscriptionId)
      (owned : c.session.subscription = some id) :
      Advance c (.scheduled h duration) none c.disowned (.wait (.dropping h id))
  | asksAtOnce (h : Handoff) (duration : Nat) (vacant : c.session.subscription = none) :
      Advance c (.scheduled h duration) none c (.wait (.subscribing (.recovering h) 0))
  | asksAnew (h : Handoff) (id : SubscriptionId) :
      Advance c (.dropping h id) none c (.wait (.subscribing (.recovering h) 0))
  | recovers (h : Handoff) (failed : Nat) (id : SubscriptionId) :
      Advance c (.subscribing (.recovering h) failed) (some id)
        (((c.install id).withAttempts 0).clearReconnecting h.generation) (.ended (.ok ()))
  | retries (h : Handoff) (failed duration : Nat)
      (left : c.budget.attempts + 1 < c.config.reconnection.maxAttempts) :
      Advance c (.subscribing (.recovering h) failed) none
        (c.withAttempts (c.budget.attempts + 1)).delayed
        (.wait (.scheduled { h with attempt := c.budget.attempts + 1 } duration))
  | exhausted (h : Handoff) (failed : Nat) (e : Failure)
      (spent : c.config.reconnection.maxAttempts ≤ c.budget.attempts + 1)
      (tells : e = .reconnection (c.budget.attempts + 1)) :
      Advance c (.subscribing (.recovering h) failed) none
        ((c.withAttempts (c.budget.attempts + 1)).givenUp h.generation .failed) (.ended (.error e))
  | aborts (h : Handoff) (failed : Nat) (e : Failure) (ordinary : Ordinary (.error e)) :
      Advance c (.subscribing (.recovering h) failed) none
        ((c.withAttempts 0).givenUp h.generation .uninitialized) (.ended (.error e))

section Fields

variable (c : Client) (generation attempts : Nat) (l : Lifecycle)

@[simp] theorem setLifecycle_session :
    (c.setLifecycle l).session = { c.session with lifecycle := l } := rfl

@[simp] theorem setLifecycle_budget : (c.setLifecycle l).budget = c.budget := rfl

@[simp] theorem loseConnection_session : (c.loseConnection generation).session =
    { c.session with lifecycle := .reconnecting, reconnecting := some generation } := rfl

@[simp] theorem loseConnection_budget : (c.loseConnection generation).budget = c.budget := rfl

@[simp] theorem delayed_session : c.delayed.session = c.session := rfl

@[simp] theorem delayed_budget :
    c.delayed.budget = { c.budget with delays := c.budget.delays + 1 } := rfl

@[simp] theorem withAttempts_session : (c.withAttempts attempts).session = c.session := rfl

@[simp] theorem withAttempts_budget :
    (c.withAttempts attempts).budget = { c.budget with attempts } := rfl

@[simp] theorem disowned_session :
    c.disowned.session = { c.session with subscription := none } := rfl

@[simp] theorem disowned_budget : c.disowned.budget = c.budget := rfl

@[simp] theorem clearReconnecting_session : (c.clearReconnecting generation).session =
    { c.session with reconnecting :=
        if c.session.reconnecting = some generation then none else c.session.reconnecting } := by
  unfold clearReconnecting
  split <;> rfl

@[simp] theorem clearReconnecting_budget : (c.clearReconnecting generation).budget = c.budget := by
  unfold clearReconnecting
  split <;> rfl

@[simp] theorem clearReconnecting_config : (c.clearReconnecting generation).config = c.config := by
  unfold clearReconnecting
  split <;> rfl

@[simp] theorem givenUp_session : (c.givenUp generation l).session =
    { c.session with
      lifecycle := l
      reconnecting :=
        if c.session.reconnecting = some generation then none else c.session.reconnecting } := by
  simp [givenUp]

@[simp] theorem givenUp_budget : (c.givenUp generation l).budget = c.budget := by
  simp [givenUp]

@[simp] theorem givenUp_config : (c.givenUp generation l).config = c.config :=
  clearReconnecting_config c generation

@[simp] theorem clearReconnecting_watch : (c.clearReconnecting generation).watch = c.watch := by
  unfold clearReconnecting
  split <;> rfl

@[simp] theorem givenUp_watch :
    (c.givenUp generation l).watch = ⟨l, c.watch.version + 1⟩ := by
  simp [givenUp, setLifecycle]

@[simp] theorem withAttempts_watch : (c.withAttempts attempts).watch = c.watch := rfl

@[simp] theorem transition_config (source target : Lifecycle) :
    (c.transition generation source target).config = c.config := by
  unfold transition
  split <;> rfl

@[simp] theorem transition_budget (source target : Lifecycle) :
    (c.transition generation source target).budget = c.budget := by
  unfold transition
  split <;> rfl

@[simp] theorem transition_session (source target : Lifecycle) :
    (c.transition generation source target).session = { c.session with
      lifecycle := if c.session.generation = generation ∧ c.session.lifecycle = source then target
        else c.session.lifecycle } := by
  unfold transition
  split <;> rfl

end Fields

section Congruence

variable {c d : Client} (same : c.core = d.core)
include same

theorem setLifecycle_congr (l : Lifecycle) : (c.setLifecycle l).core = (d.setLifecycle l).core := by
  obtain ⟨config, factors, session, watch, budget, registry, callbacks⟩ := core_eq_iff.mp same
  simp [core_eq_iff, setLifecycle, *]

theorem transition_congr (generation : Nat) (source target : Lifecycle) :
    (c.transition generation source target).core =
      (d.transition generation source target).core := by
  have session := (core_eq_iff.mp same).2.2.1
  simp only [transition, session]
  split
  · exact setLifecycle_congr same target
  · exact same

theorem clearReconnecting_congr (generation : Nat) :
    (c.clearReconnecting generation).core = (d.clearReconnecting generation).core := by
  obtain ⟨config, factors, session, watch, budget, registry, callbacks⟩ := core_eq_iff.mp same
  simp only [clearReconnecting, session]
  split
  · simp [core_eq_iff, *]
  · exact same

theorem givenUp_congr (generation : Nat) (l : Lifecycle) :
    (c.givenUp generation l).core = (d.givenUp generation l).core :=
  setLifecycle_congr (clearReconnecting_congr same generation) l

theorem loseConnection_congr (generation : Nat) :
    (c.loseConnection generation).core = (d.loseConnection generation).core := by
  obtain ⟨config, factors, session, watch, budget, registry, callbacks⟩ := core_eq_iff.mp same
  simp [core_eq_iff, loseConnection, setLifecycle, note, *]

theorem withAttempts_congr (attempts : Nat) :
    (c.withAttempts attempts).core = (d.withAttempts attempts).core := by
  obtain ⟨config, factors, session, watch, budget, registry, callbacks⟩ := core_eq_iff.mp same
  simp [core_eq_iff, withAttempts, *]

theorem delayed_congr : c.delayed.core = d.delayed.core := by
  obtain ⟨config, factors, session, watch, budget, registry, callbacks⟩ := core_eq_iff.mp same
  simp [core_eq_iff, delayed, *]

theorem disowned_congr : c.disowned.core = d.disowned.core := by
  obtain ⟨config, factors, session, watch, budget, registry, callbacks⟩ := core_eq_iff.mp same
  simp [core_eq_iff, disowned, *]

theorem unsubscribeListener_congr (number : Nat) :
    (c.unsubscribeListener number).2.core = (d.unsubscribeListener number).2.core := by
  obtain ⟨config, factors, session, watch, budget, registry, callbacks⟩ := core_eq_iff.mp same
  simp only [unsubscribeListener, registry]
  split
  · simp [core_eq_iff, *]
  · exact same

theorem install_congr (id : SubscriptionId) : (c.install id).core = (d.install id).core := by
  have replaced : (c.session.dispatch.elim c fun old => (c.unsubscribeListener old).2).core =
      (d.session.dispatch.elim d fun old => (d.unsubscribeListener old).2).core := by
    rw [(core_eq_iff.mp same).2.2.1]
    cases d.session.dispatch with
    | none => exact same
    | some old => exact unsubscribeListener_congr same old
  unfold install
  generalize (c.session.dispatch.elim c fun old => (c.unsubscribeListener old).2) = c at replaced
  generalize (d.session.dispatch.elim d fun old => (d.unsubscribeListener old).2) = d at replaced
  obtain ⟨config, factors, session, watch, budget, registry, callbacks⟩ := core_eq_iff.mp replaced
  simp [core_eq_iff, subscribeListener, setLifecycle, note, *]

theorem Current.congr {p : Purpose} (current : c.Current p) : d.Current p := by
  obtain ⟨_, _, session, _, budget, _⟩ := core_eq_iff.mp same
  obtain ⟨generation, epoch⟩ := current
  constructor
  · rwa [← session]
  · rwa [← budget]

theorem HandOff.congr {generation : Nat} {starter : Starter} {after : Client} {progress : Progress}
    (handed : HandOff c generation starter after progress) :
    ∃ after', HandOff d generation starter after' progress ∧ after.core = after'.core := by
  obtain ⟨config, _, session, _, budget, _⟩ := core_eq_iff.mp same
  cases handed with
  | busy up => exact ⟨d, .busy (session ▸ up), same⟩
  | joins up result ordinary =>
    exact ⟨_, .joins (session ▸ up) result ordinary, transition_congr same generation _ _⟩
  | skips starter e down idle ordinary =>
    exact ⟨d, .skips starter e (session ▸ down) (session ▸ idle) ordinary, same⟩
  | begins starter duration down connected left =>
    have begun := HandOff.begins starter duration (session ▸ down) (session ▸ connected)
      (budget ▸ config ▸ left)
    exact ⟨_, budget ▸ begun, delayed_congr (loseConnection_congr same generation)⟩
  | spent starter e down connected none tells =>
    exact ⟨_, .spent starter e (session ▸ down) (session ▸ connected) (budget ▸ config ▸ none)
      (budget ▸ tells), givenUp_congr (loseConnection_congr same generation) generation .failed⟩

theorem Advance.congr {s : Stage} {received : Option SubscriptionId} {after : Client}
    {progress : Progress} (advance : Advance c s received after progress) :
    ∃ after', Advance d s received after' progress ∧ after.core = after'.core := by
  obtain ⟨config, _, session, _, budget, _⟩ := core_eq_iff.mp same
  cases advance with
  | pauses p failed => exact ⟨d, .pauses p failed, same⟩
  | asks p failed => exact ⟨d, .asks p failed, same⟩
  | opens generation failed id => exact ⟨_, .opens generation failed id, install_congr same id⟩
  | refused generation failed e ordinary =>
    exact ⟨_, .refused generation failed e ordinary, setLifecycle_congr same _⟩
  | handsOff generation failed handed =>
    obtain ⟨after', handed', core⟩ := handed.congr same
    exact ⟨after', .handsOff generation failed handed', core⟩
  | takes h duration id owned =>
    exact ⟨_, .takes h duration id (session ▸ owned), disowned_congr same⟩
  | asksAtOnce h duration vacant => exact ⟨d, .asksAtOnce h duration (session ▸ vacant), same⟩
  | asksAnew h id => exact ⟨d, .asksAnew h id, same⟩
  | recovers h failed id =>
    exact ⟨_, .recovers h failed id,
      clearReconnecting_congr (withAttempts_congr (install_congr same id) 0) h.generation⟩
  | retries h failed duration left =>
    rw [budget, config] at left
    rw [budget]
    exact ⟨_, .retries h failed duration left, delayed_congr (withAttempts_congr same _)⟩
  | exhausted h failed e spent tells =>
    rw [budget, config] at spent
    rw [budget] at tells ⊢
    exact ⟨_, .exhausted h failed e spent tells,
      givenUp_congr (withAttempts_congr same _) h.generation .failed⟩
  | aborts h failed e ordinary =>
    exact ⟨_, .aborts h failed e ordinary,
      givenUp_congr (withAttempts_congr same 0) h.generation .uninitialized⟩

end Congruence

end Client

end RandomBeacon
