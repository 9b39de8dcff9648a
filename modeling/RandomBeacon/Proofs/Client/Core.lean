import RandomBeacon.Client.Session

/-!
What a client is apart from what it tells: its core, without counts and notices. An operation on a
session that has been closed leaves the core alone (`resume_stale`) and can only wind down
(`Fades`).
-/

namespace RandomBeacon

/-- The stage in which an operation waits, if it does. -/
def Progress.stages : Progress → List Stage
  | wait stage => [stage]
  | ended _ | lost => []

/-- What an operation wants a subscription for; the end of a closed session wants none. -/
def Stage.purpose? : Stage → Option Purpose
  | subscribing p _ | pausing p _ | releasing p _ => some p
  | scheduled h _ | dropping h _ => some (.recovering h)
  | closing _ => none

/-- Whether an operation is of `generation`. -/
def Stage.current (generation : Nat) (s : Stage) : Bool :=
  s.purpose?.any (·.generation = generation)

theorem Stage.current_iff {s : Stage} {generation : Nat} :
    s.current generation = true ↔ ∃ p, s.purpose? = some p ∧ p.generation = generation := by
  simp [current, Option.any_eq_true]

/-- The subscription that the end of a stage brings. -/
def Stage.received? : (s : Stage) → s.Signal → Option SubscriptionId
  | subscribing _ _, .returned id => some id
  | _, _ => none

/-- Whether the provider panicked and takes the operation with it. -/
def Stage.panicked : (s : Stage) → s.Signal → Bool
  | subscribing _ _, .panicked _ | releasing _ _, .panicked _ | dropping _ _, .panicked _
  | closing _, .panicked _ => true
  | _, _ => false

namespace Client

/-- A client without its counts and notices. -/
def core (c : Client) : Client := { c with metrics := {}, journal := [] }

section Notices

variable (c : Client) (n : Notice) (ns : List Notice)

@[simp] theorem note_core : (c.note n).core = c.core := rfl
@[simp] theorem note_session : (c.note n).session = c.session := rfl

theorem noteAll_eq : c.noteAll ns = { c with journal := ns.reverse ++ c.journal } := by
  induction ns generalizing c with
  | nil => rfl
  | cons n rest ih =>
    have first : c.noteAll (n :: rest) = (c.note n).noteAll rest := rfl
    rw [first, ih, List.reverse_cons, List.append_assoc]
    rfl

@[simp] theorem note_metrics : (c.note n).metrics = c.metrics := rfl

@[simp] theorem noteAll_metrics : (c.noteAll ns).metrics = c.metrics := by
  rw [noteAll_eq]

@[simp] theorem noteAll_core : (c.noteAll ns).core = c.core := by
  unfold noteAll
  induction ns generalizing c with
  | nil => rfl
  | cons n rest ih => exact (ih (c.note n)).trans (note_core c n)

theorem noteAll_gauge :
    (c.noteAll ns).metrics.pendingCallbacks = c.metrics.pendingCallbacks := by
  rw [noteAll_metrics]

/-- Equal cores agree on everything that is not told. -/
theorem core_eq_iff {c d : Client} : c.core = d.core ↔
    c.config = d.config ∧ c.factors = d.factors ∧ c.session = d.session ∧ c.watch = d.watch ∧
    c.budget = d.budget ∧ c.registry = d.registry ∧ c.callbacks = d.callbacks := by
  simp [core, Client.mk.injEq]

@[simp] theorem noteAll_session : (c.noteAll ns).session = c.session :=
  (core_eq_iff.mp (noteAll_core c ns)).2.2.1

end Notices

/-- The session, with the configuration and the budget it goes by. -/
def standing (c : Client) : Config × Session × Budget := (c.config, c.session, c.budget)

theorem standing_of_core {c d : Client} (same : c.core = d.core) : c.standing = d.standing := by
  obtain ⟨config, _, session, _, budget, _⟩ := core_eq_iff.mp same
  simp [standing, config, session, budget]

theorem unsubscribeListener_standing (number : Nat) (c : Client) :
    (c.unsubscribeListener number).2.standing = c.standing := by
  unfold unsubscribeListener
  split <;> rfl

@[simp] theorem unsubscribeListener_metrics (number : Nat) (c : Client) :
    (c.unsubscribeListener number).2.metrics = c.metrics := by
  unfold unsubscribeListener
  split <;> rfl

theorem unsubscribeListener_watch (number : Nat) (c : Client) :
    (c.unsubscribeListener number).2.watch = c.watch := by
  unfold unsubscribeListener
  split <;> rfl

@[simp] theorem recordReconnection_session (result : ReconnectionEnd) (c : Client) :
    (c.recordReconnection result).session = c.session := rfl

/-- An operation that began before the session was closed, or whose session is another one. -/
structure Stale (c : Client) (p : Purpose) : Prop where
  generation : c.session.generation ≠ p.generation
  guard : c.session.reconnecting ≠ some p.generation
  epoch : ∀ h, p = .recovering h → c.budget.epoch ≠ h.epoch

theorem Stale.congr {c d : Client} {p : Purpose} (stale : c.Stale p) (same : d.core = c.core) :
    d.Stale p := by
  obtain ⟨_, _, session, _, budget, _⟩ := core_eq_iff.mp same
  obtain ⟨generation, guard, epoch⟩ := stale
  constructor
  · rwa [session]
  · rwa [session]
  · rwa [budget]

/-- A result other than that the budget of attempts is spent. -/
def Ordinary (result : Except Failure Unit) : Prop :=
  ∀ attempts, result ≠ .error (.reconnection attempts)

theorem ordinary_of_isReconnection {e : Failure} (other : e.isReconnection = false) :
    Ordinary (.error e) := by
  rintro attempts ⟨⟩
  cases other

theorem ofSubscribeFault_isReconnection (fault : Fault) :
    (Failure.ofSubscribeFault fault).isReconnection = false := by
  cases fault <;> rfl

/-- How an operation on a closed session winds down: it may pause between two calls once more, and
it gives back a subscription that it receives. -/
inductive Fades (p : Purpose) : Option SubscriptionId → Progress → Prop
  | ends (result : Except Failure Unit) (ordinary : Ordinary result) : Fades p none (.ended result)
  | pauses (failed : Nat) : Fades p none (.wait (.pausing p failed))
  | releases (id : SubscriptionId) : Fades p (some id) (.wait (.releasing p id))

theorem handedOff_error (starter : Starter) (generation : Nat) (e : Failure) (c : Client) :
    (c.handedOff starter generation (.error e)).1.core = c.core ∧
    (c.handedOff starter generation (.error e)).2 = .ended (.error e) := by
  cases starter <;> exact ⟨rfl, rfl⟩

theorem setLifecycleIf_other {c : Client} {generation : Nat}
    (other : c.session.generation ≠ generation) (l : Lifecycle) :
    c.setLifecycleIf generation l = c := by
  unfold setLifecycleIf
  rw [if_neg other]

theorem clearReconnecting_other {c : Client} {generation : Nat}
    (other : c.session.reconnecting ≠ some generation) :
    c.clearReconnecting generation = c := by
  unfold clearReconnecting
  rw [if_neg other]

theorem loopEnded_stale {c : Client} {h : Handoff} (stale : c.Stale (.recovering h)) (e : Failure) :
    (c.loopEnded h (.error e)).1.core = c.core ∧
    (c.loopEnded h (.error e)).2 = .ended (.error e) := by
  have cleared : c.clearReconnecting h.generation = c := clearReconnecting_other stale.guard
  have kept (result : ReconnectionEnd) (l : Lifecycle) :
      (c.recordReconnection result).setLifecycleIf h.generation l = c.recordReconnection result :=
    setLifecycleIf_other (c := c.recordReconnection result) stale.generation l
  simp only [loopEnded, cleared, kept]
  split
  · exact handedOff_error _ _ _ _
  · exact handedOff_error _ _ _ _

theorem followLoop_stale {c : Client} {h : Handoff} (stale : c.Stale (.recovering h))
    (notices : List Notice) (e : Failure) :
    (c.followLoop h ⟨c.budget, notices, .ended (.error e)⟩).1.core = c.core ∧
    (c.followLoop h ⟨c.budget, notices, .ended (.error e)⟩).2 = .ended (.error e) := by
  have same : (c.noteAll notices).core = c.core := noteAll_core c notices
  obtain ⟨core, ended⟩ := loopEnded_stale (stale.congr same) e
  exact ⟨core.trans same, ended⟩

theorem attempted_stale {c : Client} {h : Handoff} (stale : c.Stale (.recovering h))
    (outcome : Except Failure Unit) :
    (c.attempted h outcome).1.core = c.core ∧
    (c.attempted h outcome).2 = .ended (.error Budget.cancelled) := by
  have turn : c.budget.settle c.pacing h.epoch h.attempt outcome =
      ⟨c.budget, [.attemptDiscarded], .ended (.error Budget.cancelled)⟩ := by
    unfold Budget.settle
    rw [if_pos (stale.epoch h rfl)]
  unfold attempted
  rw [turn]
  exact followLoop_stale stale _ _

theorem handOff_stale {c : Client} {generation : Nat} (other : c.session.generation ≠ generation) :
    (c.handOff .lostCall generation).1.core = c.core ∧
    (c.handOff .lostCall generation).2 = .ended (.ok ()) := by
  simp only [handOff, ne_eq, other, not_false_eq_true, if_true]
  exact ⟨rfl, rfl⟩

theorem finishOpening_other {c : Client} {generation : Nat}
    (other : c.session.generation ≠ generation) :
    (c.finishOpening generation).1.core = c.core ∧
    ∃ result, (c.finishOpening generation).2 = .ended result ∧ Ordinary result := by
  unfold finishOpening readyGeneration
  by_cases ready : c.session.lifecycle = .ready
  · rw [if_pos ready]
    exact ⟨rfl, _, rfl, by rintro attempts ⟨⟩⟩
  · rw [if_neg ready]
    refine ⟨?_, _, rfl, ordinary_of_isReconnection rfl⟩
    simp [transition, other]

theorem cancelled_ordinary : Ordinary (.error Budget.cancelled) := ordinary_of_isReconnection rfl

theorem subscribeFailed_stale {c : Client} {p : Purpose} (stale : c.Stale p) {e : Failure}
    (other : e.isReconnection = false) :
    (c.subscribeFailed p e).1.core = c.core ∧
    ∃ result, (c.subscribeFailed p e).2 = .ended result ∧ Ordinary result := by
  cases p with
  | recovering h =>
    obtain ⟨core, ended⟩ := attempted_stale stale (.error e)
    exact ⟨core, _, ended, cancelled_ordinary⟩
  | opening generation =>
    have closed : c.session.generation ≠ generation := stale.generation
    simp only [subscribeFailed]
    split
    · simp only [handOff, note_session, ne_eq, closed, not_false_eq_true, if_true, handedOff]
      exact finishOpening_other (c := (c.note _).note _) closed
    · rw [setLifecycleIf_other closed]
      exact ⟨rfl, _, rfl, ordinary_of_isReconnection other⟩

theorem beginSubscribing_stale {c : Client} {p : Purpose} (stale : c.Stale p) (failed : Nat) :
    (c.beginSubscribing p failed).1.core = c.core ∧
    ∃ result, (c.beginSubscribing p failed).2 = .ended result ∧ Ordinary result := by
  unfold beginSubscribing
  rw [if_neg stale.generation]
  exact subscribeFailed_stale stale rfl

theorem subscribed_stale {c : Client} {p : Purpose} (stale : c.Stale p) (failed : Nat)
    (outcome : Outcome SubscriptionId)
    (calm : Stage.panicked (.subscribing p failed) outcome = false) :
    (c.subscribed p failed outcome).1.core = c.core ∧
    Fades p (Stage.received? (.subscribing p failed) outcome)
      (c.subscribed p failed outcome).2 := by
  cases outcome with
  | panicked detail => cases calm
  | returned id =>
    have other : ¬(c.note (.subscribed id (failed + 1))).session.generation = p.generation :=
      stale.generation
    simp only [subscribed, commit, if_neg other]
    exact ⟨rfl, .releases id⟩
  | failed fault =>
    have other := ofSubscribeFault_isReconnection fault
    simp only [subscribed]
    split
    · split
      · exact ⟨rfl, .pauses _⟩
      · have noted := stale.congr (note_core c (.subscriptionFailed (failed + 1) subscribeLimit
          (Failure.ofSubscribeFault fault)))
        obtain ⟨core, result, ended, ordinary⟩ := subscribeFailed_stale noted other
        rw [ended]
        exact ⟨core, .ends result ordinary⟩
    · obtain ⟨core, result, ended, ordinary⟩ := subscribeFailed_stale stale other
      rw [ended]
      exact ⟨core, .ends result ordinary⟩

theorem released_stale {c : Client} {p : Purpose} (stale : c.Stale p) (id : SubscriptionId)
    (outcome : Outcome Unit) (calm : Stage.panicked (.releasing p id) outcome = false) :
    (c.released p id outcome).1.core = c.core ∧ Fades p none (c.released p id outcome).2 := by
  cases p with
  | opening generation =>
    cases outcome with
    | panicked detail => cases calm
    | returned value => exact ⟨rfl, .ends _ (ordinary_of_isReconnection rfl)⟩
    | failed fault => exact ⟨note_core c _, .ends _ (ordinary_of_isReconnection rfl)⟩
  | recovering h =>
    have after (d : Client) (same : d.core = c.core) :
        (d.attempted h (.error closedWhileRecovering)).1.core = c.core ∧
        Fades (.recovering h) none (d.attempted h (.error closedWhileRecovering)).2 := by
      obtain ⟨core, ended⟩ := attempted_stale (stale.congr same) (.error closedWhileRecovering)
      exact ⟨core.trans same, ended ▸ .ends _ cancelled_ordinary⟩
    cases outcome with
    | panicked detail => cases calm
    | returned value => exact after c rfl
    | failed fault => exact after (c.note (.releaseFailed id fault)) (note_core c _)

theorem elapsed_stale {c : Client} {h : Handoff} (stale : c.Stale (.recovering h)) :
    (c.elapsed h).1.core = c.core ∧ (c.elapsed h).2 = .ended (.error Budget.cancelled) := by
  unfold elapsed Budget.elapse
  rw [if_neg (stale.epoch h rfl)]
  exact followLoop_stale stale _ _

theorem dropped_stale {c : Client} {h : Handoff} (stale : c.Stale (.recovering h))
    (id : SubscriptionId) (outcome : Outcome Unit)
    (calm : Stage.panicked (.dropping h id) outcome = false) :
    (c.dropped h id outcome).1.core = c.core ∧
    Fades (.recovering h) none (c.dropped h id outcome).2 := by
  cases outcome with
  | panicked detail => cases calm
  | returned value =>
    obtain ⟨core, result, ended, ordinary⟩ := beginSubscribing_stale stale 0
    exact ⟨core, by rw [dropped, ended]; exact .ends result ordinary⟩
  | failed fault =>
    have noted := stale.congr (note_core c (.staleSubscriptionGone id fault))
    obtain ⟨core, result, ended, ordinary⟩ := beginSubscribing_stale noted 0
    exact ⟨core, by rw [dropped, ended]; exact .ends result ordinary⟩

/-- An operation on a closed session leaves the core of the client alone and winds down. -/
theorem resume_stale {c : Client} {s : Stage} {p : Purpose} (wants : s.purpose? = some p)
    (stale : c.Stale p) (signal : s.Signal) (calm : s.panicked signal = false) :
    (c.resume s signal).1.core = c.core ∧ Fades p (s.received? signal) (c.resume s signal).2 := by
  cases s with
  | subscribing q failed =>
    obtain rfl := Option.some.inj wants
    exact subscribed_stale stale failed signal calm
  | pausing q failed =>
    obtain rfl := Option.some.inj wants
    obtain ⟨core, result, ended, ordinary⟩ := beginSubscribing_stale stale failed
    exact ⟨core, by rw [resume, ended]; exact .ends result ordinary⟩
  | releasing q id =>
    obtain rfl := Option.some.inj wants
    exact released_stale stale id signal calm
  | scheduled h duration =>
    obtain rfl := Option.some.inj wants
    obtain ⟨core, ended⟩ := elapsed_stale stale
    exact ⟨core, by rw [resume, ended]; exact .ends _ cancelled_ordinary⟩
  | dropping h id =>
    obtain rfl := Option.some.inj wants
    exact dropped_stale stale id signal calm
  | closing id => cases wants

/-- A panic leaves the client as it was. -/
theorem resume_panicked {s : Stage} {signal : s.Signal} (panicked : s.panicked signal = true)
    (c : Client) : c.resume s signal = (c, .lost) := by
  cases s with
  | subscribing | releasing | dropping | closing => cases signal <;> first | rfl | cases panicked
  | pausing | scheduled => cases panicked

/-- The end of a cleanup changes nothing any more. -/
theorem resume_closing (c : Client) (id : SubscriptionId) (outcome : Outcome Unit) :
    (c.resume (.closing id) outcome).1.core = c.core ∧
    (c.resume (.closing id) outcome).2.stages = [] := by
  cases outcome with
  | panicked detail | returned value | failed fault => exact ⟨rfl, rfl⟩

end Client

end RandomBeacon
