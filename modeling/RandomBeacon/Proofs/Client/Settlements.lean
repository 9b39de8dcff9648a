import RandomBeacon.Proofs.Attempts
import RandomBeacon.Proofs.Incidents

/-!
What the operations of a session count. An operation counts a hand-off when the hand-off ends and at
no other step, and what it counts is what it replies (`Bills`); only the end of a delay counts
something else, the attempt that begins with it (`Client.resume_bills`). An operation under way is a
hand-off in one step exactly if it is one in the next, unless a session is handed over in between.
-/

namespace RandomBeacon

def Purpose.reconnects : Purpose → Bool
  | opening _ => false
  | recovering _ => true

/-- Whether an operation under way is a hand-off. -/
def Stage.reconnects (s : Stage) : Bool := s.purpose?.any (·.reconnects)

/-- How a hand-off has ended that replies this. -/
def ReconnectionEnd.ofResult : Except Failure Unit → ReconnectionEnd
  | .ok () => .success
  | .error e => if e.isReconnection then .exhausted else .aborted

/-- The end of a hand-off, if this is one of its steps and the last. -/
def Progress.settlement : Progress → List Incident
  | ended result => [.settles (.ofResult result)]
  | wait _ | lost => []

namespace Client

section Uncounted

variable (c : Client) (generation : Nat)

@[simp] theorem setLifecycleIf_metrics (l : Lifecycle) :
    (c.setLifecycleIf generation l).metrics = c.metrics := by
  unfold setLifecycleIf
  split <;> rfl

@[simp] theorem transition_metrics (source target : Lifecycle) :
    (c.transition generation source target).metrics = c.metrics := by
  unfold transition
  split <;> rfl

@[simp] theorem clearReconnecting_metrics :
    (c.clearReconnecting generation).metrics = c.metrics := by
  unfold clearReconnecting
  split <;> rfl

@[simp] theorem install_metrics (id : SubscriptionId) : (c.install id).metrics = c.metrics := by
  have removed : (c.session.dispatch.elim c fun old => (c.unsubscribeListener old).2).metrics =
      c.metrics := by
    cases c.session.dispatch with
    | none => rfl
    | some old => exact unsubscribeListener_metrics old c
  exact removed

theorem finishOpening_metrics : (c.finishOpening generation).1.metrics = c.metrics := by
  unfold finishOpening
  split
  · rfl
  · exact c.transition_metrics generation _ _

theorem handedOff_metrics (starter : Starter) (result : Except Failure Unit) :
    (c.handedOff starter generation result).1.metrics = c.metrics := by
  cases starter with
  | lostCall => cases result <;> rfl
  | opening =>
    cases result with
    | ok => exact c.finishOpening_metrics generation
    | error e => rfl

/-- Whoever takes the result of a hand-off goes no further. -/
theorem handedOff_ends (starter : Starter) (result : Except Failure Unit) :
    ∃ reply, (c.handedOff starter generation result).2 = .ended reply := by
  cases starter with
  | lostCall => cases result <;> exact ⟨_, rfl⟩
  | opening =>
    cases result with
    | ok =>
      obtain ⟨_, reply, ends, _⟩ := finishOpening_core generation c
      exact ⟨reply, ends⟩
    | error e => exact ⟨_, rfl⟩

end Uncounted

end Client

/-- What a step of an operation counts that is a hand-off, or none: the end of the hand-off, if it
ends, and nothing else. -/
structure Bills (m : Metrics) (handoff : Bool) (step : Client × Progress) : Prop where
  counts : m.Counts (if handoff then step.2.settlement else []) step.1.metrics
  stays : ∀ s, step.2 = .wait s → s.reconnects = handoff
  lasts : step.2 ≠ .lost

namespace Bills

variable {m n : Metrics} {c : Client} {s : Stage} {result : Except Failure Unit}

theorem congr {handoff : Bool} {step : Client × Progress} (bills : Bills m handoff step)
    (same : m = n) : Bills n handoff step :=
  same ▸ bills

/-- What counts nothing and is the last step of no hand-off. -/
theorem ended {step : Client × Progress} (ends : step.2 = .ended result)
    (same : step.1.metrics = m) : Bills m false step := by
  obtain ⟨d, progress⟩ := step
  subst ends
  exact ⟨same ▸ .refl m, by rintro s ⟨⟩, by rintro ⟨⟩⟩

theorem wait (same : c.metrics = m) : Bills m s.reconnects (c, .wait s) := by
  refine ⟨?_, ?_, by rintro ⟨⟩⟩
  · rw [same]
    split <;> exact .refl m
  · rintro other ⟨⟩
    rfl

end Bills

theorem Budget.schedule_unconnected (b : Budget) (p : Pacing) (epoch : Nat) :
    (b.schedule p epoch).next ≠ .ended (.ok ()) := by
  unfold schedule
  split_ifs <;> rintro ⟨⟩

/-- A loop connects when its attempt does, and not otherwise. -/
theorem Budget.of_settle_connected {b : Budget} {p : Pacing} {epoch attempt : Nat}
    {outcome : Except Failure Unit}
    (connected : (b.settle p epoch attempt outcome).next = .ended (.ok ())) : outcome = .ok () := by
  cases outcome with
  | ok => rfl
  | error e =>
    simp only [settle] at connected
    split_ifs at connected
    · cases connected
    · cases connected
    · exact absurd connected (schedule_unconnected _ p epoch)
    · cases connected

namespace Client

variable {c : Client} {h : Handoff}

/-- The end of a loop counts what it replies. One that has connected has left the client ready. -/
theorem loopEnded_bills {result : Except Failure Unit}
    (ready : result = .ok () → c.session.lifecycle = .ready) :
    Bills c.metrics true (c.loopEnded h result) := by
  have replies : (c.loopEnded h result).2 = .ended result := by
    cases result with
    | ok => exact (loopEnded_ready (ready rfl) h).2
    | error e =>
      simp only [loopEnded]
      exact (handedOff_error _ _ _ _).2
  have counted : (c.loopEnded h result).1.metrics =
      c.metrics.recordReconnection (.ofResult result) := by
    simp only [loopEnded, handedOff_metrics]
    cases result with
    | ok => simp [recordReconnection, ReconnectionEnd.ofResult]
    | error e =>
      by_cases spent : e.isReconnection = true <;>
        simp [spent, recordReconnection, ReconnectionEnd.ofResult]
  refine ⟨?_, ?_, ?_⟩
  · rw [replies, counted]
    exact c.metrics.counts_reconnection _
  · intro s waits
    rw [replies] at waits
    cases waits
  · rw [replies]
    rintro ⟨⟩

theorem followLoop_bills {turn : LoopTurn}
    (ready : turn.next = .ended (.ok ()) → c.session.lifecycle = .ready) :
    Bills c.metrics true (c.followLoop h turn) := by
  have told : ({ c with budget := turn.budget }.noteAll turn.notices).metrics = c.metrics :=
    noteAll_metrics _ _
  unfold followLoop
  cases next : turn.next with
  | delay attempt duration => exact Bills.wait (s := .scheduled { h with attempt } duration) told
  | ended result =>
    refine (loopEnded_bills fun connected => ?_).congr told
    rw [noteAll_session]
    exact ready (by rw [next, connected])

theorem attempted_bills {outcome : Except Failure Unit}
    (ready : outcome = .ok () → c.session.lifecycle = .ready) :
    Bills c.metrics true (c.attempted h outcome) :=
  followLoop_bills fun connected => ready (Budget.of_settle_connected connected)

/-- Only a session that has a connection to lose is handed over. -/
theorem handOff_bills (starter : Starter) (generation : Nat) (c : Client) :
    Bills c.metrics (c.loses generation) (c.handOff starter generation) := by
  have declined {b : Client} {result : Except Failure Unit} (same : b.metrics = c.metrics)
      (kept : c.loses generation = false) :
      Bills c.metrics (c.loses generation) (b.handedOff starter generation result) := by
    obtain ⟨reply, ends⟩ := b.handedOff_ends generation starter result
    rw [kept]
    exact .ended ends ((b.handedOff_metrics generation starter result).trans same)
  have lost (connected : c.loses generation = true) :
      Bills c.metrics (c.loses generation) ((c.loseConnection generation).followLoop
        ⟨starter, generation, c.budget.epoch, c.budget.attempts⟩
        (c.budget.schedule c.pacing c.budget.epoch)) := by
    rw [connected]
    exact followLoop_bills (c := c.loseConnection generation) fun connects =>
      absurd connects (Budget.schedule_unconnected _ _ _)
  unfold handOff
  split_ifs with other up
  · exact declined rfl (by simp [loses, other])
  · exact declined rfl (by simp [loses, up])
  · have current : c.session.generation = generation := not_not.mp other
    cases l : c.session.lifecycle with
    | ready | initializing => exact lost (by simp [loses, current, up, l])
    | uninitialized | reconnecting | failed => exact declined rfl (by simp [loses, l])

/-- Whether the end of subscribing for `p` with this failure hands the session over. -/
def yields (p : Purpose) (e : Failure) (c : Client) : Bool :=
  match p with
  | .opening generation => e.isNetwork && c.loses generation
  | .recovering _ => false

theorem subscribeFailed_bills (p : Purpose) (e : Failure) (c : Client) :
    Bills c.metrics (p.reconnects || c.yields p e) (c.subscribeFailed p e) := by
  cases p with
  | recovering h => exact attempted_bills nofun
  | opening generation =>
    simp only [subscribeFailed, Purpose.reconnects, yields, Bool.false_or]
    by_cases network : e.isNetwork = true
    · rw [if_pos network, network, Bool.true_and]
      exact (c.note (.initialSubscriptionFailed e)).handOff_bills .opening generation
    · have other : e.isNetwork = false := by simpa using network
      rw [if_neg network, other, Bool.false_and]
      exact .ended rfl (c.setLifecycleIf_metrics generation _)

/-- A session that has been closed has no connection to lose. -/
theorem beginSubscribing_bills (p : Purpose) (failed : Nat) (c : Client) :
    Bills c.metrics p.reconnects (c.beginSubscribing p failed) := by
  unfold beginSubscribing
  split_ifs with current
  · exact .wait (s := .subscribing p failed) rfl
  · have kept : c.yields p closedWhileSubscribing = false := by
      cases p with
      | recovering h => rfl
      | opening generation =>
        have other : c.session.generation ≠ generation := current
        simp [yields, loses, other]
    have bills := c.subscribeFailed_bills p closedWhileSubscribing
    rwa [kept, Bool.or_false] at bills

theorem commit_bills (p : Purpose) (id : SubscriptionId) (c : Client) :
    Bills c.metrics p.reconnects (c.commit p id) := by
  unfold commit
  split_ifs with current
  · cases p with
    | recovering h =>
      rw [← c.install_metrics id]
      exact attempted_bills fun _ => by simp
    | opening generation =>
      obtain ⟨_, ends⟩ := finishOpening_ready (c := c.install id) (by simp) generation
      exact .ended ends
        (((c.install id).finishOpening_metrics generation).trans (c.install_metrics id))
  · exact .wait (s := .releasing p id) rfl

theorem resubscribe_bills (h : Handoff) (c : Client) :
    Bills c.metrics true (c.resubscribe h) := by
  unfold resubscribe
  split_ifs
  · exact attempted_bills nofun
  · cases c.session.subscription with
    | some id => exact .wait (s := .dropping h id) rfl
    | none => exact c.beginSubscribing_bills (.recovering h) 0

/-- The end of a subscribe call hands the session of an opening over if no more calls are made. -/
theorem subscribed_bills (p : Purpose) (failed : Nat) {outcome : Outcome SubscriptionId}
    (calm : Stage.panicked (.subscribing p failed) outcome = false) (c : Client) :
    Bills c.metrics (p.reconnects || (Event.resume (.subscribing p failed) outcome).handsOver c)
      (c.subscribed p failed outcome) := by
  cases outcome with
  | panicked detail => cases calm
  | returned id =>
    have bills := (c.note (.subscribed id (failed + 1))).commit_bills p id
    cases p <;> exact bills
  | failed fault =>
    have hands : (Event.resume (.subscribing p failed) (.failed fault)).handsOver c =
        (c.yields p (.ofSubscribeFault fault) && decide (subscribeLimit ≤ failed + 1)) := by
      cases p with
      | recovering h => rfl
      | opening generation => exact Bool.and_right_comm _ _ _
    rw [hands]
    simp only [subscribed]
    split_ifs with network more
    · have last : decide (subscribeLimit ≤ failed + 1) = false := decide_eq_false (by omega)
      rw [last, Bool.and_false, Bool.or_false]
      exact .wait (s := .pausing p (failed + 1)) rfl
    · have last : decide (subscribeLimit ≤ failed + 1) = true := decide_eq_true (by omega)
      rw [last, Bool.and_true]
      exact (c.note _).subscribeFailed_bills p _
    · have kept : c.yields p (.ofSubscribeFault fault) = false := by
        cases p with
        | recovering h => rfl
        | opening generation => simp [yields, network]
      have bills := c.subscribeFailed_bills p (.ofSubscribeFault fault)
      rwa [kept] at bills ⊢

theorem released_bills (p : Purpose) (id : SubscriptionId) {outcome : Outcome Unit}
    (calm : Stage.panicked (.releasing p id) outcome = false) (c : Client) :
    Bills c.metrics p.reconnects (c.released p id outcome) := by
  cases p with
  | opening generation =>
    cases outcome with
    | panicked detail => cases calm
    | returned | failed => exact .ended rfl rfl
  | recovering h =>
    cases outcome with
    | panicked detail => cases calm
    | returned => exact attempted_bills nofun
    | failed fault => exact attempted_bills (c := c.note (.releaseFailed id fault)) nofun

theorem dropped_bills (h : Handoff) (id : SubscriptionId) {outcome : Outcome Unit}
    (calm : Stage.panicked (.dropping h id) outcome = false) (c : Client) :
    Bills c.metrics true (c.dropped h id outcome) := by
  cases outcome with
  | panicked detail => cases calm
  | returned => exact c.beginSubscribing_bills (.recovering h) 0
  | failed fault =>
    exact (c.note (.staleSubscriptionGone id fault)).beginSubscribing_bills (.recovering h) 0

theorem openSession_bills (c : Client) : Bills c.metrics false c.openSession := by
  unfold openSession
  cases c.session.lifecycle with
  | uninitialized =>
    exact ((c.setLifecycle .initializing).note (.initializing _)).beginSubscribing_bills
      (.opening c.session.generation) 0
  | ready | initializing | reconnecting | failed => exact .ended rfl rfl

/-- A cleanup reads the gauge and counts nothing. -/
theorem closeSession_bills (c : Client) :
    ∃ m, c.metrics.Counts [] m ∧ Bills m false c.closeSession := by
  refine ⟨c.reset.metrics, c.metrics.counts_pending _, ?_⟩
  unfold closeSession
  cases c.session.subscription with
  | some id => exact .wait (s := .closing id) rfl
  | none => exact .ended rfl rfl

/-- The attempt that begins with the end of this stage, if one does. -/
def attemptAt (s : Stage) (c : Client) : List Incident :=
  match s with
  | .scheduled h _ => if c.budget.epoch = h.epoch then [.resubscribes] else []
  | _ => []

theorem elapsed_bills (h : Handoff) (duration : Nat) (c : Client) :
    ∃ m, c.metrics.Counts (c.attemptAt (.scheduled h duration)) m ∧ Bills m true (c.elapsed h) := by
  have due : c.attemptAt (.scheduled h duration) =
      if c.budget.epoch = h.epoch then [.resubscribes] else [] := rfl
  rw [due]
  unfold elapsed Budget.elapse
  by_cases live : c.budget.epoch = h.epoch
  · rw [if_pos live, if_pos live]
    exact ⟨_, c.metrics.counts_attempt,
      resubscribe_bills h { c with metrics := c.metrics.recordReconnectAttempt }⟩
  · rw [if_neg live, if_neg live]
    exact ⟨_, .refl _, followLoop_bills nofun⟩

/-- Any step of an operation counts the attempt that begins with it and the end of the hand-off that
it is, or has become. -/
theorem resume_bills (s : Stage) {signal : s.Signal} (calm : s.panicked signal = false)
    (c : Client) : ∃ m, c.metrics.Counts (c.attemptAt s) m ∧
      Bills m (s.reconnects || (Event.resume s signal).handsOver c) (c.resume s signal) := by
  have alone {handoff hands : Bool} {step : Client × Progress} (never : hands = false)
      (bills : Bills c.metrics handoff step) :
      ∃ m, c.metrics.Counts [] m ∧ Bills m (handoff || hands) step := by
    rw [never, Bool.or_false]
    exact ⟨c.metrics, .refl _, bills⟩
  cases s with
  | subscribing p failed => exact ⟨c.metrics, .refl _, c.subscribed_bills p failed calm⟩
  | pausing p failed => exact alone rfl (c.beginSubscribing_bills p failed)
  | releasing p id => exact alone rfl (c.released_bills p id calm)
  | dropping h id => exact alone rfl (c.dropped_bills h id calm)
  | scheduled h duration => exact elapsed_bills h duration c
  | closing id =>
    cases signal with
    | panicked detail => cases calm
    | returned | failed => exact alone rfl (.ended rfl rfl)

end Client

end RandomBeacon
