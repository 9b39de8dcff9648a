import RandomBeacon.Proofs.Client.Resume
import RandomBeacon.Proofs.Reconnection.Turns

/-!
An opening that has the client to itself. Its subscribe calls come in rounds of three: round 0 is
the opening's own, and each later one is an attempt of the hand-off that follows (`InRound`). A lost
call leads to the next call of its round (`InRound.lost_again`), or from the last one into the next
round (`InRound.lost_next`), until the budget is spent (`InRound.lost_spent`); any other call ends
the opening (`InRound.granted`, `InRound.refused`).
-/

namespace RandomBeacon

theorem isNetwork_ofSubscribeFault (fault : Fault) :
    (Failure.ofSubscribeFault fault).isNetwork = fault.isTransport := by
  cases fault <;> rfl

namespace Client

/-- A client whose session nobody has opened, with its budget in full. -/
structure Unopened (c : Client) : Prop where
  session : c.session = { generation := c.session.generation }
  attempts : c.budget.attempts = 0

/-- How a client stands when an operation has ended. -/
structure Rests (c : Client) (lifecycle : Lifecycle) (subscription : Option SubscriptionId)
    (attempts : Nat) : Prop where
  lifecycle : c.session.lifecycle = lifecycle
  subscription : c.session.subscription = subscription
  attempts : c.budget.attempts = attempts

/-- The hand-off of an opening that begins here, before attempt number `attempt`. -/
def openingHandoff (c : Client) (attempt : Nat) : Handoff :=
  ⟨.opening, c.session.generation, c.budget.epoch, attempt⟩

/-- What an opening that begins here makes the calls of a round for. -/
def roundPurpose (c : Client) : Nat → Purpose
  | 0 => .opening c.session.generation
  | r + 1 => .recovering (c.openingHandoff r)

/-- The delay before attempt number `attempt` of an opening that begins here. -/
def attemptDelay (c : Client) (attempt : Nat) : Nat :=
  c.config.reconnection.delay (c.factors (c.budget.delays + attempt)) attempt

/-- The session in a round of an opening that begins here. -/
def roundSession (c : Client) : Nat → Session
  | 0 => { c.session with lifecycle := .initializing }
  | _ + 1 =>
    { c.session with lifecycle := .reconnecting, reconnecting := some c.session.generation }

/-- The budget in a round of an opening that begins here: each round but the first counts as an
attempt once it has failed. -/
def roundBudget (c : Client) (r : Nat) : Budget :=
  { c.budget with attempts := r - 1, delays := c.budget.delays + r }

/-- The client `d` is in a round of an opening that has begun at `c`. -/
structure InRound (c : Client) (r : Nat) (d : Client) : Prop where
  config : d.config = c.config
  factors : d.factors = c.factors
  session : d.session = c.roundSession r
  budget : d.budget = c.roundBudget r

/-- The delay that would be drawn now. -/
def nextDelay (c : Client) : Nat :=
  c.config.reconnection.delay (c.factors c.budget.delays) c.budget.attempts

/-- A session that is handed over with attempts left waits for the first of them. -/
theorem handOff_left {c : Client} {generation : Nat} (current : c.session.generation = generation)
    (starter : Starter) (down : c.session.reconnecting ≠ some generation)
    (connected : c.session.lifecycle = .initializing)
    (left : c.budget.attempts < c.config.reconnection.maxAttempts) :
    (c.handOff starter generation).1.core = (c.loseConnection generation).delayed.core ∧
    (c.handOff starter generation).2 =
      .wait (.scheduled ⟨starter, generation, c.budget.epoch, c.budget.attempts⟩ c.nextDelay) := by
  have turn := Budget.schedule_left (p := c.pacing) rfl left
  have lost : (c.loseConnection generation).budget.schedule (c.loseConnection generation).pacing
      (c.loseConnection generation).budget.epoch = c.budget.schedule c.pacing c.budget.epoch := rfl
  unfold handOff
  rw [if_neg (fun differs => differs current), if_neg down, connected]
  simp only [lost, turn, followLoop]
  exact ⟨noteAll_core _ _, rfl⟩

/-- An attempt that has failed with attempts left waits for the next one. -/
theorem attempted_left {c : Client} {h : Handoff} (current : c.Current (.recovering h))
    {e : Failure} (network : e.isNetwork = true)
    (left : c.budget.attempts + 1 < c.config.reconnection.maxAttempts) :
    (c.attempted h (.error e)).1.core = (c.withAttempts (c.budget.attempts + 1)).delayed.core ∧
    (c.attempted h (.error e)).2 =
      .wait (.scheduled { h with attempt := c.budget.attempts + 1 }
        (c.withAttempts (c.budget.attempts + 1)).nextDelay) := by
  have epoch : c.budget.epoch = h.epoch := current.epoch h rfl
  have more : ¬c.pacing.config.maxAttempts ≤ c.budget.attempts + 1 := Nat.not_le_of_lt left
  have turn := Budget.schedule_left (p := c.pacing)
    (b := { c.budget with attempts := c.budget.attempts + 1 }) rfl left
  unfold attempted Budget.settle
  rw [← epoch, if_neg (fun differs => differs rfl)]
  simp only [network, if_true, if_neg more, turn, followLoop]
  exact ⟨noteAll_core _ _, by rw [epoch]; rfl⟩

/-- A session that is handed over with no attempt left is given up. -/
theorem handOff_spent {c : Client} {generation : Nat} (current : c.session.generation = generation)
    (starter : Starter) (down : c.session.reconnecting ≠ some generation)
    (connected : c.session.lifecycle = .initializing)
    (spent : c.config.reconnection.maxAttempts ≤ c.budget.attempts) :
    (c.handOff starter generation).1.core =
      ((c.loseConnection generation).givenUp generation .failed).core ∧
    (c.handOff starter generation).2 = .ended (.error (.reconnection c.budget.attempts)) := by
  obtain ⟨d, handed, core⟩ := handOff_begins current starter
  generalize (c.handOff starter generation).2 = progress at handed ⊢
  cases handed with
  | busy up | joins up => exact absurd up down
  | skips _ _ _ idle => exact absurd connected idle.2
  | begins _ _ _ _ left => exact absurd left (Nat.not_lt_of_le spent)
  | spent _ e _ _ _ tells => exact ⟨core, by rw [tells]⟩

/-- An attempt that has failed as the last one gives the hand-off up. -/
theorem attempted_spent {c : Client} {h : Handoff} (current : c.Current (.recovering h))
    {e : Failure} (network : e.isNetwork = true)
    (spent : c.config.reconnection.maxAttempts ≤ c.budget.attempts + 1) :
    (c.attempted h (.error e)).1.core =
      ((c.withAttempts (c.budget.attempts + 1)).givenUp h.generation .failed).core ∧
    (c.attempted h (.error e)).2 = .ended (.error (.reconnection (c.budget.attempts + 1))) := by
  have other : e.isReconnection = false := by
    cases e <;> first | rfl | cases network
  obtain ⟨d, attempt, core⟩ := attempted_error current other
  generalize (c.attempted h (.error e)).2 = progress at attempt ⊢
  cases attempt with
  | retries _ _ _ left => exact absurd left (Nat.not_lt_of_le spent)
  | aborts _ refused => exact absurd (network.symm.trans refused) (by decide)
  | exhausted => exact ⟨core, rfl⟩

theorem Rests.congr {c d : Client} {l : Lifecycle} {subscription : Option SubscriptionId}
    {attempts : Nat} (rests : c.Rests l subscription attempts) (same : d.core = c.core) :
    d.Rests l subscription attempts := by
  obtain ⟨_, _, session, _, budget, _⟩ := core_eq_iff.mp same
  obtain ⟨lifecycle, subscription, attempts⟩ := rests
  constructor
  · rwa [session]
  · rwa [session]
  · rwa [budget]

theorem Unopened.congr {c d : Client} (unopened : c.Unopened) (same : d.core = c.core) :
    d.Unopened := by
  obtain ⟨_, _, session, _, budget, _⟩ := core_eq_iff.mp same
  obtain ⟨idle, attempts⟩ := unopened
  constructor
  · rwa [session]
  · rwa [budget]

/-- A session that has been closed has yet to be opened. -/
theorem unopened_closeSession (c : Client) : c.closeSession.1.Unopened := by
  unfold closeSession
  cases c.session.subscription <;> exact ⟨rfl, rfl⟩

theorem Unopened.vacant {c : Client} (unopened : c.Unopened) : c.session.subscription = none := by
  rw [unopened.session]

/-- An opening begins with the first call of round 0. -/
theorem Unopened.openSession {c : Client} (unopened : c.Unopened) :
    InRound c 0 c.openSession.1 ∧ c.openSession.2 = .wait (.subscribing (c.roundPurpose 0) 0) := by
  have idle : c.session.lifecycle = .uninitialized := by rw [unopened.session]
  have begun : c.openSession = ((c.setLifecycle .initializing).note
      (.initializing c.config.beaconAddress), .wait (.subscribing (c.roundPurpose 0) 0)) := by
    simp only [Client.openSession, idle]
    exact beginSubscribing_current ⟨rfl, by rintro h ⟨⟩⟩ 0
  have whole : c.budget = c.roundBudget 0 := by
    rw [roundBudget, Nat.add_zero, Nat.zero_sub, ← unopened.attempts]
  rw [begun]
  exact ⟨⟨rfl, rfl, rfl, whole⟩, rfl⟩

namespace InRound

variable {c d e : Client} {r : Nat}

theorem congr (round : InRound c r d) (same : e.core = d.core) : InRound c r e := by
  obtain ⟨config, factors, session, _, budget, _⟩ := core_eq_iff.mp same
  exact ⟨config.trans round.config, factors.trans round.factors, session.trans round.session,
    budget.trans round.budget⟩

theorem current (round : InRound c r d) : d.Current (c.roundPurpose r) := by
  constructor
  · rw [round.session]
    cases r <;> rfl
  · intro h recovers
    cases r with
    | zero => cases recovers
    | succ r =>
      cases recovers
      rw [round.budget]
      rfl

/-- The rounds before this one that were attempts have failed. -/
theorem attempts (round : InRound c (r + 1) d) : d.budget.attempts = r := by
  rw [round.budget]
  rfl

/-- The opening's own round has no hand-off under way. -/
theorem down (round : InRound c 0 d) (unopened : c.Unopened) :
    d.session.reconnecting ≠ some c.session.generation := by
  rw [round.session, roundSession, unopened.session]
  rintro ⟨⟩

/-- When its own round has failed, an opening hands the session over. -/
theorem handsOver (round : InRound c 0 d) {f : Failure} (network : f.isNetwork = true) :
    ∃ b, InRound c 0 b ∧
      d.subscribeFailed (c.roundPurpose 0) f = b.handOff .opening c.session.generation := by
  refine ⟨d.note (.initialSubscriptionFailed f), round.congr (note_core d _), ?_⟩
  rw [roundPurpose, subscribeFailed, if_pos network]

/-- A round that has failed leads to the next one while the budget lasts. -/
theorem failed_next (round : InRound c r d) (unopened : c.Unopened)
    (left : r < c.config.reconnection.maxAttempts) {f : Failure} (network : f.isNetwork = true) :
    InRound c (r + 1) (d.subscribeFailed (c.roundPurpose r) f).1 ∧
    (d.subscribeFailed (c.roundPurpose r) f).2 =
      .wait (.scheduled (c.openingHandoff r) (c.attemptDelay r)) := by
  cases r with
  | zero =>
    obtain ⟨b, own, handed⟩ := round.handsOver network
    obtain ⟨core, waits⟩ := handOff_left own.current.generation .opening (own.down unopened)
      (by rw [own.session]; rfl) (by rwa [own.budget, own.config])
    have later : InRound c 1 (b.loseConnection c.session.generation).delayed :=
      ⟨own.config, own.factors, by simp [own.session, roundSession],
        by simp [own.budget, roundBudget]⟩
    refine handed ▸ ⟨later.congr core, waits.trans ?_⟩
    rw [nextDelay, own.config, own.factors, own.budget]
    rfl
  | succ r =>
    have counted : d.budget.attempts + 1 = r + 1 := by rw [round.attempts]
    obtain ⟨core, waits⟩ := attempted_left round.current network (by rwa [counted, round.config])
    have later : InRound c (r + 2) (d.withAttempts (d.budget.attempts + 1)).delayed :=
      ⟨round.config, round.factors, by simp [round.session, roundSession],
        by simp [round.budget, roundBudget, Nat.add_assoc]⟩
    refine ⟨later.congr core, waits.trans ?_⟩
    rw [nextDelay, counted, withAttempts_budget, round.budget]
    change Progress.wait (.scheduled _ (d.config.reconnection.delay (d.factors _) _)) = _
    rw [round.config, round.factors]
    rfl

/-- The delay before an attempt ends with the first call of its round. -/
theorem elapsed (round : InRound c (r + 1) d) (unopened : c.Unopened) (duration : Nat) :
    InRound c (r + 1) (d.elapsed (c.openingHandoff r)).1 ∧
    (d.elapsed (c.openingHandoff r)).2 = .wait (.subscribing (c.roundPurpose (r + 1)) 0) := by
  obtain ⟨b, advance, core⟩ := elapsed_advance round.current duration
  generalize (d.elapsed (c.openingHandoff r)).2 = progress at advance ⊢
  cases advance with
  | asksAtOnce => exact ⟨round.congr core, rfl⟩
  | takes _ _ id owned =>
    rw [round.session, roundSession, unopened.vacant] at owned
    cases owned

/-- The last round that the budget allows fails for good. -/
theorem failed_spent (round : InRound c r d) (unopened : c.Unopened)
    (last : c.config.reconnection.maxAttempts = r) {f : Failure} (network : f.isNetwork = true) :
    (d.subscribeFailed (c.roundPurpose r) f).1.Rests .failed none r ∧
    (d.subscribeFailed (c.roundPurpose r) f).2 = .ended (.error (.reconnection r)) := by
  cases r with
  | zero =>
    obtain ⟨b, own, handed⟩ := round.handsOver network
    have attempts : b.budget.attempts = 0 := by
      rw [own.budget]
      rfl
    obtain ⟨core, ended⟩ := handOff_spent own.current.generation .opening (own.down unopened)
      (by rw [own.session]; rfl) (by rw [own.config, last]; exact Nat.zero_le _)
    have rests : ((b.loseConnection c.session.generation).givenUp c.session.generation
        .failed).Rests .failed none 0 :=
      ⟨by simp, by simp [own.session, roundSession, unopened.vacant], by simp [attempts]⟩
    exact handed ▸ ⟨rests.congr core, ended.trans (by rw [attempts])⟩
  | succ r =>
    have attempts : d.budget.attempts + 1 = r + 1 := by rw [round.attempts]
    obtain ⟨core, ended⟩ := attempted_spent round.current network
      (Nat.le_of_eq (by rw [round.config, last, attempts]))
    have rests : ((d.withAttempts (d.budget.attempts + 1)).givenUp
        (c.openingHandoff r).generation .failed).Rests .failed none (r + 1) :=
      ⟨by simp, by simp [round.session, roundSession, unopened.vacant], by simp [attempts]⟩
    exact ⟨rests.congr core, ended.trans (by rw [attempts])⟩

/-- A subscription that is granted makes the client ready. -/
theorem granted (round : InRound c r d) (failed : Nat) (id : SubscriptionId) :
    (d.subscribed (c.roundPurpose r) failed (.returned id)).1.Rests .ready (some id) 0 ∧
    (d.subscribed (c.roundPurpose r) failed (.returned id)).2 = .ended (.ok ()) := by
  obtain ⟨e, advance, core⟩ := subscribed_advance round.current failed (.returned id) rfl
  generalize (d.subscribed (c.roundPurpose r) failed (.returned id)).2 = progress at advance ⊢
  cases r with
  | zero =>
    have budget := round.budget
    cases advance with
    | opens =>
      refine ⟨Rests.congr ⟨by simp, by simp, ?_⟩ core, rfl⟩
      rw [install_budget, budget]
      rfl
  | succ r =>
    cases advance with
    | recovers => exact ⟨Rests.congr ⟨by simp, by simp, by simp⟩ core, rfl⟩

/-- A round that fails for another reason than the network ends the opening. -/
theorem failed_refused (round : InRound c r d) (unopened : c.Unopened) {f : Failure}
    (other : f.isNetwork = false) (ordinary : f.isReconnection = false) :
    (d.subscribeFailed (c.roundPurpose r) f).1.Rests .uninitialized none 0 ∧
    (d.subscribeFailed (c.roundPurpose r) f).2 = .ended (.error f) := by
  cases r with
  | zero =>
    have current : d.session.generation = c.session.generation := round.current.generation
    rw [roundPurpose, subscribeFailed, if_neg (by simp [other]), setLifecycleIf, if_pos current]
    have rests : (d.setLifecycle .uninitialized).Rests .uninitialized none 0 :=
      ⟨rfl, by simp [round.session, roundSession, unopened.vacant],
        by simp [round.budget, roundBudget]⟩
    exact ⟨rests.congr rfl, rfl⟩
  | succ r =>
    obtain ⟨e, attempt, core⟩ := attempted_error round.current ordinary
    rw [roundPurpose, subscribeFailed]
    generalize (d.attempted (c.openingHandoff r) (.error f)).2 = progress at attempt ⊢
    cases attempt with
    | retries _ _ network | exhausted _ network =>
      exact absurd (network.symm.trans other) (by decide)
    | aborts =>
      exact ⟨Rests.congr ⟨by simp, by simp [round.session, roundSession, unopened.vacant],
        by simp⟩ core, rfl⟩

section Subscribed

variable (round : InRound c r d) {fault : Fault}
include round

/-- A lost call that is not the last of its round is made again after a pause. -/
theorem lost_again (lost : fault.isTransport = true) {failed : Nat}
    (more : failed + 1 < subscribeLimit) :
    InRound c r (d.subscribed (c.roundPurpose r) failed (.failed fault)).1 ∧
    (d.subscribed (c.roundPurpose r) failed (.failed fault)).2 =
      .wait (.pausing (c.roundPurpose r) (failed + 1)) := by
  simp only [subscribed, isNetwork_ofSubscribeFault, lost, more, if_true]
  exact ⟨round.congr rfl, trivial⟩

/-- With the last call of a round the round has failed. -/
theorem lost_last (lost : fault.isTransport = true) :
    ∃ b, InRound c r b ∧ d.subscribed (c.roundPurpose r) 2 (.failed fault) =
      b.subscribeFailed (c.roundPurpose r) (.ofSubscribeFault fault) := by
  simp only [subscribed, isNetwork_ofSubscribeFault, lost, if_true]
  exact ⟨_, round.congr (note_core d _), rfl⟩

theorem lost_next (unopened : c.Unopened) (left : r < c.config.reconnection.maxAttempts)
    (lost : fault.isTransport = true) :
    InRound c (r + 1) (d.subscribed (c.roundPurpose r) 2 (.failed fault)).1 ∧
    (d.subscribed (c.roundPurpose r) 2 (.failed fault)).2 =
      .wait (.scheduled (c.openingHandoff r) (c.attemptDelay r)) := by
  obtain ⟨b, last, failed⟩ := round.lost_last lost
  rw [failed]
  exact last.failed_next unopened left ((isNetwork_ofSubscribeFault fault).trans lost)

theorem lost_spent (unopened : c.Unopened) (spent : c.config.reconnection.maxAttempts = r)
    (lost : fault.isTransport = true) :
    (d.subscribed (c.roundPurpose r) 2 (.failed fault)).1.Rests .failed none r ∧
    (d.subscribed (c.roundPurpose r) 2 (.failed fault)).2 = .ended (.error (.reconnection r)) := by
  obtain ⟨b, last, failed⟩ := round.lost_last lost
  rw [failed]
  exact last.failed_spent unopened spent ((isNetwork_ofSubscribeFault fault).trans lost)

/-- A refusal is not asked for twice. -/
theorem refused (unopened : c.Unopened) (other : fault.isTransport = false) (failed : Nat) :
    (d.subscribed (c.roundPurpose r) failed (.failed fault)).1.Rests .uninitialized none 0 ∧
    (d.subscribed (c.roundPurpose r) failed (.failed fault)).2 =
      .ended (.error (.subscription none fault.message)) := by
  have means : Failure.ofSubscribeFault fault = .subscription none fault.message := by
    rw [Failure.ofSubscribeFault, if_neg (by simp [other])]
  simp only [subscribed, means]
  exact round.failed_refused unopened rfl rfl

end Subscribed

end InRound

end Client

end RandomBeacon
