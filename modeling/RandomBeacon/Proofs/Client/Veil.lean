import RandomBeacon.Client.Session

/-!
What an operation of the session does not see. It reads neither the handlers nor what has been told
so far, so a change of these (`Veil`) may as well be made after the operation as before
(`Veil.resume`).
-/

namespace RandomBeacon

/-- Whether a notice is of a handler that has failed. -/
def Notice.ofHandler : Notice → Bool
  | callbackFailed _ _ _ | handlerFailed _ _ _ => true
  | _ => false

/-- A change of the handlers, and of what is told of other things than operations of the session. -/
structure Veil where
  handler : ClientHandler → ClientHandler := id
  metrics : Metrics → Metrics
  journal : List Notice → List Notice := id
  reconnection : ∀ m result,
    metrics (m.recordReconnection result) = (metrics m).recordReconnection result
  attempt : ∀ m, metrics m.recordReconnectAttempt = (metrics m).recordReconnectAttempt
  noted : ∀ n ns, n.ofHandler = false → journal (n :: ns) = n :: journal ns

/-- An entry of a registry, its handler changed. -/
def Registration.alter (f : ClientHandler → ClientHandler) (entry : Registration Listener) :
    Registration Listener :=
  { entry with handler := match entry.handler with
    | .user handler => .user (f handler)
    | .dispatch => .dispatch }

namespace Veil

variable (v : Veil)

def client (c : Client) : Client :=
  { c with
    registry := { c.registry with entries := c.registry.entries.map (·.alter v.handler) }
    callbacks := c.callbacks.map fun callback => (callback.1, v.handler callback.2)
    metrics := v.metrics c.metrics
    journal := v.journal c.journal }

/-- What an operation makes of a client, seen through the veil. -/
def step (x : Client × Progress) : Client × Progress := (v.client x.1, x.2)

variable (c : Client)

theorem note (n : Notice) (plain : n.ofHandler = false) :
    v.client (c.note n) = (v.client c).note n := by
  simp only [client, Client.note, v.noted n _ plain]

theorem noteAll {ns : List Notice} (plain : ∀ n ∈ ns, n.ofHandler = false) :
    v.client (c.noteAll ns) = (v.client c).noteAll ns := by
  induction ns generalizing c with
  | nil => rfl
  | cons n rest ih =>
    have first := v.note c n (plain n List.mem_cons_self)
    have later := ih (c.note n) fun n mem => plain n (List.mem_cons_of_mem _ mem)
    rw [first] at later
    exact later

theorem recordReconnection (result : ReconnectionEnd) :
    v.client (c.recordReconnection result) = (v.client c).recordReconnection result := by
  simp only [client, Client.recordReconnection, v.reconnection]

theorem setLifecycleIf (generation : Nat) (l : Lifecycle) :
    v.client (c.setLifecycleIf generation l) = (v.client c).setLifecycleIf generation l :=
  apply_ite v.client _ _ _

theorem transition (generation : Nat) (source target : Lifecycle) :
    v.client (c.transition generation source target) =
      (v.client c).transition generation source target :=
  apply_ite v.client _ _ _

theorem clearReconnecting (generation : Nat) :
    v.client (c.clearReconnecting generation) = (v.client c).clearReconnecting generation :=
  apply_ite v.client _ _ _

theorem readyGeneration : (v.client c).readyGeneration = c.readyGeneration := rfl

/-- The registry gives and takes the same numbers. -/
theorem subscribeListener_dispatch :
    v.client (c.subscribeListener .dispatch) = (v.client c).subscribeListener .dispatch := by
  rw [Client.subscribeListener, v.note _ _ rfl]
  simp [client, Client.subscribeListener, Registry.subscribe, Client.note, Registration.alter]

theorem contains (number : Nat) :
    (v.client c).registry.contains number = c.registry.contains number := by
  simp [client, Registry.contains, List.any_map, Registration.alter, Function.comp_def]

theorem unsubscribeListener (number : Nat) :
    (v.client c).unsubscribeListener number =
      ((c.unsubscribeListener number).1, v.client (c.unsubscribeListener number).2) := by
  unfold Client.unsubscribeListener
  rw [v.contains]
  split
  · simp [client, Registry.unsubscribe, List.filter_map, Registration.alter, Function.comp_def]
  · rw [v.note c _ rfl]

theorem finishOpening (generation : Nat) :
    (v.client c).finishOpening generation = v.step (c.finishOpening generation) := by
  unfold Client.finishOpening
  rw [v.readyGeneration]
  cases c.readyGeneration with
  | ok current => rw [step, v.note c _ rfl]
  | error e => rw [step, v.transition]

theorem handedOff (starter : Starter) (generation : Nat) (result : Except Failure Unit) :
    (v.client c).handedOff starter generation result =
      v.step (c.handedOff starter generation result) := by
  cases starter with
  | opening =>
    cases result with
    | ok => exact v.finishOpening c generation
    | error e => rfl
  | lostCall =>
    cases result with
    | ok => rfl
    | error e => rw [Client.handedOff, Client.handedOff, step, v.note c _ rfl]

theorem loopEnded (h : Handoff) (result : Except Failure Unit) :
    (v.client c).loopEnded h result = v.step (c.loopEnded h result) := by
  unfold Client.loopEnded
  rw [← v.handedOff]
  cases result with
  | ok => rw [v.note _ _ rfl, v.recordReconnection, v.clearReconnecting]
  | error e =>
    by_cases spent : e.isReconnection = true
    · simp only [if_pos spent]
      rw [v.note _ _ rfl, v.setLifecycleIf, v.recordReconnection, v.clearReconnecting]
    · simp only [if_neg spent, v.setLifecycleIf, v.recordReconnection, v.clearReconnecting]

theorem followLoop (h : Handoff) {turn : LoopTurn}
    (plain : ∀ n ∈ turn.notices, n.ofHandler = false) :
    (v.client c).followLoop h turn = v.step (c.followLoop h turn) := by
  have noted := v.noteAll { c with budget := turn.budget } plain
  unfold Client.followLoop
  cases turn.next with
  | delay attempt duration => exact congrArg (·, _) noted.symm
  | ended result =>
    rw [← v.loopEnded, noted]
    rfl

/-- The notices of a reconnection loop are of no handler. -/
theorem schedule_plain (p : Pacing) (epoch : Nat) (b : Budget) :
    ∀ n ∈ (b.schedule p epoch).notices, n.ofHandler = false := by
  unfold Budget.schedule
  split
  · simp
  · split <;> simp [Notice.ofHandler]

theorem settle_plain (p : Pacing) (epoch attempt : Nat) (outcome : Except Failure Unit)
    (b : Budget) : ∀ n ∈ (b.settle p epoch attempt outcome).notices, n.ofHandler = false := by
  have scheduled := schedule_plain p epoch { b with attempts := b.attempts + 1 }
  unfold Budget.settle
  split
  · simp [Notice.ofHandler]
  · cases outcome with
    | ok => simp [Notice.ofHandler]
    | error e =>
      simp only
      split
      · split
        · simp [Notice.ofHandler]
        · exact List.forall_mem_cons.mpr ⟨rfl, scheduled⟩
      · simp [Notice.ofHandler]

theorem elapse_plain {epoch : Nat} {b : Budget} {turn : LoopTurn}
    (ends : b.elapse epoch = some turn) :
    ∀ n ∈ turn.notices, n.ofHandler = false := by
  unfold Budget.elapse at ends
  split at ends
  · cases ends
  · cases ends
    simp [Notice.ofHandler]

theorem attempted (h : Handoff) (outcome : Except Failure Unit) :
    (v.client c).attempted h outcome = v.step (c.attempted h outcome) :=
  v.followLoop c h (settle_plain _ _ _ _ _)

theorem handOff (starter : Starter) (generation : Nat) :
    (v.client c).handOff starter generation = v.step (c.handOff starter generation) := by
  have same : (v.client c).session = c.session := rfl
  unfold Client.handOff
  rw [same]
  by_cases passed : c.session.generation ≠ generation
  · rw [if_pos passed, if_pos passed, ← v.note c _ rfl, v.handedOff]
  · rw [if_neg passed, if_neg passed]
    by_cases busy : c.session.reconnecting = some generation
    · rw [if_pos busy, if_pos busy, ← v.note c _ rfl, v.handedOff]
    · rw [if_neg busy, if_neg busy]
      have lost : (v.client c).loseConnection generation =
          v.client (c.loseConnection generation) := by
        rw [Client.loseConnection, Client.loseConnection, v.note _ _ rfl]
        rfl
      cases c.session.lifecycle with
      | ready | initializing =>
        simp only [lost]
        exact v.followLoop _ _ (schedule_plain _ _ _)
      | uninitialized | reconnecting | failed =>
        rw [← v.handedOff, v.note _ _ rfl]

theorem subscribeFailed (p : Purpose) (e : Failure) :
    (v.client c).subscribeFailed p e = v.step (c.subscribeFailed p e) := by
  cases p with
  | recovering h => exact v.attempted c h (.error e)
  | opening generation =>
    simp only [Client.subscribeFailed]
    by_cases network : e.isNetwork = true
    · rw [if_pos network, if_pos network, ← v.handOff, v.note _ _ rfl]
    · rw [if_neg network, if_neg network, step, v.note _ _ rfl, v.setLifecycleIf]

theorem beginSubscribing (p : Purpose) (failed : Nat) :
    (v.client c).beginSubscribing p failed = v.step (c.beginSubscribing p failed) := by
  have same : (v.client c).session = c.session := rfl
  unfold Client.beginSubscribing
  rw [same]
  split
  · rfl
  · exact v.subscribeFailed c p _

theorem install (id : SubscriptionId) : (v.client c).install id = v.client (c.install id) := by
  have removed : (v.client c).session.dispatch.elim (v.client c)
      (fun old => ((v.client c).unsubscribeListener old).2) =
      v.client (c.session.dispatch.elim c fun old => (c.unsubscribeListener old).2) := by
    have same : (v.client c).session = c.session := rfl
    rw [same]
    cases c.session.dispatch with
    | none => rfl
    | some old => exact congrArg Prod.snd (v.unsubscribeListener c old)
  unfold Client.install
  simp only [removed, ← v.subscribeListener_dispatch]
  rfl

theorem commit (p : Purpose) (id : SubscriptionId) :
    (v.client c).commit p id = v.step (c.commit p id) := by
  have same : (v.client c).session = c.session := rfl
  unfold Client.commit
  rw [same]
  split
  · cases p with
    | opening generation =>
      simp only [v.install]
      exact v.finishOpening _ _
    | recovering h =>
      simp only [v.install]
      exact v.attempted _ _ _
  · rw [step, v.note c _ rfl]

theorem subscribed (p : Purpose) (failed : Nat) (outcome : Outcome SubscriptionId) :
    (v.client c).subscribed p failed outcome = v.step (c.subscribed p failed outcome) := by
  cases outcome with
  | panicked detail => rfl
  | returned id =>
    rw [Client.subscribed, Client.subscribed, ← v.commit, v.note _ _ rfl]
  | failed fault =>
    simp only [Client.subscribed]
    split
    · split
      · rw [step, v.note _ _ rfl]
      · rw [← v.subscribeFailed, v.note _ _ rfl]
    · exact v.subscribeFailed c p _

theorem released (p : Purpose) (id : SubscriptionId) (outcome : Outcome Unit) :
    (v.client c).released p id outcome = v.step (c.released p id outcome) := by
  cases outcome with
  | panicked detail => rfl
  | returned =>
    cases p with
    | opening generation => rfl
    | recovering h => exact v.attempted c h _
  | failed fault =>
    cases p with
    | opening generation =>
      simp only [Client.released, step, v.note c (.releaseFailed id fault) rfl]
    | recovering h =>
      simp only [Client.released, ← v.attempted, v.note c (.releaseFailed id fault) rfl]

theorem resubscribe (h : Handoff) : (v.client c).resubscribe h = v.step (c.resubscribe h) := by
  have same : (v.client c).session = c.session := rfl
  unfold Client.resubscribe
  rw [same]
  by_cases passed : c.session.generation ≠ h.generation
  · rw [if_pos passed, if_pos passed, v.attempted]
  · rw [if_neg passed, if_neg passed]
    cases c.session.subscription with
    | some id => rfl
    | none => exact v.beginSubscribing c _ _

theorem elapsed (h : Handoff) : (v.client c).elapsed h = v.step (c.elapsed h) := by
  have same : (v.client c).budget = c.budget := rfl
  unfold Client.elapsed
  rw [same]
  cases ends : c.budget.elapse h.epoch with
  | some turn => exact v.followLoop c h (elapse_plain ends)
  | none =>
    simp only [← v.resubscribe]
    simp only [client, v.attempt]

theorem dropped (h : Handoff) (id : SubscriptionId) (outcome : Outcome Unit) :
    (v.client c).dropped h id outcome = v.step (c.dropped h id outcome) := by
  cases outcome with
  | panicked detail => rfl
  | returned => exact v.beginSubscribing c _ _
  | failed fault => rw [Client.dropped, Client.dropped, ← v.beginSubscribing, v.note _ _ rfl]

theorem sessionClosed (id : SubscriptionId) (outcome : Outcome Unit) :
    (v.client c).sessionClosed id outcome = v.step (c.sessionClosed id outcome) := by
  cases outcome with
  | panicked detail => rfl
  | returned => rw [Client.sessionClosed, Client.sessionClosed, step, v.note _ _ rfl]
  | failed fault =>
    rw [Client.sessionClosed, Client.sessionClosed, step, v.note _ _ rfl, v.note _ _ rfl]

/-- An operation goes on behind the veil as it does without. -/
theorem resume (s : Stage) (signal : s.Signal) :
    (v.client c).resume s signal = v.step (c.resume s signal) := by
  cases s with
  | subscribing p failed => exact v.subscribed c p failed signal
  | pausing p failed => exact v.beginSubscribing c p failed
  | releasing p id => exact v.released c p id signal
  | scheduled h duration => exact v.elapsed c h
  | dropping h id => exact v.dropped c h id signal
  | closing id => exact v.sessionClosed c id signal

theorem openSession : (v.client c).openSession = v.step c.openSession := by
  have same : (v.client c).session = c.session := rfl
  unfold Client.openSession
  rw [same]
  cases c.session.lifecycle with
  | uninitialized =>
    simp only
    rw [← v.beginSubscribing, v.note _ _ rfl]
    rfl
  | ready | initializing | reconnecting | failed => rfl

/-- The gauge of pending callbacks, covered with a reading. -/
def gauge (reading : Option Nat) : Veil where
  metrics m := { m with pendingCallbacks := reading }
  reconnection _ _ := rfl
  attempt _ := rfl
  noted _ _ _ := rfl

/-- Nothing is covered by what was there anyway. -/
theorem gauge_client : (gauge c.metrics.pendingCallbacks).client c = c := by
  have altered (entry : Registration Listener) : entry.alter id = entry := by
    obtain ⟨number, topic, handler⟩ := entry
    cases handler <;> rfl
  have entries : c.registry.entries.map (·.alter id) = c.registry.entries := by simp [altered]
  simp [client, gauge, entries]

/-- What goes on behind every covering of the gauge leaves the gauge alone. -/
theorem kept {f : Client → Client × Progress}
    (veiled : ∀ v : Veil, f (v.client c) = v.step (f c)) :
    (f c).1.metrics.pendingCallbacks = c.metrics.pendingCallbacks := by
  have covered := veiled (gauge c.metrics.pendingCallbacks)
  rw [gauge_client] at covered
  rw [covered]
  rfl

end Veil

end RandomBeacon
