import RandomBeacon.Proofs.Actions
import RandomBeacon.Proofs.Budgeted
import RandomBeacon.Proofs.Client.Attempt
import RandomBeacon.Proofs.Guard

/-!
What replies tell of the budget. That it is spent is told by hand-offs of the session at hand alone,
and only when as many attempts as the limit have failed (`run_told`).
-/

namespace RandomBeacon

/-- The failure that a reply tells of. -/
def Reply.failure? : Reply → Option Failure
  | finished (.error e) | requested (.error e) | found (.error e) => some e
  | _ => none

theorem Reply.of_requested {result : Except Failure Unit} {id : RequestId} {e : Failure}
    (tells : (Reply.requested (result.map fun _ => id)).failure? = some e) : result = .error e := by
  cases result with
  | ok => cases tells
  | error e' => rw [← Option.some.inj tells]

theorem Reply.of_found {result : Except Failure (Option Randomness)} {e : Failure}
    (tells : (Reply.found result).failure? = some e) : result = .error e := by
  cases result with
  | ok => cases tells
  | error e' => rw [← Option.some.inj tells]

theorem Failure.ofFault_isReconnection (fault : Fault) (r : Request) :
    (Failure.ofFault fault r).isReconnection = false := by
  unfold Failure.ofFault
  split <;> rfl

namespace Client

section Exchanges

variable {deadline n : Nat}

theorem submissionResult_told {op : Operation} {raced : Raced Receipt} :
    submissionResult op (raced.answer deadline) ≠ .error (.reconnection n) := by
  cases raced with
  | expired => simp [Raced.answer, submissionResult]
  | ended outcome =>
    cases outcome with
    | panicked detail => simp [Raced.answer, submissionResult]
    | failed fault =>
      have other := Failure.ofFault_isReconnection fault (.operation op)
      intro is
      rw [Except.error.inj is] at other
      cases other
    | returned receipt =>
      simp only [Raced.answer, submissionResult]
      split <;> simp

theorem queryResult_told {q : Query} {raced : Raced Lookup} :
    queryResult q (raced.answer deadline) ≠ .error (.reconnection n) := by
  cases raced with
  | expired => simp [Raced.answer, queryResult]
  | ended outcome =>
    cases outcome with
    | panicked detail => simp [Raced.answer, queryResult]
    | failed fault =>
      have other := Failure.ofFault_isReconnection fault (.query q)
      intro is
      rw [Except.error.inj is] at other
      cases other
    | returned lookup => simp [Raced.answer, queryResult]

end Exchanges

variable {c : Client} {n : Nat}

theorem openSession_told : c.openSession.2 ≠ .ended (.error (.reconnection n)) := by
  unfold openSession
  cases c.session.lifecycle with
  | uninitialized =>
    have begun := beginSubscribing_current
      (c := (c.setLifecycle .initializing).note (.initializing c.config.beaconAddress))
      (p := .opening c.session.generation) ⟨rfl, by simp⟩ 0
    simp only [begun]
    simp
  | ready | initializing | reconnecting | failed => simp [Failure.notReady]

theorem closeSession_told : c.closeSession.2 ≠ .ended (.error (.reconnection n)) := by
  unfold closeSession
  cases c.session.subscription <;> simp

variable {stages : List Stage} {s : Stage} {signal : s.Signal}

/-- While the budget is kept, an operation tells that it is spent only if it is. -/
theorem resume_told {b : Client} (same : b.core = c.core) (aligned : Aligned c stages)
    (budgeted : Budgeted c stages) (mem : s ∈ stages)
    (tells : (b.resume s signal).2 = .ended (.error (.reconnection n))) : n = c.limit := by
  have bounded := budgeted.bounded
  cases panics : s.panicked signal with
  | true =>
    rw [resume_panicked panics] at tells
    cases tells
  | false =>
    cases wants : s.purpose? with
    | none =>
      cases s with
      | closing id => cases signal <;> cases tells
      | subscribing | pausing | releasing | scheduled | dropping => cases wants
    | some p =>
      rcases aligned.current_or_stale mem wants with ⟨current, timely⟩ | ⟨stale, _⟩
      · obtain ⟨d, advance, _⟩ :=
          resume_advance wants (current.congr same.symm) timely signal panics
        obtain ⟨_, advance, _⟩ := advance.congr same
        rw [tells] at advance
        rcases advance.told with ⟨told, spent⟩ | ⟨told, spent, h, recovers⟩
        · have limit : c.limit ≤ c.budget.attempts := spent
          omega
        · obtain rfl := Option.some.inj (wants.symm.trans recovers)
          have limit : c.limit ≤ c.budget.attempts + 1 := spent
          have own : h.generation = c.session.generation := current.generation.symm
          have one : 0 < c.handoffs stages :=
            List.countP_pos_iff.mpr ⟨s, mem, Stage.recovers_of wants own⟩
          have single := budgeted.single
          have guarded := c.guards_le
          have left := budgeted.left (by omega)
          omega
      · obtain ⟨_, fade⟩ := resume_stale wants (stale.congr same) signal panics
        rw [tells] at fade
        exact absurd fade Fades.told

/-- A hand-off of a lost call likewise. -/
theorem recoverSession_told {generation : Nat} (budgeted : Budgeted c stages)
    (tells : (c.recoverSession generation).2 = .ended (.error (.reconnection n))) :
    n = c.limit := by
  have bounded := budgeted.bounded
  by_cases current : c.session.generation = generation
  · obtain ⟨_, handed, _⟩ := handOff_begins current .lostCall
    rw [← recoverSession, tells] at handed
    obtain ⟨told, spent⟩ := handed.told
    have limit : c.limit ≤ c.budget.attempts := spent
    omega
  · rw [recoverSession, (handOff_stale current).2] at tells
    cases tells

end Client

namespace World

variable {π : Type} {reply : Reply} {n : Nat}

theorem watchReady_told {now deadline : Nat} {w : World π}
    (ended : (w.watchReady now deadline).next = .ended reply) : reply.failure? = none := by
  unfold watchReady at ended
  split at ended
  · cases ended
    rfl
  · cases ended
    rfl
  · split at ended
    · cases ended
      rfl
    · cases ended

variable [Provider π]

theorem proceed_told {now : Nat} {spawned : List (Option Nat × Work π)} {w : World π}
    {step : Client × Progress} {e : Failure}
    (ended : (w.proceed now spawned step).next = .ended reply) (tells : reply.failure? = some e) :
    step.2 = .ended (.error e) := by
  obtain ⟨c, progress⟩ := step
  cases progress with
  | wait s => cases ended
  | lost =>
    cases ended
    cases tells
  | ended result =>
    cases ended
    cases result with
    | ok => cases tells
    | error e' => rw [← Option.some.inj tells]

/-- Nobody is told that the budget is spent unless as many attempts as the limit have failed. -/
theorem run_told {now : Nat} {w : World π} {work : Work π} {stages : List Stage}
    (aligned : Aligned w.client stages) (budgeted : Budgeted w.client stages)
    (waits : ∀ s, work.stage? = some s → s ∈ stages)
    (ended : (w.run now work).next = .ended reply)
    (tells : reply.failure? = some (.reconnection n)) : n = w.client.limit := by
  cases work with
  | errand errand =>
    cases errand with
    | openSession => exact absurd (proceed_told ended tells) Client.openSession_told
    | closeSession => exact absurd (proceed_told ended tells) Client.closeSession_told
    | request handler =>
      simp only [run, begin, Client.admitRequest, Client.readyGeneration] at ended
      by_cases ready : (w.nameRequest now).2.client.session.lifecycle = .ready
      · simp only [if_pos ready, Except.map] at ended
        cases ended
      · simp only [if_neg ready, Except.map] at ended
        cases ended
        cases tells
    | query q =>
      simp only [run, begin, Client.readyGeneration] at ended
      by_cases ready : w.client.session.lifecycle = .ready
      · simp only [if_pos ready] at ended
        cases ended
      · simp only [if_neg ready] at ended
        cases ended
        cases tells
    | awaitReady limit => rw [watchReady_told ended] at tells; cases tells
    | chain | account => cases ended
  | recovery generation =>
    exact Client.recoverSession_told budgeted (proceed_told ended tells)
  | operation s pending =>
    exact Client.resume_told (finish_core now pending w) aligned budgeted (waits s rfl)
      (proceed_told ended tells)
  | submitting name id op generation exchange =>
    cases ended
    exact absurd (Reply.of_requested tells) Client.submissionResult_told
  | querying q generation exchange =>
    cases ended
    exact absurd (Reply.of_found tells) Client.queryResult_told
  | calling d exchange => cases d <;> cases ended
  | watching deadline seen => rw [watchReady_told ended] at tells; cases tells
  | inFlight | publishing | askingChain | askingAccount =>
    cases ended
    cases tells

end World

end RandomBeacon
