import RandomBeacon.Proofs.Turns

/-!
The calls of a world are never forgotten (`calls_run`), a stage that releases a subscription has
asked the provider for it (`asked_run`), and only a detached submission submits (`submitted_run`).
-/

namespace RandomBeacon

/-- The subscription whose release a stage waits for. -/
def Stage.released? : Stage → Option SubscriptionId
  | releasing _ id | dropping _ id | closing id => some id
  | subscribing _ _ | pausing _ _ | scheduled _ _ => none

/-- The operation that a call submits. -/
def Call.submitted? : Call → Option Operation
  | submit op _ => some op
  | _ => none

/-- The operation that the turn of a task submits. -/
def Work.submits? {π : Type} : Work π → Option Operation
  | calling (.submit op) _ => some op
  | _ => none

namespace World

variable {π : Type}

/-- The operations that have been submitted, newest first. -/
def submitted (w : World π) : List Operation := w.calls.filterMap (·.2.submitted?)

/-- Whether the release of a subscription has been asked for. -/
def asked (w : World π) (id : SubscriptionId) : Bool := w.calls.any (·.2 = .unsubscribe id)

theorem asked_of_suffix {w v : World π} (suffix : w.calls <:+ v.calls) {id : SubscriptionId}
    (was : w.asked id = true) : v.asked id = true := by
  obtain ⟨call, mem, same⟩ := List.any_eq_true.mp was
  exact List.any_eq_true.mpr ⟨call, suffix.subset mem, same⟩

theorem calls_watchReady (now deadline : Nat) (w : World π) :
    (w.watchReady now deadline).state.calls = w.calls :=
  congrArg World.calls (World.watchReady_state now deadline w)

variable [Provider π]

theorem asked_call_other {c : Call} (other : ∀ id, c ≠ .unsubscribe id) (now : Nat) (w : World π) :
    (w.call now c).2.asked = w.asked := by
  funext id
  simp [asked, call, other id]

theorem asked_call_unsubscribe (now : Nat) (id : SubscriptionId) (w : World π) :
    (w.call now (.unsubscribe id)).2.asked = fun other => decide (other = id) || w.asked other := by
  funext other
  simp [asked, call, eq_comm]

theorem calls_enter (now : Nat) (s : Stage) (w : World π) :
    w.calls <:+ (w.enter now s).2.calls := by
  cases s with
  | pausing | scheduled => exact List.suffix_refl _
  | subscribing | releasing | dropping | closing => exact List.suffix_cons _ _

theorem calls_proceed (now : Nat) (spawned : List (Option Nat × Work π)) (w : World π)
    (step : Client × Progress) : w.calls <:+ (w.proceed now spawned step).state.calls := by
  obtain ⟨c, progress⟩ := step
  cases progress with
  | wait stage => exact calls_enter now stage (w.withClient c)
  | ended | lost => exact List.suffix_refl _

/-- Calls are never forgotten. -/
theorem calls_run (now : Nat) (w : World π) (work : Work π) :
    w.calls <:+ (w.run now work).state.calls := by
  cases work with
  | errand e =>
    cases e with
    | openSession | closeSession => exact calls_proceed now _ w _
    | request handler =>
      simp only [World.run, World.begin]
      split <;> exact List.suffix_refl _
    | query q =>
      simp only [World.run, World.begin]
      split <;> exact List.suffix_refl _
    | awaitReady limit => exact (calls_watchReady now _ w).symm ▸ List.suffix_refl w.calls
    | chain | account => exact List.suffix_cons _ _
  | recovery generation => exact calls_proceed now _ w _
  | operation s pending => exact calls_proceed now _ (w.finish now pending).2.1 _
  | submitting name id op generation exchange =>
    simp only [World.run]
    split <;> exact List.suffix_refl _
  | querying | inFlight | publishing | askingChain | askingAccount => exact List.suffix_refl _
  | calling d exchange => cases d <;> exact List.suffix_cons _ _
  | watching deadline seen => exact (calls_watchReady now _ w).symm ▸ List.suffix_refl w.calls

/-- A stage that releases a subscription has asked for it. -/
theorem asked_enter {s : Stage} {id : SubscriptionId} (releases : s.released? = some id) (now : Nat)
    (w : World π) : (w.enter now s).2.asked id = true := by
  cases s with
  | subscribing | pausing | scheduled => cases releases
  | releasing | dropping | closing =>
    obtain rfl := Option.some.inj releases
    simp [asked, World.enter, World.call]

/-- The stages that a turn begins ask for what they release. -/
theorem asked_run (now : Nat) (w : World π) (work : Work π) :
    ∀ s ∈ stagesOf (w.run now work).works, ∀ id, s.released? = some id →
      (w.run now work).state.asked id = true := by
  have proceeds (spawned : List (Option Nat × Work π)) (w : World π) (step : Client × Progress)
      (quiet : stagesOf (spawned.map (·.2)) = []) :
      ∀ s ∈ stagesOf (w.proceed now spawned step).works, ∀ id, s.released? = some id →
        (w.proceed now spawned step).state.asked id = true := by
    intro s mem id releases
    rw [proceed_stages, quiet, List.append_nil] at mem
    obtain ⟨c, progress⟩ := step
    cases progress with
    | ended | lost => cases mem
    | wait stage =>
      obtain rfl := List.mem_singleton.mp mem
      exact asked_enter releases now (w.withClient c)
  have serves (serves : work.event w = .serve) :
      ∀ s ∈ stagesOf (w.run now work).works, ∀ id, s.released? = some id →
        (w.run now work).state.asked id = true := by
    have move := run_move now w work
    rw [serves] at move
    generalize stagesOf (w.run now work).works = new at move
    cases move
    rintro s ⟨⟩
  cases work with
  | errand e =>
    cases e with
    | openSession | closeSession => exact proceeds [] w _ rfl
    | request | query | awaitReady | chain | account => exact serves rfl
  | recovery generation => exact proceeds [] w _ rfl
  | operation s pending =>
    exact proceeds _ (w.finish now pending).2.1 _ (finish_stages now pending w)
  | submitting | querying | calling | inFlight | publishing | watching | askingChain
  | askingAccount => exact serves rfl

theorem submitted_call {c : Call} (now : Nat) (w : World π) :
    (w.call now c).2.submitted = c.submitted?.toList ++ w.submitted := by
  cases c <;> rfl

theorem submitted_proceed (now : Nat) (spawned : List (Option Nat × Work π)) (w : World π)
    (step : Client × Progress) : (w.proceed now spawned step).state.submitted = w.submitted := by
  obtain ⟨c, progress⟩ := step
  cases progress with
  | wait stage => cases stage <;> rfl
  | ended | lost => rfl

/-- Only a detached submission submits an operation. -/
theorem submitted_run (now : Nat) (w : World π) (work : Work π) :
    (w.run now work).state.submitted = work.submits?.toList ++ w.submitted := by
  cases work with
  | errand e =>
    cases e with
    | openSession | closeSession => exact submitted_proceed now [] w _
    | request handler =>
      simp only [World.run, World.begin]
      split <;> rfl
    | query q =>
      simp only [World.run, World.begin]
      split <;> rfl
    | awaitReady limit => exact congrArg (List.filterMap _) (calls_watchReady now _ w)
    | chain | account => rfl
  | recovery generation => exact submitted_proceed now [] w _
  | operation s pending => exact submitted_proceed now _ (w.finish now pending).2.1 _
  | submitting name id op generation exchange =>
    simp only [World.run]
    split <;> rfl
  | querying | inFlight | publishing | askingChain | askingAccount => rfl
  | calling d exchange => cases d <;> exact submitted_call now w
  | watching deadline seen => exact congrArg (List.filterMap _) (calls_watchReady now _ w)

end World

end RandomBeacon
