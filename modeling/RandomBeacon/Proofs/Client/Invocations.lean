import RandomBeacon.Proofs.Client.Settlements

/-!
What the delivery of a round counts. The incidents of a delivery are written down in the order in
which they happen: every invocation of a listener or a callback with its ending, and every run of
the dispatch handler (`Scene.deliverIncidents`). A delivery counts these and nothing else
(`Scene.deliver_hears`): the run of the dispatch handler is no invocation of its own, and what fails
in it is counted where it fails.
-/

namespace RandomBeacon

namespace Scene

/-- What happens when a handler is invoked. -/
def invokeIncidents (r : Randomness) (handler : ClientHandler) (s : Scene) : List Incident :=
  [.invokes (invoke r handler s).1]

/-- What happens in a run of the dispatch handler. -/
def dispatchIncidents (r : Randomness) (s : Scene) : List Incident :=
  .dispatches :: recorded (attendCallback r) (fun s entry => s.invokeIncidents r entry.2)
    s.client.callbacks { s with client := s.client.recordDispatch r }

/-- What happens in the turn of an entry of the registry. -/
def attendIncidents (r : Randomness) (s : Scene) (entry : Registration Listener) : List Incident :=
  match entry.handler with
  | .user handler => s.invokeIncidents r handler
  | .dispatch => s.dispatchIncidents r

/-- What happens in a delivery. -/
def deliverIncidents (r : Round) (s : Scene) : List Incident :=
  recorded (attendListener r.result) (attendIncidents r.result)
    (s.client.registry.audience .randomnessPublished) s

/-- A scene becomes another while handlers are invoked: counters and the number of invocations go by
what happens, and nothing happens but invocations and runs of the dispatch handler. -/
structure Hears (s : Scene) (incidents : List Incident) (t : Scene) : Prop where
  counts : s.client.metrics.Counts incidents t.client.metrics
  invocations : t.host.invocations = s.host.invocations + incidents.countP Incident.isInvocation
  delivery : ∀ incident ∈ incidents, incident.ofDelivery

namespace Hears

variable {s t u : Scene} {incidents more : List Incident}

theorem refl (s : Scene) : s.Hears [] s := ⟨.refl _, rfl, by rintro incident ⟨⟩⟩

theorem trans (before : s.Hears incidents t) (after : t.Hears more u) :
    s.Hears (incidents ++ more) u := by
  refine ⟨before.counts.trans after.counts, ?_, ?_⟩
  · rw [after.invocations, before.invocations, List.countP_append, Nat.add_assoc]
  · intro incident mem
    rcases List.mem_append.mp mem with old | new
    · exact before.delivery incident old
    · exact after.delivery incident new

/-- Nothing else happens meanwhile. -/
theorem countP_other (hears : s.Hears incidents t) {kind : Incident → Bool}
    (dispatches : kind .dispatches = false) (invokes : ∀ ending, kind (.invokes ending) = false) :
    incidents.countP kind = 0 := by
  apply List.countP_eq_zero.mpr
  intro incident mem
  have delivered := hears.delivery incident mem
  cases incident with
  | dispatches => simp [dispatches]
  | invokes ending => simp [invokes ending]
  | admits | concludes | handsOver | resubscribes | settles => cases delivered

end Hears

/-- Turns that are heard of one after the other are heard of together. -/
theorem recorded_hears {α : Type} {act : Scene → α → Scene} {record : Scene → α → List Incident}
    {actions : List α} (step : ∀ s : Scene, ∀ a ∈ actions, s.Hears (record s a) (act s a))
    (s : Scene) : s.Hears (recorded act record actions s) (actions.foldl act s) :=
  recorded_relates (P := fun _ => True) (R := Hears) (fun s _ => .refl s)
    (fun _ _ _ _ _ before after => before.trans after) (fun _ _ _ _ => trivial)
    (fun s a mem _ => step s a mem) trivial

variable (s : Scene)

/-- No act of a handler counts anything but the pending callbacks. -/
theorem perform_hears (act : Act Randomness ClientOrder) : s.Hears [] (s.perform act) := by
  have quiet {t : Scene} (counts : s.client.metrics.Counts [] t.client.metrics)
      (same : t.host.invocations = s.host.invocations) : s.Hears [] t :=
    ⟨counts, same, by rintro incident ⟨⟩⟩
  cases act with
  | register handler => exact quiet (.refl _) rfl
  | command order =>
    cases order with
    | cancel name =>
      simp only [perform, cancel]
      cases s.host.requests.lookup name with
      | none => exact .refl s
      | some id => exact quiet (s.client.metrics.counts_pending _) rfl
    | unlisten name =>
      simp only [perform, unlisten]
      cases s.host.listeners.lookup name with
      | none => exact .refl s
      | some number =>
        refine quiet ?_ rfl
        rw [Client.unsubscribeListener_metrics]
        exact .refl _

theorem performs_hears (acts : List (Act Randomness ClientOrder)) :
    s.Hears [] (acts.foldl perform s) := by
  induction acts generalizing s with
  | nil => exact .refl s
  | cons act rest ih => exact (s.perform_hears act).trans (ih _)

/-- The turn of a handler is one invocation, and it is counted if it has failed and only then.
Reports on callbacks and on listeners do the same to the counters. -/
theorem attend_hears {η : Type} (handler : η → ClientHandler) (report : η → String → Scene → Scene)
    (r : Randomness) (h : η) (reports : ∀ reason t, (report h reason t).host = t.host ∧
      (report h reason t).client.metrics = t.client.metrics.recordCallbackFailure) :
    s.Hears (s.invokeIncidents r (handler h))
      (attend (fun h s => invoke r (handler h) s) report s h) := by
  have acted := (s.hearing r (handler h)).performs_hears
    ((handler h).acts s.host.invocations r)
  have invoked (t : Scene) (same : t.host.invocations = (invoke r (handler h) s).2.host.invocations)
      (counts : (invoke r (handler h) s).2.client.metrics.Counts
        (s.invokeIncidents r (handler h)) t.client.metrics) :
      s.Hears (s.invokeIncidents r (handler h)) t := by
    refine ⟨acted.counts.trans counts, same.trans acted.invocations, ?_⟩
    intro incident mem
    rw [List.mem_singleton.mp mem]
    rfl
  unfold attend
  cases failure : (invoke r (handler h) s).1.failure? with
  | none => exact invoked _ rfl (Metrics.counts_completed _ failure)
  | some reason =>
    obtain ⟨host, metrics⟩ := reports reason (invoke r (handler h) s).2
    refine invoked _ (congrArg _ host) ?_
    rw [metrics]
    exact Metrics.counts_failed _ (by rw [failure]; rfl)

theorem dispatch_hears (r : Randomness) : s.Hears (s.dispatchIncidents r) (dispatch r s) := by
  have begun : s.Hears [.dispatches] { s with client := s.client.recordDispatch r } := by
    refine ⟨s.client.metrics.counts_dispatch, rfl, ?_⟩
    intro incident mem
    rw [List.mem_singleton.mp mem]
    rfl
  rw [dispatch_eq]
  refine begun.trans (recorded_hears ?_ _)
  intro s entry _
  exact s.attend_hears Prod.snd (fun entry => reportCallback r entry.1) r entry
    fun _ _ => ⟨rfl, rfl⟩

theorem attendListener_hears (r : Randomness) (entry : Registration Listener) :
    s.Hears (s.attendIncidents r entry) (attendListener r s entry) := by
  obtain ⟨number, topic, listener⟩ := entry
  cases listener with
  | user handler =>
    exact s.attend_hears (fun _ => handler) reportListener r ⟨number, topic, .user handler⟩
      fun _ _ => ⟨rfl, rfl⟩
  | dispatch => exact s.dispatch_hears r

/-- A delivery counts the invocations that fail in it and the runs of the dispatch handler. -/
theorem deliver_hears (r : Round) : s.Hears (s.deliverIncidents r) (s.deliver r) := by
  rw [deliver_eq]
  exact recorded_hears (fun s entry _ => s.attendListener_hears r.result entry) s

end Scene

end RandomBeacon
