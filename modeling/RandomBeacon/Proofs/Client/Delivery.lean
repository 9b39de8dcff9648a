import RandomBeacon.Client.Delivery
import RandomBeacon.Proofs.Client.Core

/-!
What the delivery of a round leaves alone. Handlers act on the registry and on the callbacks and
on nothing else, so a property that survives their acts and their being heard survives a delivery
(`deliver_preserves`); the session is such a thing (`deliver_standing`).
-/

namespace RandomBeacon

section Recorded

variable {σ α β : Type} (act : σ → α → σ) (record : σ → α → List β)

/-- What is written down while actions are taken one after the other. -/
def recorded : List α → σ → List β
  | [], _ => []
  | a :: rest, s => record s a ++ recorded rest (act s a)

variable {act record}

/-- What relates the states before and after each action to what is written down relates those
before and after all of them to all that is. -/
theorem recorded_relates {P : σ → Prop} {R : σ → List β → σ → Prop} {actions : List α}
    (start : ∀ s, P s → R s [] s)
    (trans : ∀ s xs t ys u, R s xs t → R t ys u → R s (xs ++ ys) u)
    (keeps : ∀ s xs t, R s xs t → P t)
    (step : ∀ s, ∀ a ∈ actions, P s → R s (record s a) (act s a)) {s : σ} (holds : P s) :
    R s (recorded act record actions s) (actions.foldl act s) := by
  induction actions generalizing s with
  | nil => exact start s holds
  | cons a rest ih =>
    have first := step s a List.mem_cons_self holds
    exact trans _ _ _ _ _ first (ih (fun s a mem => step s a (List.mem_cons_of_mem _ mem))
      (keeps _ _ _ first))

end Recorded

section Handlers

variable {η σ : Type} {invoke : η → σ → Ending × σ} {report : η → String → σ → σ}

/-- What the turn of one handler makes of the state: its invocation, and the report if that has
failed. -/
def attend (invoke : η → σ → Ending × σ) (report : η → String → σ → σ) (s : σ) (h : η) : σ :=
  match (invoke h s).1.failure? with
  | none => (invoke h s).2
  | some reason => report h reason (invoke h s).2

/-- Handlers take their turns one after the other, whichever of them fail. -/
theorem invokeAll_attend (handlers : List η) (s : σ) :
    (Id.run (invokeAll (fun h s => pure (invoke h s)) report handlers s)).2 =
      handlers.foldl (attend invoke report) s := by
  induction handlers generalizing s with
  | nil => rfl
  | cons h rest ih =>
    rw [List.foldl_cons, ← ih]
    simp only [invokeAll, pure_bind, attend]
    cases (invoke h s).1.failure? <;> rfl

theorem attend_preserves {P : σ → Prop} {handlers : List η}
    (invokes : ∀ h ∈ handlers, ∀ s, P s → P (invoke h s).2)
    (reports : ∀ h ∈ handlers, ∀ reason s, P s → P (report h reason s)) {s : σ} (holds : P s) :
    P (handlers.foldl (attend invoke report) s) := by
  induction handlers generalizing s with
  | nil => exact holds
  | cons h rest ih =>
    refine ih (fun h m => invokes h (List.mem_cons_of_mem _ m))
      (fun h m => reports h (List.mem_cons_of_mem _ m)) ?_
    have invoked := invokes h List.mem_cons_self s holds
    unfold attend
    split
    · exact invoked
    · exact reports h List.mem_cons_self _ _ invoked

end Handlers

namespace Scene

/-- The scene in which an invocation of a handler begins to act. -/
def hearing (r : Randomness) (handler : ClientHandler) (s : Scene) : Scene :=
  { s with host :=
    { s.host with
      heard := (handler.name, r) :: s.host.heard, invocations := s.host.invocations + 1 } }

/-- The turn of a request's callback. -/
def attendCallback (r : Randomness) : Scene → RequestId × ClientHandler → Scene :=
  attend (fun entry s => invoke r entry.2 s) (fun entry => reportCallback r entry.1)

/-- The turn of an entry of the registry. -/
def attendListener (r : Randomness) : Scene → Registration Listener → Scene :=
  attend (invokeListener r) reportListener

theorem dispatch_eq (r : Randomness) (s : Scene) : dispatch r s =
    s.client.callbacks.foldl (attendCallback r) { s with client := s.client.recordDispatch r } :=
  invokeAll_attend _ _

theorem deliver_eq (round : Round) (s : Scene) : deliver round s =
    (s.client.registry.audience .randomnessPublished).foldl (attendListener round.result) s :=
  invokeAll_attend _ _

/-- What an invocation does beside its acts, or a report of it: neither the client nor the listeners
that have been added change, nor does the gauge of pending callbacks. -/
structure Tells (s t : Scene) : Prop where
  core : t.client.core = s.client.core
  gauge : t.client.metrics.pendingCallbacks = s.client.metrics.pendingCallbacks
  listeners : t.host.listeners = s.host.listeners

section Preserves

variable {P : Scene → Prop} (acts : ∀ s act, P s → P (perform s act))
  (tells : ∀ s t, Tells s t → P s → P t)
include acts tells

theorem invoke_preserves (r : Randomness) (handler : ClientHandler) {s : Scene} (holds : P s) :
    P (invoke r handler s).2 := by
  have performs (list : List (Act Randomness ClientOrder)) {s : Scene} (holds : P s) :
      P (list.foldl perform s) := by
    induction list generalizing s with
    | nil => exact holds
    | cons act rest ih => exact ih (acts s act holds)
  exact performs _ (tells s _ ⟨rfl, rfl, rfl⟩ holds)

theorem dispatch_preserves (r : Randomness) {s : Scene} (holds : P s) : P (dispatch r s) := by
  rw [dispatch_eq]
  apply attend_preserves
  · intro entry _ s holds
    exact invoke_preserves acts tells r entry.2 holds
  · intro entry _ reason s holds
    exact tells s _ ⟨rfl, rfl, rfl⟩ holds
  · exact tells s _ ⟨rfl, rfl, rfl⟩ holds

theorem attendListener_preserves (r : Randomness) (entries : List (Registration Listener))
    {s : Scene} (holds : P s) : P (entries.foldl (attendListener r) s) := by
  apply attend_preserves
  · intro entry _ s holds
    unfold invokeListener
    split
    · exact invoke_preserves acts tells r _ holds
    · exact dispatch_preserves acts tells r holds
  · intro entry _ reason s holds
    exact tells s _ ⟨rfl, rfl, rfl⟩ holds
  · exact holds

theorem deliver_preserves (round : Round) {s : Scene} (holds : P s) : P (deliver round s) := by
  rw [deliver_eq]
  exact attendListener_preserves acts tells round.result _ holds

end Preserves

theorem listen_standing (s : Scene) (handler : ClientHandler) :
    (s.listen handler).client.standing = s.client.standing := rfl

theorem unlisten_standing (s : Scene) (name : String) :
    (s.unlisten name).2.client.standing = s.client.standing := by
  unfold unlisten
  split
  · exact Client.unsubscribeListener_standing _ _
  · rfl

theorem cancel_standing (s : Scene) (name : String) :
    (s.cancel name).2.client.standing = s.client.standing := by
  unfold cancel
  split <;> rfl

theorem perform_standing (s : Scene) (act : Act Randomness ClientOrder) :
    (perform s act).client.standing = s.client.standing := by
  cases act with
  | register handler => exact listen_standing s handler
  | command order =>
    cases order with
    | cancel name => exact cancel_standing s name
    | unlisten name => exact unlisten_standing s name

/-- A delivery leaves the session as it is. -/
theorem deliver_standing (round : Round) (s : Scene) :
    (deliver round s).client.standing = s.client.standing :=
  deliver_preserves (P := fun t => t.client.standing = s.client.standing)
    (fun t act same => (perform_standing t act).trans same)
    (fun _ _ tells same => (Client.standing_of_core tells.core).trans same) round rfl

end Scene

end RandomBeacon
