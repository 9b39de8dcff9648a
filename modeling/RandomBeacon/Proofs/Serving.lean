import RandomBeacon.Proofs.Turns

/-!
The turns that are no operation of the session. What such a turn does to the client and to the side
of its handlers is one of three things (`Serving`, `run_serving`): it only tells, it admits a
request, or it publishes a round.
-/

namespace RandomBeacon

variable {π : Type}

/-- A task that neither admits a request nor publishes a round. -/
def Work.Calm (w : World π) : Work π → Prop
  | .errand (.request _) => w.client.session.lifecycle ≠ .ready
  | .publishing _ => False
  | _ => True

namespace World

theorem finish_tells {β : Type} (now : Nat) (pending : Pending π β) (w : World π) :
    Scene.Tells w.scene (w.finish now pending).2.1.scene :=
  ⟨finish_core now pending w, Client.noteAll_gauge _ _, rfl⟩

/-- The end of a call is told, and counted among those that have ended. -/
theorem concludeRequest_metrics (id : RequestId) (op : Operation) (raced : Raced Receipt)
    (c : Client) : (c.concludeRequest id op raced).2.metrics =
      c.metrics.recordRequest .requestRandomness
        (Client.failureKind? (c.concludeRequest id op raced).1) := by
  have noted := c.noteAll_metrics raced.notices
  unfold Client.concludeRequest Client.recordRequest
  simp only [noted]
  split <;> rfl

theorem concludeQuery_metrics (q : Query) (raced : Raced Lookup) (c : Client) :
    (c.concludeQuery q raced).2.metrics =
      c.metrics.recordRequest .getRandomness
        (Client.failureKind? (c.concludeQuery q raced).1) := by
  have noted := c.noteAll_metrics raced.notices
  unfold Client.concludeQuery Client.recordRequest
  simp only [noted]
  split <;> rfl

theorem concludeRequest_gauge (id : RequestId) (op : Operation) (raced : Raced Receipt)
    (c : Client) : (c.concludeRequest id op raced).2.metrics.pendingCallbacks =
      c.metrics.pendingCallbacks := by
  rw [concludeRequest_metrics]
  rfl

theorem concludeQuery_gauge (q : Query) (raced : Raced Lookup) (c : Client) :
    (c.concludeQuery q raced).2.metrics.pendingCallbacks = c.metrics.pendingCallbacks := by
  rw [concludeQuery_metrics]
  rfl

variable [Provider π]

/-- What a turn that is no operation's makes of the client and of its handlers' side. -/
inductive Serving (now : Nat) (w : World π) : Work π → Scene → Prop
  | tells {work : Work π} {s : Scene} (calm : work.Calm w) (tells : Scene.Tells w.scene s) :
      Serving now w work s
  | admits (handler : ClientHandler) (ready : w.client.session.lifecycle = .ready) :
      Serving now w (.errand (.request handler)) { w.scene with
        client := (w.client.insertCallback (w.nameRequest now).1 handler).recordPending }
  | publishes (draw : π → Round × π) :
      Serving now w (.publishing draw)
        (({ w with provider := (draw w.provider).2 } : World π).publish (draw w.provider).1).2.scene

theorem run_serving {w : World π} {work : Work π} (serves : work.event w = .serve) (now : Nat) :
    Serving now w work (w.run now work).state.scene := by
  have quiet {s : Scene} (calm : work.Calm w) (same : s = w.scene) : Serving now w work s := by
    subst same
    exact .tells calm ⟨rfl, rfl, rfl⟩
  cases work with
  | errand e =>
    cases e with
    | openSession | closeSession => cases serves
    | request handler =>
      simp only [run, begin, Client.admitRequest, Client.readyGeneration]
      have named : (w.nameRequest now).2.client = w.client := rfl
      by_cases ready : w.client.session.lifecycle = .ready
      · simp only [named, if_pos ready, Except.map]
        exact .admits handler ready
      · simp only [named, if_neg ready, Except.map]
        exact quiet ready rfl
    | query q =>
      simp only [run, begin]
      split <;> exact quiet trivial rfl
    | awaitReady limit => exact quiet trivial (congrArg scene (watchReady_state now _ w))
    | chain | account => exact quiet trivial rfl
  | recovery | operation => cases serves
  | submitting name id op generation exchange =>
    have core := concludeRequest_core id op (raced (w.submissionOutcome? exchange)) w.client
    have gauge := concludeRequest_gauge id op (raced (w.submissionOutcome? exchange)) w.client
    simp only [run]
    split <;> exact .tells trivial ⟨core, gauge, rfl⟩
  | querying q generation exchange =>
    exact .tells trivial ⟨concludeQuery_core q _ w.client, concludeQuery_gauge q _ w.client, rfl⟩
  | calling d exchange => cases d <;> exact quiet trivial rfl
  | inFlight d exchange pending => exact .tells trivial (finish_tells now pending w)
  | publishing draw => exact .publishes draw
  | watching deadline seen => exact quiet trivial (congrArg scene (watchReady_state now _ w))
  | askingChain pending => exact .tells trivial (finish_tells now pending w)
  | askingAccount pending => exact .tells trivial (finish_tells now pending w)

/-- What survives the acts of handlers and what is told of them survives a publication. -/
theorem publish_preserves {P : Scene → Prop} (acts : ∀ s act, P s → P (Scene.perform s act))
    (tells : ∀ s t, Scene.Tells s t → P s → P t) (r : Round) {w : World π} (holds : P w.scene) :
    P (w.publish r).2.scene := by
  have delivered (held : List SubscriptionId) {s : Scene} (holds : P s) :
      P (held.foldl (fun s _ => s.deliver r) s) := by
    induction held generalizing s with
    | nil => exact holds
    | cons id rest ih => exact ih (Scene.deliver_preserves acts tells r holds)
  exact delivered _ (tells _ _ ⟨Client.noteAll_core _ _, Client.noteAll_gauge _ _, rfl⟩ holds)

end World

end RandomBeacon
