import RandomBeacon.Proofs.Client.Wiring
import RandomBeacon.Proofs.Serving
import RandomBeacon.Proofs.Waits

/-!
The client of a run is wired throughout (`Reachable.wired`). Only a commit puts a dispatch handler
into the registry, and only a cleanup takes it out, so a client that is ready has one.
-/

namespace RandomBeacon

namespace Client

/-- What the handlers of a client depend on. -/
def wiring (c : Client) : Registry Listener × Option Nat × List (RequestId × ClientHandler) :=
  (c.registry, c.session.dispatch, c.callbacks)

/-- How an operation changes the wiring, if it does. -/
inductive Rewires (c d : Client) : Prop
  | kept (same : d.wiring = c.wiring)
      (ready : d.session.lifecycle = .ready → c.session.lifecycle = .ready)
  | installed (new : d.wiring = (c.reinstalled, some c.registry.issued, c.callbacks))
  | cleared (none : d.wiring = (c.registry.clear, none, []))
      (idle : d.session.lifecycle ≠ .ready)
      (next : d.session.generation = c.session.generation + 1)

theorem wiring_of_core {c d : Client} (same : c.core = d.core) : c.wiring = d.wiring := by
  obtain ⟨_, _, session, _, _, registry, callbacks⟩ := core_eq_iff.mp same
  simp [wiring, session, registry, callbacks]

theorem clearReconnecting_wiring (generation : Nat) (c : Client) :
    (c.clearReconnecting generation).wiring = c.wiring := by
  unfold clearReconnecting
  split <;> rfl

theorem transition_wiring (generation : Nat) (source target : Lifecycle) (c : Client) :
    (c.transition generation source target).wiring = c.wiring := by
  unfold transition
  split <;> rfl

theorem install_wiring (id : SubscriptionId) (c : Client) :
    (c.install id).wiring = (c.reinstalled, some c.registry.issued, c.callbacks) :=
  wiring_of_core (install_core id c)

theorem Rewires.of_core {b c d : Client} (rewires : c.Rewires b) (after : d.core = b.core) :
    c.Rewires d := by
  have wiring := wiring_of_core after
  have session := (core_eq_iff.mp after).2.2.1
  cases rewires with
  | kept same ready => exact .kept (wiring.trans same) (session ▸ ready)
  | installed new => exact .installed (wiring.trans new)
  | cleared none idle next => exact .cleared (wiring.trans none) (session ▸ idle) (session ▸ next)

variable {c d : Client} {progress : Progress}

theorem HandOff.rewires {generation : Nat} {starter : Starter}
    (handed : c.HandOff generation starter d progress) : c.Rewires d := by
  cases handed with
  | busy | skips => exact .kept rfl id
  | joins => exact .kept (transition_wiring _ _ _ c) (by simp; split <;> simp_all)
  | begins => exact .kept rfl (by simp)
  | spent => exact .kept (clearReconnecting_wiring _ (c.loseConnection generation)) (by simp)

theorem Advance.rewires {s : Stage} {received : Option SubscriptionId}
    (advance : c.Advance s received d progress) : c.Rewires d := by
  cases advance with
  | pauses | asks | takes | asksAtOnce | asksAnew | retries => exact .kept rfl id
  | refused => exact .kept rfl (by simp)
  | opens generation failed id => exact .installed (install_wiring id c)
  | recovers h failed id =>
    exact .installed ((clearReconnecting_wiring _ _).trans (install_wiring id c))
  | exhausted h failed e =>
    exact .kept (clearReconnecting_wiring h.generation (c.withAttempts (c.budget.attempts + 1)))
      (by simp)
  | aborts h failed e =>
    exact .kept (clearReconnecting_wiring h.generation (c.withAttempts 0)) (by simp)
  | handsOff generation failed handed => exact handed.rewires

end Client

theorem Course.rewires {c d : Client} {event : Event} {new : List Stage}
    (course : Course c event d new) (other : event ≠ .serve) : c.Rewires d := by
  cases course with
  | opens idle after =>
    exact (Client.Rewires.kept (c := c) (d := c.setLifecycle .initializing) rfl (by simp)).of_core
      after
  | declines after | passes other after | closed after | breaks panicked after
  | fades wants stale fade after =>
    exact (Client.Rewires.kept rfl id).of_core after
  | closes after =>
    have idle : c.reset.session.lifecycle ≠ .ready := by simp [Client.reset, Client.recordPending]
    exact (Client.Rewires.cleared rfl idle rfl).of_core after
  | hands handed after => exact handed.rewires.of_core after
  | advances wants current advance after => exact advance.rewires.of_core after
  | serves same => exact absurd rfl other

namespace Scene.Wired

variable {s : Scene} {d : Client}

/-- Every change of the wiring leaves the client wired. -/
theorem rewired (wired : Wired s) (rewires : s.client.Rewires d) :
    Wired { s with client := d } := by
  cases rewires with
  | kept same ready =>
    simp only [Client.wiring, Prod.mk.injEq] at same
    obtain ⟨registry, dispatch, callbacks⟩ := same
    obtain ⟨numbers, given, named, one, apart, pending, wires⟩ := wired
    constructor
    · simpa only [registry]
    · simpa only [registry]
    · simpa only [registry]
    · simpa only [registry, dispatch]
    · simpa only [dispatch]
    · simpa only [callbacks]
    · simpa only [dispatch] using fun is => wires (ready is)
  | installed new =>
    simp only [Client.wiring, Prod.mk.injEq] at new
    exact wired.install new.1 new.2.1 new.2.2
  | cleared none idle _ =>
    simp only [Client.wiring, Prod.mk.injEq] at none
    exact wired.reset none.1 none.2.1 none.2.2 idle

/-- A request brings a callback of its own. -/
theorem admitted (wired : Wired s) (id : RequestId) (handler : ClientHandler) :
    Wired { s with client := (s.client.insertCallback id handler).recordPending } := by
  obtain ⟨numbers, given, named, dispatch, apart, callbacks, ready⟩ := wired
  refine ⟨numbers, given, named, dispatch, apart, ?_, ready⟩
  change ((s.client.callbacks.filter (·.1 ≠ id) ++ [(id, handler)]).map (·.1)).Nodup
  rw [List.map_append, List.nodup_append]
  refine ⟨callbacks.sublist (List.filter_sublist.map _), by simp, ?_⟩
  intro other old new mem
  obtain ⟨callback, inside, rfl⟩ := List.mem_map.mp old
  rw [List.map_singleton, List.mem_singleton] at mem
  rw [mem]
  simpa using (List.mem_filter.mp inside).2

end Scene.Wired

namespace World

variable {π : Type} {w : World π}

theorem Timeline.wired_fresh (config : Config) (factors : Nat → Binary64) (provider : π)
    (suffixes : Nat → Suffix) :
    (Timeline.fresh config factors provider suffixes).state.scene.Wired := by
  refine ⟨List.nodup_nil, ?_, ?_, rfl, ?_, List.nodup_nil, ?_⟩
  · rintro entry ⟨⟩
  · rintro listener ⟨⟩
  · rintro listener ⟨⟩
  · rintro ⟨⟩

variable [Provider π]

theorem proceed_host (now : Nat) (spawned : List (Option Nat × Work π)) (w : World π)
    (step : Client × Progress) : (w.proceed now spawned step).state.scene.host = w.scene.host := by
  obtain ⟨c, progress⟩ := step
  cases progress with
  | wait stage => cases stage <;> rfl
  | ended | lost => rfl

theorem publish_wired (wired : w.scene.Wired) (r : Round) : (w.publish r).2.scene.Wired :=
  publish_preserves (fun _ act wired => wired.perform act)
    (fun _ _ tells wired => wired.congr tells.core tells.listeners) r wired

/-- A turn that is no operation's leaves the client wired. -/
theorem run_wired (wired : w.scene.Wired) {work : Work π} (serves : work.event w = .serve)
    (now : Nat) : (w.run now work).state.scene.Wired := by
  have serving := run_serving serves now
  generalize (w.run now work).state.scene = turned at serving ⊢
  cases serving with
  | tells _ tells => exact wired.congr tells.core tells.listeners
  | admits handler ready => exact wired.admitted _ handler
  | publishes draw => exact publish_wired (w := { w with provider := (draw w.provider).2 }) wired _

/-- The operations of the session are not the handlers' side. -/
theorem run_host {work : Work π} (other : work.event w ≠ .serve) (now : Nat) :
    (w.run now work).state.scene.host = w.scene.host := by
  cases work with
  | errand e =>
    cases e with
    | openSession | closeSession => exact proceed_host now [] w _
    | request | query | awaitReady | chain | account => exact absurd rfl other
  | recovery generation => exact proceed_host now [] w _
  | operation s pending =>
    exact (proceed_host now _ (w.finish now pending).2.1 _).trans rfl
  | submitting | querying | calling | inFlight | publishing | watching | askingChain
  | askingAccount => exact absurd rfl other

namespace Timeline

variable {e : Surroundings π} {s t : Timeline π}

theorem Step.wired (step : Step e s t) (sound : Sound s) (wired : s.state.scene.Wired) :
    t.state.scene.Wired := by
  have journaled {w : World π} (wired : w.scene.Wired) (now : Nat) :
      (w.journalAt now).scene.Wired :=
    wired.congr (journalAt_core now w) rfl
  cases step with
  | turn task mem =>
    rw [Schedule.Timeline.state_fire]
    refine journaled ?_ s.now
    by_cases serves : task.work.event s.state = .serve
    · exact run_wired wired serves s.now
    · obtain ⟨rest, before, _⟩ := Schedule.Timeline.works_fire rules sound.numbered mem
      have split : s.stages.Perm ((task.work.event s.state).stage?.toList ++ stagesOf rest) := by
        rw [Work.event_stage?, ← stagesOf_cons]
        exact stagesOf_perm before
      have course := (run_move s.now s.state task.work).course (sound.aligned.perm split)
      have host := run_host serves s.now
      have turned := wired.rewired (course.rewires serves)
      exact turned.congr rfl (congrArg Host.listeners host)
  | pass | ask => exact wired
  | adjust => exact journaled (w := { s.state with provider := _ }) wired s.now
  | cancel id => exact journaled (wired.cancel id) s.now
  | listen handler => exact journaled (wired.listen handler) s.now
  | unlisten number known => exact journaled (wired.unlisten known) s.now
  | publish r => exact journaled (publish_wired wired r) s.now

/-- The client of a run is wired. -/
theorem Reachable.wired (run : Reachable e s t) (sound : Sound s) (wired : s.state.scene.Wired) :
    t.state.scene.Wired := by
  induction run with
  | start => exact wired
  | next run step ih => exact step.wired (run.sound sound) ih

end Timeline

end World

end RandomBeacon
