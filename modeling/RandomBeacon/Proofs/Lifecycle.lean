import RandomBeacon.Proofs.Actions
import RandomBeacon.Proofs.Generations
import RandomBeacon.Proofs.Order
import RandomBeacon.Proofs.Serving

/-!
The law of the lifecycle. Between two cleanups the lifecycle moves from a state to one of
`Lifecycle.next`, and a session that has failed stays so (`lifecycle_law`), unless a lost call has
intruded on an opening: then two operations of one generation are under way, and each ends as if it
were alone.
-/

namespace RandomBeacon

namespace Lifecycle

/-- The states that may follow a state while the session lasts. -/
def next : Lifecycle → List Lifecycle
  | uninitialized => [initializing]
  | initializing => [uninitialized, ready, reconnecting]
  | ready => [reconnecting]
  | reconnecting => [uninitialized, ready, failed]
  | failed => []

/-- A session starts to open only if it is not open, and to reconnect only if it is connected or
being opened. -/
structure Starts (before after : Lifecycle) : Prop where
  initializing : after = .initializing → before = .uninitialized
  reconnecting : after = .reconnecting → before = .ready ∨ before = .initializing

theorem Starts.of_next {before after : Lifecycle} (follows : after ∈ before.next) :
    Starts before after := by
  constructor <;> rintro rfl <;> cases before <;> simp_all [next]

/-- Any state may end up at rest. -/
theorem Starts.rests {before after : Lifecycle} (initializing : after ≠ .initializing)
    (reconnecting : after ≠ .reconnecting) : Starts before after :=
  ⟨fun is => absurd is initializing, fun is => absurd is reconnecting⟩

end Lifecycle

namespace Client

/-- The lifecycle of a client has gone through these states, one after the other; whoever watches
it has been sent each of them. -/
structure Passes (c : Client) (states : List Lifecycle) (d : Client) : Prop where
  sent : d.watch.version = c.watch.version + states.length
  last : d.session.lifecycle = states.getLastD c.session.lifecycle

/-- A way of the lifecycle in which each state follows from the one before. -/
def Follows (follows : Lifecycle → Lifecycle → Prop) (c : Client) (states : List Lifecycle) :
    Prop :=
  (c.session.lifecycle :: states).IsChain follows

/-- The way of a lifecycle in one event: it starts nothing that it may not, and if the event is
`due` it goes from each state to a next one. -/
structure Goes (due : Prop) (c : Client) (states : List Lifecycle) (d : Client) : Prop
    extends Passes c states d where
  starts : c.Follows Lifecycle.Starts states
  lawful : due → c.Follows (fun before after => after ∈ before.next) states

variable {c d : Client} {due : Prop} {states : List Lifecycle}

theorem Goes.of_core {b : Client} (goes : c.Goes due states b) (after : d.core = b.core) :
    c.Goes due states d := by
  obtain ⟨_, _, session, watch, _⟩ := core_eq_iff.mp after
  obtain ⟨⟨sent, last⟩, starts, lawful⟩ := goes
  exact ⟨⟨watch ▸ sent, session ▸ last⟩, starts, lawful⟩

theorem Goes.imp {early : Prop} (goes : c.Goes due states d) (imp : early → due) :
    c.Goes early states d :=
  ⟨goes.toPasses, goes.starts, fun is => goes.lawful (imp is)⟩

theorem Goes.nowhere (due : Prop) (lifecycle : d.session.lifecycle = c.session.lifecycle)
    (watch : d.watch = c.watch) : c.Goes due [] d :=
  ⟨⟨by simp [watch], by simpa using lifecycle⟩, .singleton _, fun _ => .singleton _⟩

/-- The lifecycle goes to a next state. -/
theorem Goes.next (due : Prop) {l : Lifecycle} (follows : l ∈ c.session.lifecycle.next)
    (lifecycle : d.session.lifecycle = l) (sent : d.watch.version = c.watch.version + 1) :
    c.Goes due [l] d := by
  refine ⟨⟨by simp [sent], by simpa using lifecycle⟩, ?_, fun _ => ?_⟩
  · simpa [Follows] using Lifecycle.Starts.of_next follows
  · simpa [Follows] using follows

/-- The lifecycle comes to rest, which is due in the state `busy`. -/
theorem Goes.rests {l busy : Lifecycle} (follows : l ∈ busy.next)
    (settled : l ≠ .initializing ∧ l ≠ .reconnecting) (lifecycle : d.session.lifecycle = l)
    (sent : d.watch.version = c.watch.version + 1) :
    c.Goes (c.session.lifecycle = busy) [l] d := by
  refine ⟨⟨by simp [sent], by simpa using lifecycle⟩, ?_, fun is => ?_⟩
  · simpa [Follows] using Lifecycle.Starts.rests settled.1 settled.2
  · simpa [Follows, is] using follows

/-- A hand-off to reconnection goes to next states, from whatever state it starts. -/
theorem HandOff.goes {generation : Nat} {starter : Starter} {progress : Progress}
    (handed : c.HandOff generation starter d progress) : ∃ states, c.Goes due states d := by
  have loses (connected : c.session.lifecycle = .ready ∨ c.session.lifecycle = .initializing) :
      .reconnecting ∈ c.session.lifecycle.next := by
    rcases connected with is | is <;> simp [is, Lifecycle.next]
  cases handed with
  | busy | skips => exact ⟨[], .nowhere due rfl rfl⟩
  | joins up result =>
    by_cases initializing : c.session.generation = generation ∧ c.session.lifecycle = .initializing
    · refine ⟨[.uninitialized], .next due ?_ ?_ ?_⟩
      · simp [initializing.2, Lifecycle.next]
      · simp [initializing]
      · rw [transition, if_pos initializing]
        rfl
    · refine ⟨[], .nowhere due ?_ ?_⟩
      · simp [initializing]
      · rw [transition, if_neg initializing]
  | begins _ duration down connected left => exact ⟨_, .next due (loses connected) rfl rfl⟩
  | spent _ e down connected spent =>
    have lost := loses connected
    refine ⟨[.reconnecting, .failed], ⟨?_, ?_⟩, ?_, fun _ => ?_⟩
    · simp [loseConnection, setLifecycle, note]
    · simp
    · have failed : Lifecycle.Starts .reconnecting .failed := .rests (by simp) (by simp)
      simpa [Follows] using ⟨Lifecycle.Starts.of_next lost, failed⟩
    · simpa [Follows, Lifecycle.next] using lost

/-- An operation goes to a next state if it finds the state in which it keeps its session. -/
theorem Advance.goes {s : Stage} {p : Purpose} {received : Option SubscriptionId}
    {progress : Progress} (wants : s.purpose? = some p)
    (advance : c.Advance s received d progress) :
    ∃ states, c.Goes (c.session.lifecycle = p.lifecycle) states d := by
  cases advance with
  | pauses | asks | takes | asksAtOnce | asksAnew | retries => exact ⟨[], .nowhere _ rfl rfl⟩
  | handsOff generation failed handed => exact handed.goes
  | opens generation failed id =>
    obtain rfl := Option.some.inj wants
    exact ⟨[.ready], .rests (by simp [Purpose.lifecycle, Lifecycle.next]) (by simp) (by simp)
      (by simp)⟩
  | refused generation failed e =>
    obtain rfl := Option.some.inj wants
    exact ⟨[.uninitialized], .rests (by simp [Purpose.lifecycle, Lifecycle.next]) (by simp) rfl rfl⟩
  | recovers h failed id =>
    obtain rfl := Option.some.inj wants
    refine ⟨[.ready], .rests (by simp [Purpose.lifecycle, Lifecycle.next]) (by simp) (by simp) ?_⟩
    simp
  | exhausted h failed e =>
    obtain rfl := Option.some.inj wants
    refine ⟨[.failed], .rests (by simp [Purpose.lifecycle, Lifecycle.next]) (by simp) (by simp) ?_⟩
    simp
  | aborts h failed e =>
    obtain rfl := Option.some.inj wants
    refine ⟨[.uninitialized],
      .rests (by simp [Purpose.lifecycle, Lifecycle.next]) (by simp) (by simp) ?_⟩
    simp

end Client

/-- A cleanup ends the session. -/
theorem Course.closed_passes {c d : Client} {new : List Stage}
    (course : Course c .closeSession d new) :
    d.session.generation = c.session.generation + 1 ∧ c.Passes [.uninitialized] d := by
  refine ⟨course.closed_generation, ?_⟩
  cases course with
  | closes after =>
    obtain ⟨_, _, session, watch, _⟩ := Client.core_eq_iff.mp after
    exact ⟨congrArg Watch.version watch, congrArg Session.lifecycle session⟩

/-- Every other event lets the lifecycle go its way. -/
theorem Course.goes {c d : Client} {event : Event} {new rest : List Stage}
    (course : Course c event d new) (serves : event ≠ .serve) (lasts : event ≠ .closeSession) :
    ∃ states, c.Goes (Orderly c (event.stage?.toList ++ rest)) states d := by
  cases course with
  | opens idle after =>
    have follows : Lifecycle.initializing ∈ c.session.lifecycle.next := by
      simp [idle, Lifecycle.next]
    have goes := Client.Goes.next (d := c.setLifecycle .initializing)
      (Orderly c ([] ++ rest)) follows rfl rfl
    exact ⟨_, goes.of_core after⟩
  | declines after | passes other after | closed after | breaks panicked after
  | fades wants stale fade after => exact ⟨[], (Client.Goes.nowhere _ rfl rfl).of_core after⟩
  | closes after => exact absurd rfl lasts
  | hands handed after =>
    obtain ⟨states, goes⟩ := handed.goes
    exact ⟨states, goes.of_core after⟩
  | @advances s signal p b d progress wants current advance after =>
    obtain ⟨states, goes⟩ := advance.goes wants
    refine ⟨states, (goes.imp fun orderly => ?_).of_core after⟩
    exact orderly.busy s List.mem_cons_self p wants current.generation.symm
  | serves same => exact absurd rfl serves

/-- Whether an event hands a lost call to reconnection while the session is initializing. -/
def Event.intrudes (c : Client) : Event → Bool
  | recoverSession generation =>
    c.session.generation = generation ∧ c.session.lifecycle = .initializing
  | _ => false

theorem Event.of_intrudes {c : Client} {event : Event} (intrudes : event.intrudes c = true) :
    event = .recoverSession c.session.generation ∧ c.session.lifecycle = .initializing := by
  cases event with
  | recoverSession generation =>
    obtain ⟨rfl, initializing⟩ : c.session.generation = generation ∧
        c.session.lifecycle = .initializing := by simpa [Event.intrudes] using intrudes
    exact ⟨rfl, initializing⟩
  | openSession | closeSession | resume | serve => cases intrudes

/-- A cleanup leaves no operation of the session at hand under way. -/
theorem Course.closed_orderly {c d : Client} {new rest : List Stage} (aligned : Aligned c rest)
    (course : Course c .closeSession d new) : Orderly d (new ++ rest) := by
  cases course with
  | closes after =>
    have all : Aligned c ((none : Option Stage).toList ++ rest) := aligned
    have reset := Orderly.reset all c.session.subscription.toList
    exact Orderly.quiet none [] reset (Client.standing_of_core after) (by simp)

namespace Scene

theorem perform_watch (s : Scene) (act : Act Randomness ClientOrder) :
    (perform s act).client.watch = s.client.watch := by
  cases act with
  | register handler => rfl
  | command order =>
    cases order with
    | cancel name =>
      simp only [perform, cancel]
      split <;> rfl
    | unlisten name =>
      simp only [perform, unlisten]
      split
      · exact Client.unsubscribeListener_watch _ _
      · rfl

end Scene

namespace World

variable {π : Type} [Provider π]

theorem publish_watch (r : Round) (w : World π) :
    (w.publish r).2.client.watch = w.client.watch :=
  publish_preserves (P := fun s => s.client.watch = w.client.watch)
    (fun s act same => (Scene.perform_watch s act).trans same)
    (fun _ _ tells same => (Client.core_eq_iff.mp tells.core).2.2.2.1.trans same) r rfl

/-- A turn that is no operation's sends nothing to those who watch the lifecycle. -/
theorem run_watch {w : World π} {work : Work π} (serves : work.event w = .serve) (now : Nat) :
    (w.run now work).state.client.watch = w.client.watch := by
  have serving := run_serving serves now
  rw [World.client]
  generalize (w.run now work).state.scene = turned at serving ⊢
  cases serving with
  | tells _ tells => exact (Client.core_eq_iff.mp tells.core).2.2.2.1
  | admits handler ready => rfl
  | publishes draw => exact publish_watch _ _

namespace Timeline

variable {e : Surroundings π} {s t : Timeline π} {a : Action π} {actions more : List (Action π)}

/-- Nothing but an operation of the session is sent to those who watch the lifecycle. -/
theorem act_watch (serves : t.event a = .serve) : (t.act a).client.watch = t.client.watch := by
  cases a with
  | turn number =>
    cases found : t.task? number with
    | none =>
      rw [act, found]
      rfl
    | some task =>
      rw [event, work?, found] at serves
      rw [act_turn found, client, Schedule.Timeline.state_fire]
      exact run_watch serves t.now
  | pass | ask | cancel | listen | adjust => rfl
  | unlisten number => exact Client.unsubscribeListener_watch _ _
  | publish r => exact publish_watch r t.state

/-- While no cleanup ends the session, its lifecycle goes its way. -/
theorem act_goes (allowed : t.Allows e a) (sound : Sound t) (lasts : t.event a ≠ .closeSession) :
    (t.act a).client.session.generation = t.client.session.generation ∧
    ∃ states, t.client.Goes (Orderly t.client t.stages) states (t.act a).client := by
  obtain ⟨new, rest, before, _, course⟩ := act_course allowed sound
  refine ⟨course.generation.resolve_right fun closes => lasts closes.1, ?_⟩
  by_cases serves : t.event a = .serve
  · have watch := act_watch serves
    rw [serves] at course
    cases course with
    | serves same =>
      have session : (t.act a).client.session = t.client.session := congrArg (·.2.1) same
      exact ⟨[], .nowhere _ (congrArg Session.lifecycle session) watch⟩
  · obtain ⟨states, goes⟩ := course.goes serves lasts
    exact ⟨states, goes.imp fun orderly => orderly.perm before⟩

/-- The generation in which an action hands a lost call to reconnection while the session is
initializing, if it does. -/
def intrusion (t : Timeline π) (a : Action π) : List Nat :=
  if (t.event a).intrudes t.client then [t.client.session.generation] else []

/-- The generations in which lost calls have intruded on an opening. -/
def intrusions (t : Timeline π) (actions : List (Action π)) : List Nat :=
  recorded act intrusion actions t

theorem act_orderly (allowed : t.Allows e a) (sound : Sound t) (apart : t.intrusion a = [])
    (orderly : Orderly t.client t.stages) : Orderly (t.act a).client (t.act a).stages := by
  obtain ⟨new, rest, before, after, course⟩ := act_course allowed sound
  refine (course.orderly (sound.aligned.perm before) (orderly.perm before) ?_).perm after.symm
  intro recovers initializing
  simp [intrusion, recovers, Event.intrudes, initializing] at apart

/-- Only an intrusion takes the operations of a session out of order, and a cleanup puts them
back. -/
theorem act_orderly_or_intruded {past : List Nat} (allowed : t.Allows e a) (sound : Sound t)
    (before : Orderly t.client t.stages ∨ t.client.session.generation ∈ past) :
    Orderly (t.act a).client (t.act a).stages ∨
    (t.act a).client.session.generation ∈ past ++ t.intrusion a := by
  by_cases lasts : t.event a = .closeSession
  · obtain ⟨new, rest, same, after, course⟩ := act_course allowed sound
    rw [lasts] at same course
    exact Or.inl ((course.closed_orderly (sound.aligned.perm same)).perm after.symm)
  · have generation := (act_goes allowed sound lasts).1
    by_cases apart : t.intrusion a = []
    · rw [generation, apart, List.append_nil]
      exact before.imp_left (act_orderly allowed sound apart)
    · have intrudes : (t.event a).intrudes t.client = true := by
        by_contra quiet
        exact apart (if_neg quiet)
      refine Or.inr (List.mem_append_right _ ?_)
      rw [generation, intrusion, if_pos intrudes]
      exact List.mem_singleton.mpr rfl

theorem Runs.orderly_or_intruded {past : List Nat} (run : Runs e s actions t) (sound : Sound s)
    (before : Orderly s.client s.stages ∨ s.client.session.generation ∈ past) :
    Orderly t.client t.stages ∨ t.client.session.generation ∈ past ++ s.intrusions actions :=
  run.carries intrusion sound before
    (P := fun past u => Orderly u.client u.stages ∨ u.client.session.generation ∈ past)
    fun _ _ _ allowed sound => act_orderly_or_intruded allowed sound

/-- A session that has failed in order goes nowhere with an action that does not end it. -/
theorem act_failed (allowed : t.Allows e a) (sound : Sound t)
    (lasts : (t.act a).client.session.generation = t.client.session.generation)
    (orderly : Orderly t.client t.stages) (failed : t.client.session.lifecycle = .failed) :
    Orderly (t.act a).client (t.act a).stages ∧ (t.act a).client.session.lifecycle = .failed := by
  have open_still : t.event a ≠ .closeSession := by
    intro closes
    obtain ⟨_, _, _, _, course⟩ := act_course allowed sound
    rw [closes] at course
    have next := course.closed_passes.1
    omega
  obtain ⟨_, states, ⟨_, last⟩, _, lawful⟩ := act_goes allowed sound open_still
  have nowhere : states = [] := by
    have follows := lawful orderly
    cases states with
    | nil => rfl
    | cons l rest => simp [Client.Follows, failed, Lifecycle.next] at follows
  have apart : t.intrusion a = [] := by
    refine if_neg fun intrudes => ?_
    rw [(Event.of_intrudes intrudes).2] at failed
    cases failed
  refine ⟨act_orderly allowed sound apart orderly, ?_⟩
  rw [last, nowhere]
  exact failed

/-- A session that has failed in order goes nowhere while it lasts. -/
theorem Runs.failed (run : Runs e s actions t) (sound : Sound s)
    (orderly : Orderly s.client s.stages) (failed : s.client.session.lifecycle = .failed)
    (lasts : t.client.session.generation = s.client.session.generation) :
    t.client.session.lifecycle = .failed := by
  let P (_ : List Nat) (u : Timeline π) : Prop :=
    Orderly u.client u.stages ∧ u.client.session.lifecycle = .failed
  have start : P [] s := ⟨orderly, failed⟩
  exact (run.carries_within intrusion sound lasts start fun _ _ _ allowed sound lasts before =>
    act_failed allowed sound lasts before.1 before.2).2

theorem act_apart (apart : e.Apart) (allowed : t.Allows e a) : t.intrusion a = [] := by
  refine if_neg fun intrudes => ?_
  obtain ⟨recovers, initializing⟩ := Event.of_intrudes intrudes
  cases a with
  | turn number =>
    obtain ⟨task, found, _, permitted⟩ := allowed
    have is : task.work.event t.state = .recoverSession t.client.session.generation := by
      rwa [event, work?, found] at recovers
    have permitted := apart _ _ permitted
    have now : t.state.client.session.lifecycle = .initializing := initializing
    rw [Work.of_event_recoverSession is] at permitted
    simp [Work.intrudes, client, now] at permitted
  | pass | ask | cancel | listen | unlisten | publish | adjust => cases recovers

theorem intrusions_apart (apart : e.Apart) (run : Runs e s actions t) (sound : Sound s) :
    s.intrusions actions = [] :=
  run.carries intrusion (P := fun past _ => past = []) sound rfl
    fun _ _ _ allowed _ none => by rw [none, act_apart apart allowed, List.nil_append]

variable {config : Config} {factors : Nat → Binary64} {provider : π} {suffixes : Nat → Suffix}

/-- Whatever happens next in a run, the lifecycle goes its way within the session, or a cleanup
begins a new one. It never starts to open or to reconnect from a wrong state; and as long as no lost
call of the session at hand has intruded on an opening, every state follows from the one before, and
a session that has failed stays so until a cleanup, whatever is still under way or asked for. -/
theorem lifecycle_law (run : Runs e (fresh config factors provider suffixes) actions t) :
    (∀ a, t.Allows e a →
      (t.event a = .closeSession ∧
        (t.act a).client.session.generation = t.client.session.generation + 1 ∧
        t.client.Passes [.uninitialized] (t.act a).client) ∨
      ((t.act a).client.session.generation = t.client.session.generation ∧
        ∃ states, t.client.Passes states (t.act a).client ∧
          t.client.Follows Lifecycle.Starts states ∧
          (t.client.session.generation ∉
              (fresh config factors provider suffixes).intrusions actions →
            t.client.Follows (fun before after => after ∈ before.next) states))) ∧
    (t.client.session.generation ∉ (fresh config factors provider suffixes).intrusions actions →
      t.client.session.lifecycle = .failed →
      ∀ more u, Runs e t more u → u.client.session.generation = t.client.session.generation →
        u.client.session.lifecycle = .failed) := by
  have fresh_sound := sound_fresh config factors provider suffixes
  have sound := run.reachable.sound fresh_sound
  have in_order : Orderly t.client t.stages ∨ t.client.session.generation ∈
      [] ++ (fresh config factors provider suffixes).intrusions actions :=
    run.orderly_or_intruded fresh_sound
      (Or.inl (orderly_fresh config factors provider suffixes))
  rw [List.nil_append] at in_order
  constructor
  · intro a allowed
    by_cases closes : t.event a = .closeSession
    · obtain ⟨_, _, _, _, course⟩ := act_course allowed sound
      rw [closes] at course
      exact Or.inl ⟨closes, course.closed_passes⟩
    · obtain ⟨generation, states, passes, starts, lawful⟩ := act_goes allowed sound closes
      exact Or.inr ⟨generation, states, passes, starts,
        fun apart => lawful (in_order.resolve_right apart)⟩
  · intro apart failed more u after lasts
    exact after.failed sound (in_order.resolve_right apart) failed lasts

/-- A session whose only attempt to reconnect has failed. -/
def exhausted : Timeline Simulated :=
  (trial 1 (.trial {})).replay (fun w work => !work.intrudes w) [
    .ask .openSession, .turns 9,
    .behave { submitTransportFailure := true, subscribeFailure := .always },
    .ask (.request (.plain "lost")), .turns 9,
    .pass 100, .turns 9, .pass 1000, .turns 9, .pass 2000, .turns 9]

/-- Opened again without a cleanup. -/
def reopened : Timeline Simulated :=
  exhausted.replay (fun w work => !work.intrudes w) [
    .behave {}, .ask .openSession, .ask (.request (.plain "more")), .turns 9, .pass 5000, .turns 9]

theorem lifecycle_law_exhausted :
    exhausted.client.session.lifecycle = .failed ∧ reopened.client.session.lifecycle = .failed := by
  have before : Reachable (.limited Simulated.Adjusts fun w work => !work.intrudes w)
      (trial 1 (.trial {})) exhausted := reachable_replay _ _
  have after : Reachable (.limited Simulated.Adjusts fun w work => !work.intrudes w)
      exhausted reopened := reachable_replay _ _
  obtain ⟨actions, run⟩ := before.runs (numbered_fresh _ _ _ _)
  obtain ⟨more, run'⟩ := after.runs (before.numbered (numbered_fresh _ _ _ _))
  have failed : exhausted.client.session.lifecycle = .failed := by decide +kernel
  have apart : exhausted.client.session.generation ∉
      (trial 1 (Simulated.trial {})).intrusions actions := by
    rw [intrusions_apart (Surroundings.apart_limited _) run (sound_fresh _ _ _ _)]
    exact List.not_mem_nil
  exact ⟨failed, (lifecycle_law run).2 apart failed more reopened run' (by decide +kernel)⟩

/-- A session whose budget is spent by a call that was lost before the session was opened anew,
while the subscribe call of that opening is still under way. -/
def beaten : Timeline Scripted :=
  (trial 1 {}).replay (fun _ _ => true) [
    .script {
      submit := [⟨10000, .returned (.accepted "early")⟩,
        ⟨0, .failed (.transport "connection reset")⟩]
      subscribe := [⟨0, .returned ()⟩, ⟨0, .failed (.rejected "busy")⟩, ⟨10000, .returned ()⟩,
        ⟨0, .failed (.transport "connection reset")⟩] },
    .ask .openSession, .turns 9,
    .ask (.request (.plain "early")), .turns 9,
    .ask (.request (.plain "late")), .turns 9, .pass 100, .turns 9,
    .pass 4400, .ask .openSession, .turns 9,
    .pass 500, .turns 9, .pass 100, .turns 9, .pass 1000, .turns 9, .pass 2000, .turns 9]

/-- The same session when that subscribe call has returned. -/
def revived : Timeline Scripted :=
  beaten.replay (fun _ _ => true) ([.pass 6400, .turns 9] : List (Cue Scripted.Adjusts))

/-- A session that has failed may become ready without a cleanup. -/
theorem failed_session_revived :
    ∃ provider s t, Reachable (.limited Scripted.Adjusts fun _ _ => true) (trial 1 provider) s ∧
      Reachable (.limited Scripted.Adjusts fun _ _ => true) s t ∧
      s.client.session.lifecycle = .failed ∧ t.client.session.lifecycle = .ready ∧
      t.client.session.generation = s.client.session.generation :=
  ⟨_, beaten, revived, reachable_replay _ _, reachable_replay _ _, by decide +kernel⟩

end Timeline

end World

end RandomBeacon
