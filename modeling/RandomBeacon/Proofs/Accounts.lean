import RandomBeacon.Proofs.Breakdowns
import RandomBeacon.Proofs.Broadcast
import RandomBeacon.Proofs.Client.Invocations
import RandomBeacon.Proofs.Exchanges

/-!
What the turn of a task is to the metrics. The incidents of a turn are read off the event that it is
and off what becomes of the task (`World.incidents`): a call is admitted if its errand has to wait,
and it ends when the wait for its answer is over. The turn counts these incidents and nothing else,
and they balance with the tasks under way (`World.run_accounts`): a hand-off that is not under way
any more has ended or has broken down, and an admitted call that nobody waits for has ended.
-/

namespace RandomBeacon

open Provider

/-- The attempt to subscribe anew that begins with an event, if one does. -/
def Event.attempt (c : Client) : Event → List Incident
  | resume s _ => c.attemptAt s
  | _ => []

/-- Whether an event is a step of a hand-off, the first one included. -/
def Event.isHandoff (c : Client) (event : Event) : Bool :=
  event.stage?.any (·.reconnects) || event.handsOver c

/-- What happens in an event that settles a hand-off like this, if it is a step of one. -/
def Event.incidents (c : Client) (settled : List Incident) (event : Event) : List Incident :=
  (if event.handsOver c then [.handsOver] else []) ++ event.attempt c ++
    (if event.isHandoff c then settled else [])

/-- Only the attempts to subscribe anew are counted when they begin. -/
theorem Event.attempt_eq (c : Client) (event : Event) :
    event.attempt c = [] ∨ event.attempt c = [.resubscribes] := by
  cases event with
  | resume s signal =>
    cases s with
    | scheduled h duration =>
      simp only [attempt, Client.attemptAt]
      split <;> simp
    | subscribing | pausing | releasing | dropping | closing => exact Or.inl rfl
  | openSession | closeSession | recoverSession | serve => exact Or.inl rfl

/-- A hand-off begins with the end of an opening or of a call, not of a hand-off. -/
theorem Event.handsOver_fresh {c : Client} {event : Event} (hands : event.handsOver c = true) :
    event.stage?.any (·.reconnects) = false := by
  cases event with
  | resume s signal =>
    cases s with
    | subscribing p failed =>
      cases p with
      | opening generation => rfl
      | recovering h => cases signal <;> cases hands
    | pausing | releasing | scheduled | dropping | closing => cases hands
  | openSession | closeSession | serve => cases hands
  | recoverSession generation => rfl

namespace Event

variable {c : Client} {event : Event} {m : Metrics} {step : Client × Progress}

theorem countP_stage (event : Event) :
    event.stage?.toList.countP (·.reconnects) = (event.stage?.any (·.reconnects)).toNat := by
  cases event.stage? with
  | none => rfl
  | some s => cases reconnects : s.reconnects <;> simp [reconnects]

/-- Nothing happens to a session but what has to do with its hand-offs. -/
theorem mem_incidents {p : Progress} {incident : Incident}
    (mem : incident ∈ event.incidents c p.settlement) :
    incident = .handsOver ∨ incident = .resubscribes ∨ ∃ result, incident = .settles result := by
  rcases List.mem_append.mp mem with earlier | settled
  · rcases List.mem_append.mp earlier with handed | attempt
    · split at handed
      · exact Or.inl (List.mem_singleton.mp handed)
      · cases handed
    · rcases event.attempt_eq c with none | one
      · rw [none] at attempt
        cases attempt
      · rw [one] at attempt
        exact Or.inr (Or.inl (List.mem_singleton.mp attempt))
  · split at settled
    · cases p with
      | ended result => exact Or.inr (Or.inr ⟨_, List.mem_singleton.mp settled⟩)
      | wait | lost => cases settled
    · cases settled

theorem countP_other {p : Progress} {kind : Incident → Bool} (hands : kind .handsOver = false)
    (attempts : kind .resubscribes = false) (settles : ∀ result, kind (.settles result) = false) :
    (event.incidents c p.settlement).countP kind = 0 := by
  apply List.countP_eq_zero.mpr
  intro incident mem
  rcases mem_incidents mem with rfl | rfl | ⟨result, rfl⟩
  · simp [hands]
  · simp [attempts]
  · simp [settles result]

/-- A panic hands nothing over and begins no attempt. -/
theorem incidents_broken (broke : event.broken ≠ []) (c : Client) : event.incidents c [] = [] := by
  cases event with
  | openSession | closeSession | recoverSession | serve => exact absurd rfl broke
  | resume s signal =>
    have panicked : s.panicked signal = true := by
      by_contra calm
      exact broke (if_neg calm)
    have none (kept : (Event.resume s signal).handsOver c = false) (due : c.attemptAt s = []) :
        (Event.resume s signal).incidents c [] = [] := by
      simp [incidents, attempt, kept, due]
    cases s with
    | subscribing p failed =>
      cases signal with
      | panicked detail => exact none (by cases p <;> rfl) rfl
      | returned | failed => cases panicked
    | releasing | dropping | closing => exact none rfl rfl
    | pausing | scheduled => cases panicked

theorem counts_incidents (attempt : c.metrics.Counts (event.attempt c) m)
    (bills : Bills m (event.isHandoff c) step) :
    c.metrics.Counts (event.incidents c step.2.settlement) step.1.metrics := by
  have handed : c.metrics.Counts (if event.handsOver c then [.handsOver] else []) c.metrics := by
    split
    · exact c.metrics.counts_handover
    · exact .refl _
  exact (handed.trans attempt).trans bills.counts

theorem count_handsOver {settled : List Incident} (none : settled.count .handsOver = 0) :
    (event.incidents c settled).count .handsOver = (event.handsOver c).toNat := by
  have quiet : (event.attempt c).count .handsOver = 0 := by
    rcases event.attempt_eq c with is | is <;> rw [is] <;> rfl
  rw [incidents, List.count_append, List.count_append, quiet]
  cases event.handsOver c <;> cases event.isHandoff c <;> simp [none]

theorem countP_endsHandoff (settled : List Incident) :
    (event.incidents c settled).countP Incident.endsHandoff =
      (if event.isHandoff c then settled else []).countP Incident.endsHandoff := by
  have quiet : (event.attempt c).countP Incident.endsHandoff = 0 := by
    rcases event.attempt_eq c with is | is <;> rw [is] <;> rfl
  rw [incidents, List.countP_append, List.countP_append, quiet]
  cases event.handsOver c <;> simp [Incident.endsHandoff]

/-- What is a hand-off after an event has been one before or has become one with it. -/
theorem isHandoff_eq (c : Client) (event : Event) :
    (event.stage?.any (·.reconnects)).toNat + (event.handsOver c).toNat =
      (event.isHandoff c).toNat := by
  rw [isHandoff]
  cases hands : event.handsOver c with
  | false =>
    rw [Bool.or_false]
    rfl
  | true =>
    rw [handsOver_fresh hands]
    rfl

/-- A hand-off goes on or ends. -/
theorem balance (bills : Bills m (event.isHandoff c) step) :
    event.stage?.toList.countP (·.reconnects) +
        (event.incidents c step.2.settlement).count .handsOver =
      step.2.stages.countP (·.reconnects) +
        (event.incidents c step.2.settlement).countP Incident.endsHandoff := by
  have handoff := isHandoff_eq c event
  obtain ⟨_, stays, lasts⟩ := bills
  obtain ⟨d, progress⟩ := step
  rw [countP_stage, countP_endsHandoff]
  cases progress with
  | lost => exact absurd rfl lasts
  | wait s =>
    have same : s.reconnects = event.isHandoff c := stays s rfl
    rw [count_handsOver rfl, handoff, ← same]
    cases which : s.reconnects <;> simp [Progress.stages, Progress.settlement, which]
  | ended result =>
    rw [count_handsOver rfl, handoff]
    cases event.isHandoff c <;> rfl

end Event

variable {π : Type}

/-- The operation of the call whose answer a task waits for. -/
def Work.measured? : Work π → Option Measured
  | submitting _ _ _ _ _ => some .requestRandomness
  | querying _ _ _ => some .getRandomness
  | _ => none

def Inquiry.measured : Inquiry → Measured
  | request _ _ _ => .requestRandomness
  | query _ => .getRandomness

theorem Inquiry.work_measured? (i : Inquiry) (generation exchange : Nat) :
    (i.work (π := π) generation exchange).measured? = some i.measured := by
  cases i <;> rfl

namespace World

/-- A call that has to wait has been admitted. -/
def admission (op : Measured) : Schedule.Next (Work π) Reply → List Incident
  | .wait _ _ => [.admits op]
  | .ended _ => []

/-- The end of a call, told by the reply. -/
def conclusion (op : Measured) : Schedule.Next (Work π) Reply → List Incident
  | .wait _ _ => []
  | .ended reply => [.concludes op (reply.failure?.map (·.kind))]

/-- The end of a hand-off, told by the reply. -/
def settlement : Schedule.Next (Work π) Reply → List Incident
  | .ended (.finished result) => [.settles (.ofResult result)]
  | _ => []

/-- A turn counts what happens in it, and what happens balances with the tasks under way. -/
structure Accounts (w : World π) (work : Work π) (incidents : List Incident) (turn : Turn π) :
    Prop where
  counts : w.client.metrics.Counts incidents turn.state.client.metrics
  invocations : turn.state.scene.host.invocations =
    w.scene.host.invocations + incidents.countP Incident.isInvocation
  handoffs : work.stage?.toList.countP (·.reconnects) + incidents.count .handsOver =
    (stagesOf turn.works).countP (·.reconnects) + incidents.countP Incident.endsHandoff +
      (work.event w).broken.countP (·.reconnects)
  calls : ∀ op, [work].countP (·.measured? = some op) + incidents.count (.admits op) =
    turn.works.countP (·.measured? = some op) + incidents.countP (Incident.endsCall op)

variable {now : Nat} {w : World π} {work : Work π}

/-- A task that is no operation of the session and waits for no answer. -/
def Idle (work : Work π) : Prop := work.stage? = none ∧ work.measured? = none

theorem stagesOf_idle {works : List (Work π)} (idle : ∀ new ∈ works, Idle new) :
    stagesOf works = [] :=
  List.filterMap_eq_nil_iff.mpr fun new mem => (idle new mem).1

theorem countP_idle {works : List (Work π)} (idle : ∀ new ∈ works, Idle new) (op : Measured) :
    works.countP (·.measured? = some op) = 0 :=
  List.countP_eq_zero.mpr fun new mem => by simp [(idle new mem).2]

theorem finish_idle {β : Type} (pending : Pending π β) :
    ∀ new ∈ (w.finish now pending).2.2.map (·.2), Idle new := by
  intro new mem
  obtain ⟨p, _, rfl⟩ := finish_spawned mem
  exact ⟨rfl, rfl⟩

theorem watchReady_idle (deadline : Nat) : ∀ new ∈ (w.watchReady now deadline).works, Idle new := by
  intro new mem
  obtain rfl := watchReady_works mem
  exact ⟨rfl, rfl⟩

/-- A turn that is neither an operation of the session nor concerned with a call counts nothing. -/
theorem accounts_quiet {turn : Turn π} (idle : Idle work) (serves : work.event w = .serve)
    (works : ∀ new ∈ turn.works, Idle new)
    (metrics : turn.state.client.metrics = w.client.metrics)
    (host : turn.state.scene.host.invocations = w.scene.host.invocations) :
    Accounts w work [] turn := by
  refine ⟨metrics ▸ .refl _, host, ?_, ?_⟩
  · rw [idle.1, stagesOf_idle works, serves]
    rfl
  · intro op
    rw [countP_idle works]
    simp [idle.2]

variable [Provider π]

/-- What happens in a publication, delivery after delivery. -/
def publishIncidents (r : Round) (w : World π) : List Incident :=
  recorded (fun s (_ : SubscriptionId) => s.deliver r) (fun s _ => s.deliverIncidents r)
    (held (store r w.provider).2) (w.announced r)

/-- What happens in the turn of a task. -/
def incidents (now : Nat) (w : World π) (work : Work π) : List Incident :=
  let next := (w.run now work).next
  match work with
  | .errand (.request _) => admission .requestRandomness next
  | .errand (.query _) => admission .getRandomness next
  | .submitting _ _ _ _ _ => conclusion .requestRandomness next
  | .querying _ _ _ => conclusion .getRandomness next
  | .publishing draw =>
    ({ w with provider := (draw w.provider).2 } : World π).publishIncidents (draw w.provider).1
  | work => (work.event w).incidents w.client (settlement next)

/-- A publication is heard in its deliveries. -/
theorem publish_hears (r : Round) (w : World π) :
    w.scene.Hears (w.publishIncidents r) (w.publish r).2.scene := by
  have told : w.scene.Hears [] (w.announced r) := by
    refine ⟨?_, rfl, by rintro incident ⟨⟩⟩
    have same : (w.announced r).client.metrics = w.client.metrics := Client.noteAll_metrics _ _
    rw [same]
    exact .refl _
  exact told.trans (Scene.recorded_hears (fun s _ _ => s.deliver_hears r) _)

/-- The turn of an operation of the session counts the attempt that begins with it and the end of
the hand-off that it is. -/
theorem accounts_proceed {b : World π} {spawned : List (Option Nat × Work π)}
    {step : Client × Progress} {m : Metrics} (other : work.measured? = none)
    (host : b.scene.host = w.scene.host) (works : ∀ new ∈ spawned.map (·.2), Idle new)
    (calm : (work.event w).broken = [])
    (attempt : w.client.metrics.Counts ((work.event w).attempt w.client) m)
    (bills : Bills m ((work.event w).isHandoff w.client) step) :
    Accounts w work
      ((work.event w).incidents w.client (settlement (b.proceed now spawned step).next))
      (b.proceed now spawned step) := by
  have settled : settlement (b.proceed now spawned step).next = step.2.settlement := by
    obtain ⟨c, progress⟩ := step
    cases progress <;> rfl
  have calls (op : Measured) :
      (b.proceed now spawned step).works.countP (·.measured? = some op) = 0 := by
    apply List.countP_eq_zero.mpr
    intro new mem
    obtain ⟨c, progress⟩ := step
    cases progress with
    | wait s =>
      rcases List.mem_append.mp mem with goes | spawned
      · obtain rfl := List.mem_singleton.mp goes
        simp [Work.measured?]
      · simp [(works new spawned).2]
    | ended | lost => simp [(works new mem).2]
  rw [settled]
  refine ⟨?_, ?_, ?_, ?_⟩
  · rw [proceed_client]
    exact Event.counts_incidents attempt bills
  · rw [proceed_host, host, Event.countP_other rfl rfl fun _ => rfl]
    rfl
  · rw [proceed_stages, stagesOf_idle works, List.append_nil, calm, ← Work.event_stage? w]
    exact Event.balance bills
  · intro op
    have admitted : ((work.event w).incidents w.client step.2.settlement).count (.admits op) = 0 :=
      Event.countP_other rfl rfl fun _ => rfl
    rw [calls op, admitted, Event.countP_other rfl rfl fun _ => rfl]
    simp [other]

/-- A panic is not counted at all. -/
theorem accounts_broken {s : Stage} {pending : Pending π s.Signal}
    (panicked : s.panicked (pending.finish w.provider).result = true) :
    Accounts w (.operation s pending) (w.incidents now (.operation s pending))
      (w.run now (.operation s pending)) := by
  have lost : (w.finish now pending).2.1.client.resume s (pending.finish w.provider).result =
      ((w.finish now pending).2.1.client, .lost) := Client.resume_panicked panicked _
  have broken : ((Work.operation s pending).event w).broken = [s] := if_pos panicked
  have turn : w.run now (.operation s pending) =
      ⟨(w.finish now pending).2.1, .ended .lost, (w.finish now pending).2.2⟩ := by
    have step : (w.finish now pending).2.1.client.resume s (w.finish now pending).1 = _ := lost
    simp only [run, step]
    rfl
  have none : w.incidents now (.operation s pending) = [] := by
    have incidents : w.incidents now (.operation s pending) =
        ((Work.operation s pending).event w).incidents w.client
          (settlement (w.run now (.operation s pending)).next) := rfl
    rw [incidents, turn]
    exact Event.incidents_broken (by simp [broken]) w.client
  have metrics : (w.finish now pending).2.1.client.metrics = w.client.metrics :=
    Client.noteAll_metrics _ _
  rw [none, turn]
  refine ⟨?_, rfl, ?_, ?_⟩
  · rw [metrics]
    exact .refl _
  · rw [broken, Schedule.Turn.works, Schedule.Next.works, List.nil_append, finish_stages]
    simp [Work.stage?]
  · intro op
    rw [Schedule.Turn.works, Schedule.Next.works, List.nil_append,
      countP_idle (finish_idle pending)]
    simp [Work.measured?]

section Calls

variable {errand : Errand} {i : Inquiry} (asks : errand.inquiry? now w = some i)
include asks

/-- A call that is admitted is waited for. -/
theorem accounts_admitted (ready : w.client.session.lifecycle = .ready) :
    Accounts w (.errand errand) (admission i.measured (w.begin now errand).next)
      (w.begin now errand) := by
  obtain ⟨next, spawned, _⟩ := begin_detaches asks ready
  have works : (w.begin now errand).works =
      [i.work w.client.session.generation w.exchanges, .calling i.call w.exchanges] := by
    rw [Schedule.Turn.works, next, spawned]
    rfl
  have quiet : w.client.metrics.Counts [] (w.begin now errand).state.client.metrics ∧
      (w.begin now errand).state.scene.host = w.scene.host := by
    cases errand with
    | openSession | closeSession | awaitReady | chain | account => cases asks
    | request handler =>
      have named : (w.nameRequest now).2.client = w.client := rfl
      simp only [begin, Client.admitRequest, Client.readyGeneration, named, if_pos ready,
        Except.map]
      exact ⟨w.client.metrics.counts_pending _, rfl⟩
    | query q =>
      simp only [begin, Client.readyGeneration, if_pos ready]
      exact ⟨.refl _, rfl⟩
  have serves : ((Work.errand errand).event w).broken = [] := by
    cases errand <;> rfl
  rw [next]
  refine ⟨(w.client.metrics.counts_admission i.measured).trans quiet.1,
    congrArg Host.invocations quiet.2, ?_, ?_⟩
  · rw [works, serves]
    cases i <;> rfl
  · intro op
    rw [works]
    cases i <;> cases op <;> rfl

/-- A call that is refused counts nowhere. -/
theorem accounts_refused (other : w.client.session.lifecycle ≠ .ready) :
    Accounts w (.errand errand) (admission i.measured (w.begin now errand).next)
      (w.begin now errand) := by
  cases errand with
  | openSession | closeSession | awaitReady | chain | account => cases asks
  | request handler =>
    have named : (w.nameRequest now).2.client = w.client := rfl
    simp only [begin, Client.admitRequest, Client.readyGeneration, named, if_neg other, Except.map]
    exact accounts_quiet ⟨rfl, rfl⟩ rfl (by rintro new ⟨⟩) rfl rfl
  | query q =>
    simp only [begin, Client.readyGeneration, if_neg other]
    exact accounts_quiet ⟨rfl, rfl⟩ rfl (by rintro new ⟨⟩) rfl rfl

theorem accounts_begin :
    Accounts w (.errand errand) (w.incidents now (.errand errand)) (w.begin now errand) := by
  have incidents : w.incidents now (.errand errand) =
      admission i.measured (w.begin now errand).next := by
    cases errand with
    | request | query =>
      obtain rfl := Option.some.inj asks
      rfl
    | openSession | closeSession | awaitReady | chain | account => cases asks
  rw [incidents]
  by_cases ready : w.client.session.lifecycle = .ready
  · exact accounts_admitted asks ready
  · exact accounts_refused asks ready

end Calls

/-- The end of the wait for an answer is counted with what is replied. -/
theorem run_inquiry_metrics (now : Nat) (w : World π) (i : Inquiry) (generation exchange : Nat)
    {reply : Reply}
    (is : reply = i.reply (i.ending w.client.config.requestTimeout (i.outcome? w exchange))) :
    (w.run now (i.work generation exchange)).state.client.metrics =
      w.client.metrics.recordRequest i.measured (reply.failure?.map (·.kind)) ∧
    (w.run now (i.work generation exchange)).state.scene.host.invocations =
      w.scene.host.invocations := by
  subst is
  cases i with
  | request name id op =>
    have first : (w.client.concludeRequest id op (raced (w.submissionOutcome? exchange))).1 = _ :=
      submissionResult_eq w.client.config.requestTimeout name id op (w.submissionOutcome? exchange)
    have metrics := concludeRequest_metrics id op (raced (w.submissionOutcome? exchange)) w.client
    have told (result : Except Failure Receipt) :
        Client.failureKind? (result.map fun _ => ()) =
          (Reply.requested (result.map fun _ => id)).failure?.map (·.kind) := by
      cases result <;> rfl
    rw [first, told] at metrics
    simp only [Inquiry.work, Inquiry.outcome?, run]
    split <;> exact ⟨metrics, rfl⟩
  | query q =>
    have first : (w.client.concludeQuery q (raced (w.queryOutcome? exchange))).1 = _ :=
      queryResult_eq w.client.config.requestTimeout q (w.queryOutcome? exchange)
    have metrics := concludeQuery_metrics q (raced (w.queryOutcome? exchange)) w.client
    have told (result : Except Failure (Option Randomness)) :
        Client.failureKind? result = (Reply.found result).failure?.map (·.kind) := by
      cases result <;> rfl
    rw [first, told] at metrics
    exact ⟨metrics, rfl⟩

/-- The end of the wait for an answer is the end of the call. -/
theorem accounts_conclude (i : Inquiry) (generation exchange : Nat) :
    Accounts w (i.work generation exchange) (w.incidents now (i.work generation exchange))
      (w.run now (i.work generation exchange)) := by
  obtain ⟨next, spawned, _⟩ := run_inquiry now w i generation exchange rfl
  obtain ⟨metrics, host⟩ := run_inquiry_metrics now w i generation exchange rfl
  have incidents : w.incidents now (i.work generation exchange) =
      conclusion i.measured (w.run now (i.work generation exchange)).next := by
    cases i <;> rfl
  have idle : ∀ new ∈ (w.run now (i.work generation exchange)).works, Idle new := by
    intro new mem
    rw [Schedule.Turn.works, next, spawned] at mem
    split at mem
    · obtain rfl := List.mem_singleton.mp mem
      exact ⟨rfl, rfl⟩
    · cases mem
  rw [incidents, next]
  refine ⟨?_, host, ?_, ?_⟩
  · rw [metrics]
    exact w.client.metrics.counts_request _ _
  · rw [stagesOf_idle idle]
    cases i <;> rfl
  · intro op
    rw [countP_idle idle]
    simp [conclusion, Inquiry.work_measured?, Incident.endsCall]

theorem accounts_publishing (draw : π → Round × π) :
    Accounts w (.publishing draw) (w.incidents now (.publishing draw))
      (w.run now (.publishing draw)) := by
  have hears : w.scene.Hears (w.incidents now (.publishing draw))
      (w.run now (.publishing draw)).state.scene :=
    publish_hears (draw w.provider).1 { w with provider := (draw w.provider).2 }
  have handed : (w.incidents now (.publishing draw)).count .handsOver = 0 :=
    hears.countP_other rfl fun _ => rfl
  have settled : (w.incidents now (.publishing draw)).countP Incident.endsHandoff = 0 :=
    hears.countP_other rfl fun _ => rfl
  refine ⟨hears.counts, hears.invocations, ?_, ?_⟩
  · rw [handed, settled]
    rfl
  · intro op
    have admitted : (w.incidents now (.publishing draw)).count (.admits op) = 0 :=
      hears.countP_other rfl fun _ => rfl
    have ended : (w.incidents now (.publishing draw)).countP (Incident.endsCall op) = 0 :=
      hears.countP_other rfl fun _ => rfl
    rw [admitted, ended]
    rfl

/-- A turn counts what happens in it, and it balances with the tasks under way. -/
theorem run_accounts (now : Nat) (w : World π) (work : Work π) :
    Accounts w work (w.incidents now work) (w.run now work) := by
  have told {β : Type} (pending : Pending π β) :
      (w.finish now pending).2.1.client.metrics = w.client.metrics := Client.noteAll_metrics _ _
  cases work with
  | errand errand =>
    cases errand with
    | openSession =>
      exact accounts_proceed rfl rfl (by rintro new ⟨⟩) rfl (.refl _) w.client.openSession_bills
    | closeSession =>
      obtain ⟨m, gauge, bills⟩ := w.client.closeSession_bills
      exact accounts_proceed rfl rfl (by rintro new ⟨⟩) rfl gauge bills
    | request handler => exact accounts_begin rfl
    | query q => exact accounts_begin rfl
    | awaitReady limit =>
      have same := watchReady_state now (now + limit) w
      exact accounts_quiet ⟨rfl, rfl⟩ rfl (watchReady_idle _)
        (congrArg (·.client.metrics) same) (congrArg (·.scene.host.invocations) same)
    | chain | account =>
      refine accounts_quiet ⟨rfl, rfl⟩ rfl ?_ rfl rfl
      intro new mem
      obtain rfl := List.mem_singleton.mp mem
      exact ⟨rfl, rfl⟩
  | recovery generation =>
    exact accounts_proceed rfl rfl (by rintro new ⟨⟩) rfl (.refl _)
      (w.client.handOff_bills .lostCall generation)
  | operation s pending =>
    cases panics : s.panicked (pending.finish w.provider).result with
    | true => exact accounts_broken panics
    | false =>
      have noted : (w.finish now pending).2.1.client = { w.client with
          journal := (pending.finish w.provider).notices.reverse ++ w.client.journal } :=
        Client.noteAll_eq _ _
      have hands : (Event.resume s (pending.finish w.provider).result).handsOver
          (w.finish now pending).2.1.client =
            (Event.resume s (pending.finish w.provider).result).handsOver w.client := by
        rw [noted]
        rfl
      have attempted : (w.finish now pending).2.1.client.attemptAt s = w.client.attemptAt s := by
        rw [noted]
        rfl
      obtain ⟨m, attempt, bills⟩ := (w.finish now pending).2.1.client.resume_bills s panics
      have calm : ((Work.operation s pending).event w).broken = [] := if_neg (by simp [panics])
      rw [told pending, attempted] at attempt
      rw [hands] at bills
      exact accounts_proceed rfl rfl (finish_idle pending) calm attempt bills
  | submitting name id op generation exchange =>
    exact accounts_conclude (.request name id op) generation exchange
  | querying q generation exchange => exact accounts_conclude (.query q) generation exchange
  | calling d exchange =>
    cases d <;> refine accounts_quiet ⟨rfl, rfl⟩ rfl ?_ rfl rfl
    all_goals
      intro new mem
      obtain rfl := List.mem_singleton.mp mem
      exact ⟨rfl, rfl⟩
  | inFlight d exchange pending =>
    exact accounts_quiet ⟨rfl, rfl⟩ rfl (finish_idle pending) (told pending) rfl
  | publishing draw => exact accounts_publishing draw
  | watching deadline seen =>
    have same := watchReady_state now deadline w
    exact accounts_quiet ⟨rfl, rfl⟩ rfl (watchReady_idle _)
      (congrArg (·.client.metrics) same) (congrArg (·.scene.host.invocations) same)
  | askingChain pending | askingAccount pending =>
    exact accounts_quiet ⟨rfl, rfl⟩ rfl (finish_idle pending) (told pending) rfl

end World

end RandomBeacon
