import RandomBeacon.Proofs.Replies
import RandomBeacon.Proofs.Timely

/-!
Provider calls that are detached from whoever waits for them. What the turn of a task is to these
calls is one of four things (`World.Trades`): none is concerned, one is detached, one begins, or one
ends and leaves its answer. Calls are numbered once and for all, so the answer under a number is
that of one call (`Traded`), and what happens to a call can be written down (`milestones`). What the
wait for a call comes to is what its end means (`Inquiry.verdict`) or that the deadline came first.
-/

namespace RandomBeacon

/-- A request or a query that a client has taken. -/
inductive Inquiry where
  | request (name : String) (id : RequestId) (op : Operation)
  | query (q : Query)

namespace Inquiry

/-- The provider call that it waits for. -/
abbrev call : Inquiry → Detached
  | request _ _ op => .submit op
  | query q => .query q

/-- What a failure of that call carries. -/
def subject : Inquiry → Request
  | request _ _ op => .operation op
  | query q => .query q

/-- The wait for that call. -/
def work {π : Type} (generation exchange : Nat) : Inquiry → Work π
  | request name id op => .submitting name id op generation exchange
  | query q => .querying q generation exchange

/-- The refusal that an answer is, if it is one. -/
def refusal? : (i : Inquiry) → i.call.Reply → Option Failure
  | request _ _ op, receipt =>
    if receipt.success then none
    else some (.request (.operation op) (some receipt)
      (receipt.error.getD "provider reported failure"))
  | query _, _ => none

/-- What the end of the call means. -/
def verdict (i : Inquiry) : Outcome i.call.Reply → Except Failure i.call.Reply
  | .returned answer => (i.refusal? answer).elim (.ok answer) .error
  | .failed (.transport detail) => .error (.network (some (.transport detail)))
  | .failed fault => .error (.request i.subject none fault.message)
  | .panicked detail =>
    .error (.network (some (.internal ("provider call aborted: " ++ abortReason detail))))

/-- What the wait for the call comes to: there is no outcome if the deadline came first. -/
def ending (limit : Nat) (i : Inquiry) : Option (Outcome i.call.Reply) → Except Failure i.call.Reply
  | some outcome => i.verdict outcome
  | none => .error (.timeout (1000 * limit))

/-- What is replied to the one who asked. -/
def reply : (i : Inquiry) → Except Failure i.call.Reply → Reply
  | request _ id _, result => .requested (result.map fun _ => id)
  | query _, result => .found (result.map fun lookup => lookup.round.map Round.result)

end Inquiry

/-- Whether a reply tells of a lost call: a network error or a timeout. -/
def Reply.isLost (r : Reply) : Bool :=
  r.failure?.any fun e => e.kind = .network || e.kind = .timeout

/-- What happens to a detached call. -/
inductive Milestone where
  | begins (instant delay : Nat)
  | ends (instant : Nat) (answer : Answer)
  deriving DecidableEq

def Detached.call (address : String) : Detached → Call
  | submit op => .submit op address
  | query q => .query q address

section Works

variable {π : Type}

/-- The request or the query that an errand is. -/
def Errand.inquiry? (now : Nat) (w : World π) : Errand → Option Inquiry
  | request handler =>
    let id := (w.nameRequest now).1
    some (.request handler.name id (.requestRandomness id.text (UInt64.ofNat now)))
  | query q => some (.query q)
  | openSession | closeSession | awaitReady _ | chain | account => none

/-- How the call of this number has ended, as the one who waits for it finds it. -/
def Inquiry.outcome? (w : World π) (exchange : Nat) : (i : Inquiry) → Option (Outcome i.call.Reply)
  | request _ _ _ => w.submissionOutcome? exchange
  | query _ => w.queryOutcome? exchange

theorem Inquiry.outcome?_of_lookup {w : World π} {exchange : Nat} {i : Inquiry}
    {outcome : Option (Outcome i.call.Reply)}
    (answered : w.answers.lookup exchange = outcome.map i.call.answer) :
    i.outcome? w exchange = outcome := by
  cases i with
  | request =>
    rw [outcome?, World.submissionOutcome?, answered]
    cases outcome <;> rfl
  | query =>
    rw [outcome?, World.queryOutcome?, answered]
    cases outcome <;> rfl

/-- The number of the detached call that a task makes. -/
def Work.exchange? : Work π → Option Nat
  | calling _ exchange => some exchange
  | inFlight _ exchange _ => some exchange
  | _ => none

/-- Who waits for a call makes none. -/
@[simp] theorem Inquiry.work_exchange? (i : Inquiry) (generation exchange : Nat) :
    (i.work (π := π) generation exchange).exchange? = none := by
  cases i <;> rfl

/-- Who waits for a call is woken by its answer. -/
theorem Inquiry.work_woken (i : Inquiry) (generation exchange : Nat) (w : World π) :
    w.woken (i.work generation exchange) = (w.answers.lookup exchange).isSome := by
  cases i <;> rfl

/-- What the turn of a task is to the call of this number. -/
def Work.milestone? [Provider π] (exchange now : Nat) (w : World π) : Work π → Option Milestone
  | calling d x =>
    if x = exchange then
      some (.begins now (Provider.start (d.call w.address) w.provider).1.delay)
    else none
  | inFlight d x pending =>
    if x = exchange then some (.ends now (d.answer (pending.finish w.provider).result)) else none
  | _ => none

end Works

namespace World

variable {π : Type}

section Ending

variable {now : Nat} {w : World π}

theorem submissionResult_eq (limit : Nat) (name : String) (id : RequestId) (op : Operation)
    (outcome : Option (Outcome Receipt)) :
    Client.submissionResult op ((raced outcome).answer limit) =
      (Inquiry.ending limit (.request name id op) outcome).map fun _ => () := by
  cases outcome with
  | none => rfl
  | some outcome =>
    cases outcome with
    | returned receipt =>
      simp only [raced, Option.elim_some, Raced.answer, Client.submissionResult, Inquiry.ending,
        Inquiry.verdict, Inquiry.refusal?]
      split <;> rfl
    | failed fault => cases fault <;> rfl
    | panicked detail => rfl

theorem queryResult_eq (limit : Nat) (q : Query) (outcome : Option (Outcome Lookup)) :
    Client.queryResult q ((raced outcome).answer limit) =
      (Inquiry.ending limit (.query q) outcome).map fun lookup => lookup.round.map Round.result := by
  cases outcome with
  | none => rfl
  | some outcome =>
    cases outcome with
    | returned lookup => rfl
    | failed fault => cases fault <;> rfl
    | panicked detail => rfl

theorem isLost_reply (i : Inquiry) (result : Except Failure i.call.Reply) :
    (i.reply result).isLost = Client.isLost result := by
  cases i with
  | request => cases result <;> rfl
  | query => cases result <;> rfl

theorem isLost_map {α β : Type} (f : α → β) (result : Except Failure α) :
    Client.isLost (result.map f) = Client.isLost result := by
  cases result <;> rfl

variable [Provider π]

/-- A wait for a call ends with its first turn, and leaves a recovery if the call is lost. -/
theorem run_inquiry (now : Nat) (w : World π) (i : Inquiry) (generation exchange : Nat)
    {result : Reply}
    (is : result = i.reply (i.ending w.client.config.requestTimeout (i.outcome? w exchange))) :
    (w.run now (i.work generation exchange)).next = .ended result ∧
    (w.run now (i.work generation exchange)).spawned =
      (if result.isLost then [(some now, .recovery generation)] else []) ∧
    (w.run now (i.work generation exchange)).state.client.core = w.client.core := by
  subst is
  rw [isLost_reply]
  cases i with
  | request name id op =>
    have core := concludeRequest_core id op (raced (w.submissionOutcome? exchange)) w.client
    have first : (w.client.concludeRequest id op (raced (w.submissionOutcome? exchange))).1 = _ :=
      submissionResult_eq w.client.config.requestTimeout name id op (w.submissionOutcome? exchange)
    simp only [Inquiry.work, Inquiry.outcome?, run, first, recoveries, isLost_map]
    refine ⟨?_, rfl, ?_⟩
    · cases Inquiry.ending w.client.config.requestTimeout (.request name id op)
        (w.submissionOutcome? exchange) <;> rfl
    · split <;> exact core
  | query q =>
    have core := concludeQuery_core q (raced (w.queryOutcome? exchange)) w.client
    have first : (w.client.concludeQuery q (raced (w.queryOutcome? exchange))).1 = _ :=
      queryResult_eq w.client.config.requestTimeout q (w.queryOutcome? exchange)
    simp only [Inquiry.work, Inquiry.outcome?, run, first, recoveries, isLost_map]
    exact ⟨rfl, rfl, core⟩

end Ending

section Turns

variable {now : Nat} {w : World π}

/-- How many calls have been detached, and the answers of those that have ended. -/
def exchanged (w : World π) : Nat × List (Nat × Answer) := (w.exchanges, w.answers)

theorem watchReady_exchange? (deadline : Nat) :
    ∀ new ∈ (w.watchReady now deadline).works, new.exchange? = none := by
  intro new mem
  obtain rfl := watchReady_works mem
  rfl

theorem finish_exchange? {β : Type} (pending : Pending π β) :
    ∀ new ∈ (w.finish now pending).2.2.map (·.2), new.exchange? = none := by
  intro new mem
  obtain ⟨p, _, rfl⟩ := finish_spawned mem
  rfl

theorem recoveries_exchange? {α : Type} (generation : Nat) (result : Except Failure α) :
    ∀ new ∈ (recoveries (π := π) now generation result).map (·.2), new.exchange? = none := by
  intro new mem
  obtain rfl := recoveries_spawned mem
  rfl

variable [Provider π]

theorem proceed_exchanged (spawned : List (Option Nat × Work π)) (step : Client × Progress) :
    (w.proceed now spawned step).state.exchanged = w.exchanged := by
  obtain ⟨c, progress⟩ := step
  cases progress with
  | wait stage => cases stage <;> rfl
  | ended | lost => rfl

theorem proceed_exchange? {spawned : List (Option Nat × Work π)} (step : Client × Progress)
    (idle : ∀ new ∈ spawned.map (·.2), new.exchange? = none) :
    ∀ new ∈ (w.proceed now spawned step).works, new.exchange? = none := by
  obtain ⟨c, progress⟩ := step
  intro new mem
  cases progress with
  | wait stage =>
    rcases List.mem_append.mp mem with goes | spawned
    · obtain rfl := List.mem_singleton.mp goes
      rfl
    · exact idle new spawned
  | ended | lost => exact idle new mem

/-- What the turn of a task is to the detached calls. -/
inductive Trades (now : Nat) (w : World π) : Work π → Turn π → Prop
  | apart {work : Work π} {turn : Turn π} (idle : work.exchange? = none)
      (works : ∀ new ∈ turn.works, new.exchange? = none)
      (kept : turn.state.exchanged = w.exchanged) : Trades now w work turn
  | detaches {errand : Errand} {i : Inquiry} {turn : Turn π}
      (asks : errand.inquiry? now w = some i)
      (next : turn.next = .wait (some (now + w.client.config.requestTimeout))
        (i.work w.client.session.generation w.exchanges))
      (spawned : turn.spawned = [(some now, .calling i.call w.exchanges)])
      (counted : turn.state.exchanged = (w.exchanges + 1, w.answers)) :
      Trades now w (.errand errand) turn
  | begins (d : Detached) (exchange : Nat) {turn : Turn π} {pending : Pending π (Outcome d.Reply)}
      (delay : pending.delay = (Provider.start (d.call w.address) w.provider).1.delay)
      (next : turn.next = .wait (some (now + pending.delay)) (.inFlight d exchange pending))
      (spawned : turn.spawned = []) (kept : turn.state.exchanged = w.exchanged) :
      Trades now w (.calling d exchange) turn
  | ends (d : Detached) (exchange : Nat) (pending : Pending π (Outcome d.Reply)) {turn : Turn π}
      (next : turn.next = .ended .unheard) (works : ∀ new ∈ turn.works, new.exchange? = none)
      (answered : turn.state.exchanged =
        (w.exchanges, (exchange, d.answer (pending.finish w.provider).result) :: w.answers)) :
      Trades now w (.inFlight d exchange pending) turn

/-- A client that is ready takes a request or a query, and its call is detached. -/
theorem begin_detaches {errand : Errand} {i : Inquiry} (asks : errand.inquiry? now w = some i)
    (ready : w.client.session.lifecycle = .ready) :
    (w.begin now errand).next = .wait (some (now + w.client.config.requestTimeout))
      (i.work w.client.session.generation w.exchanges) ∧
    (w.begin now errand).spawned = [(some now, .calling i.call w.exchanges)] ∧
    (w.begin now errand).state.exchanged = (w.exchanges + 1, w.answers) := by
  cases errand with
  | openSession | closeSession | awaitReady | chain | account => cases asks
  | request handler =>
    obtain rfl := Option.some.inj asks
    have named : (w.nameRequest now).2.client = w.client := rfl
    simp only [begin, Client.admitRequest, Client.readyGeneration, named, if_pos ready, Except.map]
    exact ⟨rfl, rfl, rfl⟩
  | query q =>
    obtain rfl := Option.some.inj asks
    simp only [begin, Client.readyGeneration, if_pos ready]
    exact ⟨rfl, rfl, rfl⟩

theorem begin_trades (errand : Errand) : Trades now w (.errand errand) (w.begin now errand) := by
  cases errand with
  | openSession | closeSession =>
    exact .apart rfl (proceed_exchange? _ (by rintro new ⟨⟩)) (proceed_exchanged _ _)
  | awaitReady limit => exact .apart rfl (watchReady_exchange? _) (congrArg exchanged (watchReady_state now _ w))
  | chain | account =>
    refine .apart rfl ?_ rfl
    intro new mem
    obtain rfl := List.mem_singleton.mp mem
    rfl
  | request handler =>
    by_cases ready : w.client.session.lifecycle = .ready
    · have asks : (Errand.request handler).inquiry? now w = some _ := rfl
      obtain ⟨next, spawned, counted⟩ := begin_detaches asks ready
      exact .detaches rfl next spawned counted
    · have named : (w.nameRequest now).2.client = w.client := rfl
      simp only [begin, Client.admitRequest, Client.readyGeneration, named, if_neg ready, Except.map]
      exact .apart rfl (by rintro new ⟨⟩) rfl
  | query q =>
    by_cases ready : w.client.session.lifecycle = .ready
    · have asks : (Errand.query q).inquiry? now w = some _ := rfl
      obtain ⟨next, spawned, counted⟩ := begin_detaches asks ready
      exact .detaches rfl next spawned counted
    · simp only [begin, Client.readyGeneration, if_neg ready]
      exact .apart rfl (by rintro new ⟨⟩) rfl

/-- The turn of a task is one of the four to the detached calls. -/
theorem run_trades (now : Nat) (w : World π) (work : Work π) :
    Trades now w work (w.run now work) := by
  cases work with
  | errand errand => exact begin_trades errand
  | recovery generation =>
    exact .apart rfl (proceed_exchange? _ (by rintro new ⟨⟩)) (proceed_exchanged _ _)
  | operation s pending =>
    exact .apart rfl (proceed_exchange? _ (finish_exchange? pending)) (proceed_exchanged _ _)
  | submitting name id op generation exchange =>
    refine .apart rfl (recoveries_exchange? generation _) ?_
    simp only [run]
    split <;> rfl
  | querying q generation exchange =>
    exact .apart rfl (recoveries_exchange? generation _) rfl
  | calling d exchange => cases d <;> exact .begins _ exchange rfl rfl rfl rfl
  | inFlight d exchange pending =>
    exact .ends d exchange pending rfl (finish_exchange? pending) rfl
  | publishing draw => exact .apart rfl (by rintro new ⟨⟩) rfl
  | watching deadline seen => exact .apart rfl (watchReady_exchange? _) (congrArg exchanged (watchReady_state now _ w))
  | askingChain pending | askingAccount pending =>
    exact .apart rfl (finish_exchange? pending) rfl

end Turns

section Numbers

variable [Provider π] {now exchange : Nat} {w : World π} {work new : Work π} {turn : Turn π}

/-- Numbers are given upwards. -/
theorem Trades.count (trades : Trades now w work turn) : w.exchanges ≤ turn.state.exchanges := by
  cases trades with
  | apart _ _ kept | begins _ _ _ _ _ kept => exact Nat.le_of_eq (congrArg Prod.fst kept).symm
  | detaches _ _ _ counted =>
    exact Nat.le_trans (Nat.le_succ _) (Nat.le_of_eq (congrArg Prod.fst counted).symm)
  | ends _ _ _ _ _ answered => exact Nat.le_of_eq (congrArg Prod.fst answered).symm

/-- A task that goes on with a call has made that call before. -/
theorem Trades.goes (trades : Trades now w work turn) {due : Option Nat}
    (next : turn.next = .wait due new) (makes : new.exchange? = some exchange) :
    work.exchange? = some exchange := by
  have inside : new ∈ turn.works := by simp [Schedule.Turn.works, next, Schedule.Next.works]
  cases trades with
  | apart _ works | ends _ _ _ _ works =>
    rw [works new inside] at makes
    cases makes
  | @detaches _ i _ _ is =>
    rw [is] at next
    cases next
    rw [Inquiry.work_exchange?] at makes
    cases makes
  | begins _ _ _ is =>
    rw [is] at next
    cases next
    exact makes

/-- A call that starts with a turn has a new number. -/
theorem Trades.starts (trades : Trades now w work turn) (mem : new ∈ turn.spawned.map (·.2))
    (makes : new.exchange? = some exchange) :
    exchange = w.exchanges ∧ turn.state.exchanges = w.exchanges + 1 := by
  have inside : new ∈ turn.works := List.mem_append_right _ mem
  cases trades with
  | apart _ works | ends _ _ _ _ works =>
    rw [works new inside] at makes
    cases makes
  | detaches _ _ spawned counted =>
    rw [spawned] at mem
    obtain rfl := List.mem_singleton.mp mem
    exact ⟨(Option.some.inj makes).symm, congrArg Prod.fst counted⟩
  | begins _ _ _ _ spawned =>
    rw [spawned] at mem
    cases mem

/-- The answer under a number is left alone by the turns of other calls. -/
theorem Trades.lookup (trades : Trades now w work turn) (other : work.exchange? ≠ some exchange) :
    turn.state.answers.lookup exchange = w.answers.lookup exchange := by
  cases trades with
  | apart _ _ kept | begins _ _ _ _ _ kept =>
    exact congrArg (fun x => x.2.lookup exchange) kept
  | detaches _ _ _ counted => exact congrArg (fun x => x.2.lookup exchange) counted
  | ends d number pending _ _ answered =>
    have differs : (exchange == number) = false :=
      beq_false_of_ne fun same => other (congrArg some same.symm)
    have answers : turn.state.answers = _ := congrArg Prod.snd answered
    rw [answers]
    simp [List.lookup_cons, differs]

theorem Trades.answered (trades : Trades now w work turn) {entry : Nat × Answer}
    (mem : entry ∈ turn.state.answers) : entry ∈ w.answers ∨ work.exchange? = some entry.1 := by
  cases trades with
  | apart _ _ kept | begins _ _ _ _ _ kept =>
    have answers : turn.state.answers = w.answers := congrArg Prod.snd kept
    exact Or.inl (answers ▸ mem)
  | detaches _ _ _ counted =>
    have answers : turn.state.answers = w.answers := congrArg Prod.snd counted
    exact Or.inl (answers ▸ mem)
  | ends d number pending _ _ answered =>
    have answers : turn.state.answers = _ := congrArg Prod.snd answered
    rw [answers] at mem
    rcases List.mem_cons.mp mem with rfl | old
    · exact Or.inr rfl
    · exact Or.inl old

theorem resume_trades (now : Nat) (task : Schedule.Task (Work π)) (w : World π) :
    Trades now w task.work (rules.resume now task w) := by
  -- what is written into the journal concerns no call
  have same : (rules.resume now task w).state.exchanged = (w.run now task.work).state.exchanged :=
    rfl
  have trades := run_trades now w task.work
  obtain ⟨id, due, work⟩ := task
  simp only [rules] at same trades ⊢
  generalize w.run now work = turn at same trades ⊢
  cases trades with
  | apart idle works kept => exact .apart idle works (same.trans kept)
  | detaches asks next spawned counted => exact .detaches asks next spawned (same.trans counted)
  | begins d exchange delay next spawned kept =>
    exact .begins d exchange delay next spawned (same.trans kept)
  | ends d exchange pending next works answered =>
    exact .ends d exchange pending next works (same.trans answered)

end Numbers

namespace Timeline

variable [Provider π] {e : Surroundings π} {s t : Timeline π} {a : Action π}
  {exchange caller : Nat} {task : Schedule.Task (Work π)}

/-- What an action is to the call of this number. -/
def milestones (exchange : Nat) (t : Timeline π) (a : Action π) : List Milestone :=
  ((t.work? a).bind (·.milestone? exchange t.now t.state)).toList

/-- What happens to the call of this number while actions are taken. -/
def milestonesOf (exchange : Nat) (t : Timeline π) (actions : List (Action π)) : List Milestone :=
  recorded act (milestones exchange) actions t

/-- No call has a number that is still to come. -/
structure Traded (t : Timeline π) : Prop where
  made : ∀ task ∈ t.tasks, ∀ x, task.work.exchange? = some x → x < t.state.exchanges
  answered : ∀ entry ∈ t.state.answers, entry.1 < t.state.exchanges

/-- The call of this number is made by the task `caller`, if it is being made. -/
structure Makes (exchange caller : Nat) (t : Timeline π) : Prop where
  sole : ∀ task ∈ t.tasks, task.work.exchange? = some exchange → task.id = caller
  counted : exchange < t.state.exchanges
  given : caller < t.issued

omit [Provider π] in
theorem traded_fresh (config : Config) (factors : Nat → Binary64) (provider : π)
    (suffixes : Nat → Suffix) : Traded (fresh config factors provider suffixes) :=
  ⟨by rintro task ⟨⟩, by rintro entry ⟨⟩⟩

/-- What other tasks make after a turn they have made before, or has a new number. -/
theorem exchange?_fire {other : Schedule.Task (Work π)} (mem : task ∈ t.tasks)
    (inside : other ∈ (t.fire rules task).tasks) {x : Nat} (makes : other.work.exchange? = some x) :
    (∃ before ∈ t.tasks, before.id = other.id ∧ before.work.exchange? = some x) ∨
    x = t.state.exchanges ∧ (t.fire rules task).state.exchanges = t.state.exchanges + 1 := by
  have trades := resume_trades t.now task t.state
  rcases Schedule.Timeline.mem_fire_waits inside with ⟨old, _⟩ | ⟨same, next⟩ | ⟨_, spawned⟩
  · exact Or.inl ⟨other, old, rfl, makes⟩
  · exact Or.inl ⟨task, mem, same.symm, trades.goes next makes⟩
  · have new := trades.starts (List.mem_map.mpr ⟨_, spawned, rfl⟩) makes
    rw [Schedule.Timeline.state_fire]
    exact Or.inr new

theorem fire_traded (mem : task ∈ t.tasks) (traded : t.Traded) :
    Traded (t.fire rules task) := by
  have trades := resume_trades t.now task t.state
  have count := trades.count
  rw [← Schedule.Timeline.state_fire] at count
  constructor
  · intro other inside x makes
    rcases exchange?_fire mem inside makes with ⟨before, old, _, made⟩ | ⟨rfl, next⟩
    · exact Nat.lt_of_lt_of_le (traded.made before old x made) count
    · omega
  · intro entry ended
    refine Nat.lt_of_lt_of_le ?_ count
    rw [Schedule.Timeline.state_fire] at ended
    rcases trades.answered ended with old | own
    · exact traded.answered entry old
    · exact traded.made task mem entry.1 own

theorem Step.traded (step : Step e s t) (traded : s.Traded) : t.Traded := by
  cases step with
  | turn task mem => exact fire_traded mem traded
  | ask errand =>
    refine ⟨?_, traded.answered⟩
    intro task mem x makes
    rcases List.mem_append.mp mem with old | new
    · exact traded.made task old x makes
    · obtain rfl := List.mem_singleton.mp new
      cases makes
  | pass | cancel | listen | unlisten | publish | adjust => exact ⟨traded.made, traded.answered⟩

theorem Reachable.traded (run : Reachable e s t) (traded : s.Traded) : t.Traded := by
  induction run with
  | start => exact traded
  | next _ step ih => exact step.traded ih

/-- A call is made by the same task all along. -/
theorem Makes.step (makes : s.Makes exchange caller) (step : Step e s t) :
    t.Makes exchange caller := by
  obtain ⟨sole, counted, given⟩ := makes
  cases step with
  | turn task mem =>
    have count := (resume_trades s.now task s.state).count
    rw [← Schedule.Timeline.state_fire] at count
    refine ⟨?_, Nat.lt_of_lt_of_le counted count,
      Nat.lt_of_lt_of_le given (Schedule.Timeline.issued_fire rules s task)⟩
    intro other inside is
    rcases exchange?_fire mem inside is with ⟨before, old, same, made⟩ | ⟨rfl, _⟩
    · exact same.symm.trans (sole before old made)
    · exact absurd counted (Nat.lt_irrefl _)
  | ask errand =>
    refine ⟨?_, counted, Nat.lt_succ_of_lt given⟩
    intro task mem is
    rcases List.mem_append.mp mem with old | new
    · exact sole task old is
    · obtain rfl := List.mem_singleton.mp new
      cases is
  | pass | cancel | listen | unlisten | publish | adjust => exact ⟨sole, counted, given⟩

theorem milestone?_other {work : Work π} (other : work.exchange? ≠ some exchange) (now : Nat)
    (w : World π) : work.milestone? exchange now w = none := by
  cases work with
  | calling d x =>
    have differs : x ≠ exchange := fun same => other (congrArg some same)
    exact if_neg differs
  | inFlight d x pending =>
    have differs : x ≠ exchange := fun same => other (congrArg some same)
    exact if_neg differs
  | errand | recovery | operation | submitting | querying | publishing | watching | askingChain
  | askingAccount => rfl

theorem milestones_turn (found : t.task? caller = some task) :
    t.milestones exchange (.turn caller) =
      (task.work.milestone? exchange t.now t.state).toList := by
  rw [milestones, work?, found]
  rfl

/-- A wait for a call ends in its turn, leaves the session alone, and starts a recovery if the call
is lost, and else nothing. -/
theorem turn_inquiry (numbered : t.Numbered) {number generation : Nat} {due : Option Nat}
    {i : Inquiry} (found : t.task? number = some ⟨number, due, i.work generation exchange⟩)
    {result : Reply} (is : result =
      i.reply (i.ending t.client.config.requestTimeout (i.outcome? t.state exchange))) :
    (t.act (.turn number)).ended = ⟨number, t.now, result⟩ :: t.ended ∧
    (t.act (.turn number)).client.core = t.client.core ∧
    (result.isLost = true → (t.act (.turn number)).task? t.issued =
      some ⟨t.issued, some t.now, .recovery generation⟩) ∧
    (result.isLost = false → (t.act (.turn number)).issued = t.issued) := by
  obtain ⟨next, spawned, core⟩ := run_inquiry t.now t.state i generation exchange is
  have ended := ended_turn found
  have state := state_turn found
  have resumes : (rules.resume t.now ⟨number, due, i.work generation exchange⟩ t.state).next =
      .ended result := next
  have starts : (rules.resume t.now ⟨number, due, i.work generation exchange⟩ t.state).spawned =
      if result.isLost then [(some t.now, .recovery generation)] else [] := spawned
  rw [resumes] at ended
  refine ⟨ended, ?_, ?_, ?_⟩
  · rw [client, state]
    exact core
  · intro lost
    rw [if_pos lost] at starts
    rw [act_turn found]
    exact Schedule.Timeline.find?_fire_spawned t rules numbered starts
  · intro kept
    rw [kept] at starts
    rw [act_turn found, Schedule.Timeline.issued_fire_eq, starts]
    rfl

/-- Nothing happens to a call but in the turns of its task. -/
theorem Makes.act_other (makes : t.Makes exchange caller) (other : a ≠ .turn caller) :
    t.milestones exchange a = [] ∧
    (t.act a).state.answers.lookup exchange = t.state.answers.lookup exchange := by
  cases a with
  | turn number =>
    cases found : t.task? number with
    | none =>
      rw [milestones, work?, act, found]
      exact ⟨rfl, rfl⟩
    | some task =>
      obtain ⟨mem, rfl⟩ := task?_spec found
      have apart : task.work.exchange? ≠ some exchange :=
        fun own => other (congrArg Action.turn (makes.sole task mem own))
      rw [milestones_turn found, milestone?_other apart, act_turn found,
        Schedule.Timeline.state_fire]
      exact ⟨rfl, (resume_trades t.now task t.state).lookup apart⟩
  | pass | ask | cancel | listen | unlisten | publish | adjust => exact ⟨rfl, rfl⟩

end Timeline

end World

end RandomBeacon
