import RandomBeacon.Proofs.Deadlines
import RandomBeacon.Proofs.Entries
import RandomBeacon.Proofs.History
import RandomBeacon.Proofs.Trips

/-!
Detached calls at a simulated ledger. The turn in which a call sets out and the one in which it comes
back are told in full (`SetsOut`, `ComesBack`): what the ledger was set to do when the call set out is
what the call does, and when it comes back, nothing changes but the ledger and what is known of the
call. Submissions are counted when they set out and when they come back, so the two counts differ
by those that are in flight (`Runs.tally`). Every request and every query that a ready client takes has
one call of its own, which goes its way whether or not anyone still waits for it (`Outlives`).
-/

namespace RandomBeacon

namespace Simulated

/-- The ledger once a detached call has set out. -/
def sends : Detached → Simulated → Simulated
  | .submit _, l => { l with submitCalls := l.submitCalls + 1 }
  | .query _, l => { l with queryCalls := l.queryCalls + 1 }

theorem settle_publication (b : Behavior) (d : Detached) (l : Simulated) :
    (b.settle d l).publication = (b.publishes? d).map (⟨·, draw⟩) := by
  cases d with
  | submit op =>
    obtain ⟨requestId, timestamp⟩ := op
    simp only [Behavior.settle, settleSubmission, Behavior.publishes?]
    by_cases lost : b.submitTransportFailure
    · simp [lost]
    · by_cases refused : b.rejectSubmissions <;> simp [lost, refused]
  | query q =>
    obtain ⟨number⟩ := q
    rfl

/-- Submissions are counted as they are entered. -/
theorem Chronicle.counts_entries (entries : List Entry) (b : Chronicle) :
    (entries.foldl Chronicle.enter b).submitted = b.submitted + entries.count .submits ∧
    (entries.foldl Chronicle.enter b).completed = b.completed + entries.count .completes := by
  induction entries generalizing b with
  | nil => exact ⟨rfl, rfl⟩
  | cons entry rest ih =>
    obtain ⟨submitted, completed⟩ := ih (b.enter entry)
    rw [List.foldl_cons, submitted, completed]
    cases entry with
    | submits | completes => simp [Chronicle.enter, Nat.add_comm, Nat.add_left_comm]
    | publishes r => exact ⟨rfl, rfl⟩

end Simulated

/-- Whether a task is a submission in flight. -/
def Work.isAway : Work Simulated → Bool
  | inFlight (.submit _) _ _ => true
  | _ => false

theorem Work.isAway_of_exchange? {work : Work Simulated} (idle : work.exchange? = none) :
    work.isAway = false := by
  cases work with
  | inFlight => cases idle
  | errand | recovery | operation | submitting | querying | calling | publishing | watching
  | askingChain | askingAccount => rfl

namespace World

open Simulated

variable {now exchange : Nat} {w : World Simulated} {d : Detached} {b : Behavior}

theorem run_calling (now exchange : Nat) (w : World Simulated) (d : Detached) :
    w.run now (.calling d exchange) =
      ⟨{ w with provider := w.provider.sends d, calls := (now, d.call w.address) :: w.calls },
        .wait (some (now + w.provider.behavior.delay d))
          (.inFlight d exchange (w.provider.behavior.pending d)), []⟩ := by
  cases d with
  | submit op =>
    obtain ⟨requestId, timestamp⟩ := op
    rfl
  | query q =>
    obtain ⟨number⟩ := q
    rfl

/-- Between two turns what a turn notes goes to the journal, and nowhere else. -/
theorem journalAt_noteAll (silent : w.client.journal = []) (now : Nat) (notices : List Notice) :
    ∃ journal, (w.noteAll notices).journalAt now = { w with journal } := by
  refine ⟨notices.reverse.map (now, ·) ++ w.journal, ?_⟩
  obtain ⟨⟨client, host⟩, _⟩ := w
  obtain ⟨config, factors, session, watch, budget, registry, callbacks, metrics, journal⟩ := client
  obtain rfl : journal = [] := silent
  rw [noteAll, Client.noteAll_eq]
  simp [journalAt, withClient, World.client]

theorem run_inFlight (now exchange : Nat) (w : World Simulated) (d : Detached) (b : Behavior) :
    ∃ notices, w.run now (.inFlight d exchange (b.pending d)) =
      ⟨{ w with
            provider := w.provider.receives d
            answers := (exchange, d.answer (b.settle d w.provider).result) :: w.answers
          }.noteAll notices,
        .ended .unheard,
        (b.publishes? d).toList.map fun delay => (some (now + delay), .publishing draw)⟩ := by
  refine ⟨(b.settle d w.provider).notices, ?_⟩
  have settled : (b.pending d).finish w.provider = b.settle d w.provider := rfl
  simp only [run, finish, settled, settle_provider, settle_publication]
  cases b.publishes? d <;> rfl

/-- A turn counts a submission when it puts one in flight, and when it takes one down. -/
theorem run_tally (now : Nat) (w : World Simulated) (work : Work Simulated) :
    (w.run now work).works.countP (·.isAway) + (work.entries w.provider).count .completes =
      [work].countP (·.isAway) + (work.entries w.provider).count .submits := by
  have trades := run_trades now w work
  generalize w.run now work = turn at trades
  have quiet (works : ∀ new ∈ turn.works, new.exchange? = none) :
      turn.works.countP (·.isAway) = 0 :=
    List.countP_eq_zero.mpr fun new mem => by simp [Work.isAway_of_exchange? (works new mem)]
  cases trades with
  | apart idle works kept =>
    rw [quiet works]
    cases work with
    | calling | inFlight => cases idle
    | errand | recovery | operation | submitting | querying | publishing | watching | askingChain
    | askingAccount => rfl
  | @detaches errand i _ asks next spawned counted =>
    rw [Schedule.Turn.works, next, spawned]
    cases i <;> rfl
  | begins d exchange delay next spawned kept =>
    rw [Schedule.Turn.works, next, spawned]
    cases d <;> rfl
  | ends d exchange pending next works answered =>
    rw [quiet works]
    cases d <;> rfl

namespace Timeline

variable {e : Surroundings Simulated} {s t start : Timeline Simulated} {a : Action Simulated}
  {actions : List (Action Simulated)} {caller : Nat} {due : Option Nat}

section Turns

/-- In the turn of `caller` a call sets out: it is counted, and it will take the time and come to the
end for which the ledger is set now. -/
def SetsOut (t : Timeline Simulated) (caller exchange : Nat) (d : Detached) : Prop :=
  t.act (.turn caller) = { t with
    state := { t.state with
      provider := t.state.provider.sends d
      calls := (t.now, d.call t.state.address) :: t.state.calls }
    tasks := t.tasks.map fun other =>
      if other.id = caller then
        ⟨caller, some (t.now + t.state.provider.behavior.delay d),
          .inFlight d exchange (t.state.provider.behavior.pending d)⟩
      else other }

/-- In the turn of `caller` a call comes back that met `b` when it set out: it is counted, its answer
is there and a round may be due for publication, and nothing else changes. -/
def ComesBack (t : Timeline Simulated) (caller exchange : Nat) (d : Detached) (b : Behavior) : Prop :=
  ∃ journal, t.act (.turn caller) = { t with
    state := { t.state with
      provider := t.state.provider.receives d
      answers := (exchange, d.answer (b.settle d t.state.provider).result) :: t.state.answers
      journal }
    tasks := t.tasks.filter (·.id ≠ caller) ++ (b.publishes? d).toList.map fun delay =>
      ⟨t.issued, some (t.now + delay), .publishing draw⟩
    issued := t.issued + (b.publishes? d).toList.length
    ended := ⟨caller, t.now, .unheard⟩ :: t.ended }

theorem setsOut (silent : t.client.journal = [])
    (found : t.task? caller = some ⟨caller, due, .calling d exchange⟩) :
    t.SetsOut caller exchange d := by
  have resumed : rules.resume t.now ⟨caller, due, .calling d exchange⟩ t.state =
      t.state.run t.now (.calling d exchange) := by
    simp only [rules, run_calling]
    rw [journalAt_silent (by exact silent)]
  rw [SetsOut, act_turn found, Schedule.Timeline.fire, resumed, run_calling]
  rfl

theorem comesBack (silent : t.client.journal = [])
    (found : t.task? caller = some ⟨caller, due, .inFlight d exchange (b.pending d)⟩) :
    t.ComesBack caller exchange d b := by
  obtain ⟨notices, ran⟩ := run_inFlight t.now exchange t.state d b
  obtain ⟨journal, kept⟩ := journalAt_noteAll (w := { t.state with
    provider := t.state.provider.receives d
    answers := (exchange, d.answer (b.settle d t.state.provider).result) :: t.state.answers })
    silent t.now notices
  refine ⟨journal, ?_⟩
  rw [act_turn found, Schedule.Timeline.fire]
  simp only [rules, ran, kept]
  cases b.publishes? d with
  | none => simp
  | some delay => rfl

theorem setsOut_found (numbered : t.Numbered)
    (found : t.task? caller = some ⟨caller, due, .calling d exchange⟩) :
    (t.act (.turn caller)).task? caller =
      some ⟨caller, some (t.now + t.state.provider.behavior.delay d),
        .inFlight d exchange (t.state.provider.behavior.pending d)⟩ := by
  have goes := task?_turn found numbered
  have next : (rules.resume t.now ⟨caller, due, .calling d exchange⟩ t.state).next =
      (t.state.run t.now (.calling d exchange)).next := rfl
  rwa [next, run_calling] at goes

end Turns

section Tally

/-- What the submissions come to of which this has been entered. -/
structure Tally (past : List Entry) (t : Timeline Simulated) : Prop where
  submitted : t.state.provider.submitCalls = past.count .submits
  completed : t.state.provider.completedSubmissions = past.count .completes
  away : past.count .submits = past.count .completes + t.works.countP (·.isAway)

theorem act_away (allowed : t.Allows e a) (numbered : t.Numbered) :
    (t.act a).works.countP (·.isAway) + (t.entries a).count .completes =
      t.works.countP (·.isAway) + (t.entries a).count .submits := by
  cases a with
  | turn number =>
    obtain ⟨task, found, _⟩ := allowed
    obtain ⟨rest, before, after⟩ :=
      Schedule.Timeline.works_fire rules numbered (task?_spec found).1
    have works : (rules.resume t.now task t.state).works = (t.state.run t.now task.work).works :=
      rfl
    have tally := run_tally t.now t.state task.work
    rw [act_turn found, entries_turn found, after.countP_eq, before.countP_eq, works,
      List.countP_append, List.countP_cons]
    simp only [List.countP_cons, List.countP_nil] at tally
    omega
  | ask errand =>
    have works : (t.act (.ask errand)).works = t.works ++ [.errand errand] :=
      Schedule.Timeline.works_spawn t _ _
    rw [works, List.countP_append]
    rfl
  | publish r => rfl
  | pass | cancel | listen | unlisten | adjust => rfl

theorem Runs.tally (within : ∀ l m, e.adjusts l m → l.Changes m) (run : Runs e s actions t)
    (sound : Sound s) {past : List Entry} (tally : s.Tally past) :
    t.Tally (past ++ s.entriesOf actions) := by
  refine run.carries entries (P := Tally) sound tally ?_
  intro past u a allowed sound tally
  have chronicle := act_chronicle within allowed sound
  have away := act_away allowed sound.numbered
  obtain ⟨submitted, completed⟩ := Chronicle.counts_entries (u.entries a) u.state.provider.chronicle
  rw [← chronicle] at submitted completed
  have submitted : (u.act a).state.provider.submitCalls =
    u.state.provider.submitCalls + (u.entries a).count .submits := submitted
  have completed : (u.act a).state.provider.completedSubmissions =
    u.state.provider.completedSubmissions + (u.entries a).count .completes := completed
  refine ⟨?_, ?_, ?_⟩
  · rw [submitted, tally.submitted, List.count_append]
  · rw [completed, tally.completed, List.count_append]
  · rw [List.count_append, List.count_append, tally.away]
    omega

end Tally

section Course

variable {r : Race} {past : List Milestone} {pending : Pending Simulated (Outcome r.inquiry.call.Reply)}

/-- A call that has not set out sets out at once. -/
theorem due_of_holds (holds : r.Holds past t)
    (found : t.task? r.caller = some ⟨r.caller, due, .calling r.inquiry.call r.exchange⟩) :
    due = some r.start ∧ t.now = r.start := by
  cases holds.calls with
  | due waits now =>
    rw [waits] at found
    cases found
    exact ⟨rfl, now⟩
  | runs delay pending waits =>
    rw [waits] at found
    cases found
  | done delay outcome gone =>
    rw [gone] at found
    cases found

/-- While a call is away its delay is not over. -/
theorem early_of_holds (holds : r.Holds past t) {instant : Nat}
    (found : t.task? r.caller =
      some ⟨r.caller, some instant, .inFlight r.inquiry.call r.exchange pending⟩) :
    t.now ≤ instant := by
  cases holds.calls with
  | due waits =>
    rw [waits] at found
    cases found
  | runs delay pending waits early =>
    rw [waits] at found
    cases found
    exact early
  | done delay outcome gone =>
    rw [gone] at found
    cases found

/-- When a call comes back after the deadline, the one who waited has given up. -/
theorem late_of_holds (holds : r.Holds past t) {delay : Nat}
    (found : t.task? r.caller =
      some ⟨r.caller, some (r.start + delay), .inFlight r.inquiry.call r.exchange pending⟩)
    (allowed : t.Allows e (.turn r.caller)) :
    t.now = r.start + delay ∧
    (r.limit < delay → ⟨r.number, r.start + r.limit, r.givenUp⟩ ∈ t.ended) := by
  have early := early_of_holds holds found
  obtain ⟨task, taken, ready, _⟩ := allowed
  obtain rfl := Option.some.inj (found.symm.trans taken)
  have up : decide (r.start + delay ≤ t.now) || false := ready
  rw [Bool.or_false, decide_eq_true_eq] at up
  refine ⟨Nat.le_antisymm early up, ?_⟩
  intro late
  cases holds.waits with
  | waits _ soon =>
    -- the clock is past the deadline
    omega
  | expired told => exact told
  | answered other outcome is first =>
    cases holds.calls with
    | due | runs => simp at is
    | done _ _ gone =>
      rw [gone] at found
      cases found

/-- How far the call has got of a request or a query that was taken at `start`, whether or not anyone
still waits for it. It sets out at once and comes back when its delay is over, once each. What it
does is what the ledger was set to do when it set out. If it comes back after the deadline, the
timeout has been replied before. -/
inductive Outlives (r : Race) (start : Timeline Simulated) (actions : List (Action Simulated))
    (t : Timeline Simulated) : Prop
  | due (untouched : .turn r.caller ∉ actions) (now : t.now = r.start)
      (found : t.task? r.caller =
        some ⟨r.caller, some r.start, .calling r.inquiry.call r.exchange⟩)
  | away {first rest : List (Action Simulated)} {b : Behavior}
      (is : actions = first ++ .turn r.caller :: rest)
      (before : .turn r.caller ∉ first) (since : .turn r.caller ∉ rest)
      (meets : (start.play first).state.provider.behavior = b)
      (begins : (start.play first).now = r.start)
      (sets : (start.play first).SetsOut r.caller r.exchange r.inquiry.call)
      (found : t.task? r.caller = some ⟨r.caller, some (r.start + b.delay r.inquiry.call),
        .inFlight r.inquiry.call r.exchange (b.pending r.inquiry.call)⟩)
      (early : t.now ≤ r.start + b.delay r.inquiry.call)
  | back {first between rest : List (Action Simulated)} {b : Behavior}
      {w : Timeline Simulated}
      (is : actions = first ++ .turn r.caller :: (between ++ .turn r.caller :: rest))
      (before : .turn r.caller ∉ first) (since : .turn r.caller ∉ between)
      (after : .turn r.caller ∉ rest)
      (meets : (start.play first).state.provider.behavior = b)
      (begins : (start.play first).now = r.start)
      (sets : (start.play first).SetsOut r.caller r.exchange r.inquiry.call)
      (leads : ((start.play first).act (.turn r.caller)).play between = w)
      (ends : w.now = r.start + b.delay r.inquiry.call)
      (late : r.limit < b.delay r.inquiry.call →
        ⟨r.number, r.start + r.limit, r.givenUp⟩ ∈ w.ended)
      (comes : w.ComesBack r.caller r.exchange r.inquiry.call b)
      (gone : t.task? r.caller = none)

/-- The race goes on or is decided wherever a timely run passes. -/
theorem Runs.holds_along {first rest : List (Action Simulated)}
    (run : Runs e start (first ++ rest) t) (timely : start.Timely (first ++ rest))
    (sound : Sound start) (holds : r.Holds [] start) :
    ∃ past, r.Holds past (start.play first) := by
  have carried := run.split.1.carries_timely (milestones r.exchange) (P := r.Holds)
    (timely_append.mp timely).1 sound holds
    fun _ _ _ allowed timely sound holds => holds.act sound allowed timely
  exact ⟨_, carried⟩

theorem Runs.outlives (run : Runs e start actions t) (timely : start.Timely actions)
    (sound : Sound start) (silent : start.client.journal = []) (holds : r.Holds [] start)
    (trip : Trip start r.caller r.exchange r.inquiry.call actions t) :
    Outlives r start actions t := by
  have here (first : List (Action Simulated)) (passes : ∃ rest, actions = first ++ rest) :
      Sound (start.play first) ∧ (start.play first).client.journal = [] ∧
        ∃ past, r.Holds past (start.play first) := by
    obtain ⟨rest, rfl⟩ := passes
    have reached := run.split.1.reachable
    exact ⟨reached.sound sound, reached.silent silent, run.holds_along timely sound holds⟩
  obtain rfl := run.leads
  cases trip with
  | home untouched found =>
    obtain ⟨_, _, past, holds⟩ := here actions ⟨[], (List.append_nil _).symm⟩
    obtain ⟨rfl, now⟩ := due_of_holds holds found
    exact .due untouched now found
  | @out first rest _ _ _ is before since sets goes found =>
    obtain ⟨sound, quiet, past, holds⟩ := here first ⟨_, is⟩
    obtain ⟨rfl, now⟩ := due_of_holds holds sets
    rw [setsOut_found sound.numbered sets, now] at goes
    cases goes
    obtain ⟨_, _, past, holds⟩ := here actions ⟨[], (List.append_nil _).symm⟩
    exact .away is before since rfl now (setsOut quiet sets) found (early_of_holds holds found)
  | @back first between rest _ _ _ is before since after sets goes returns gone =>
    obtain ⟨sound, quiet, past, holds⟩ := here first ⟨_, is⟩
    obtain ⟨rfl, now⟩ := due_of_holds holds sets
    rw [setsOut_found sound.numbered sets, now] at goes
    cases goes
    have split : actions = (first ++ .turn r.caller :: between) ++ .turn r.caller :: rest := by
      simp [is]
    have along : start.play (first ++ .turn r.caller :: between) =
        ((start.play first).act (.turn r.caller)).play between := play_append _ _ _
    obtain ⟨_, quiet', past, holds⟩ := here _ ⟨_, split⟩
    rw [along] at quiet' holds
    rw [split] at run
    have allowed := run.split.2.performs.1
    rw [along] at allowed
    obtain ⟨ends, late⟩ := late_of_holds holds returns allowed
    exact .back is before since after rfl now (setsOut quiet sets) rfl ends late
      (comesBack quiet' returns) gone

variable {config : Config} {factors : Nat → Binary64} {ledger : Simulated} {suffixes : Nat → Suffix}

/-- In every run over a ledger that has counted nothing yet, submissions are counted once when they
set out and once when they come back, so no more have come back than have set out, and as many when
none is in flight. The call of every request and every query that a ready client takes sets out at
once and comes back when its delay is over, also when the delay is longer than the timeout: it does
what the ledger was set to do when it set out, publishes one round if it is accepted and the ledger
was set to publish, and in the turn in which it comes back the client, its handlers and every result
stay as they are. -/
theorem detached_call_outlives_deadline (within : ∀ l m, e.adjusts l m → l.Changes m)
    (unused : ledger.submitCalls = 0 ∧ ledger.completedSubmissions = 0) :
    (∀ actions t, Runs e (fresh config factors ledger suffixes) actions t →
      t.Tally ((fresh config factors ledger suffixes).entriesOf actions) ∧
      t.state.provider.completedSubmissions ≤ t.state.provider.submitCalls ∧
      ((∀ work ∈ t.works, work.isAway = false) →
        t.state.provider.completedSubmissions = t.state.provider.submitCalls)) ∧
    ∀ s number due errand i actions t,
      Reachable e (fresh config factors ledger suffixes) s →
      s.task? number = some ⟨number, due, .errand errand⟩ →
      errand.inquiry? s.now s.state = some i → s.client.session.lifecycle = .ready →
      s.Allows e (.turn number) → Runs e (s.act (.turn number)) actions t →
      (s.act (.turn number)).Timely actions →
      Outlives (s.race number i) (s.act (.turn number)) actions t := by
  have fresh_sound := sound_fresh config factors ledger suffixes
  constructor
  · intro actions t run
    have start : Tally [] (fresh config factors ledger suffixes) := ⟨unused.1, unused.2, rfl⟩
    have tally := run.tally within fresh_sound start
    rw [List.nil_append] at tally
    have balance := tally.away
    rw [← tally.submitted, ← tally.completed] at balance
    refine ⟨tally, by omega, ?_⟩
    intro home
    have none : t.works.countP (·.isAway) = 0 :=
      List.countP_eq_zero.mpr fun work mem => by simp [home work mem]
    omega
  · intro s number due errand i actions t run found asks ready allowed later timely
    have step := step_act allowed
    have sound := run.sound fresh_sound
    have after := step.sound sound
    have holds := admission sound
      (run.retired fresh_sound.numbered (retired_fresh config factors ledger suffixes))
      (run.traded (traded_fresh config factors ledger suffixes)) allowed found asks ready
    have waits := admission_waits sound.numbered found asks ready
    have trip : Trip (s.act (.turn number)) s.issued s.state.exchanges i.call actions t := by
      cases holds.calls with
      | due sets _ unanswered =>
        exact (later.trip after holds.makes (.home List.not_mem_nil sets unanswered)
          (.waits waits)).1
    exact later.outlives timely after ((run.next step).silent rfl) holds trip

end Course

section Trials

/-- A session with no attempt to reconnect, whose submissions take ten seconds and are followed by a
round. -/
def unhurried : Timeline Simulated :=
  (trial 0 (.trial {})).replay (fun _ _ => true) [
    .ask .openSession, .turns 9, .behave { submitDelay := 10000, publishAfter := some 50 }]

/-- A request is asked for there. -/
def hoping : Timeline Simulated := unhurried.start (.request (.plain "late"))

/-- Its call has set out. -/
def departed : Timeline Simulated := (hoping.act (.turn 1)).act (.turn 2)

/-- The ledger is set anew, the request times out, the session fails, and the call comes back. -/
def meanwhile : List (Action Simulated) :=
  [.turn 2, .adjust { departed.state.provider with behavior := {} }, .pass 5000, .turn 1, .turn 3,
    .pass 10000, .turn 2]

theorem detached_call_outlives_deadline_failed :
    ∃ first between rest w,
      meanwhile = first ++ .turn 2 :: (between ++ .turn 2 :: rest) ∧
      (((hoping.act (.turn 1)).play first).act (.turn 2)).play between = w ∧
      w.now = 10000 ∧ ⟨1, 5000, .requested (.error (.timeout 5000000))⟩ ∈ w.ended ∧
      (w.act (.turn 2)).state.scene = w.state.scene ∧
      ⟨w.issued, some 10050, .publishing draw⟩ ∈ (w.act (.turn 2)).tasks ∧
      ((hoping.act (.turn 1)).play meanwhile).state.provider.completedSubmissions =
        ((hoping.act (.turn 1)).play meanwhile).state.provider.submitCalls := by
  let surroundings : Surroundings Simulated := .limited Simulated.Adjusts fun _ _ => true
  have turns {t : Timeline Simulated} {number : Nat}
      (up : (t.task? number).any (t.isReady rules) = true) :
      t.Allows surroundings (.turn number) := allows_turn (fun _ _ => rfl) up
  have within : ∀ l m, surroundings.adjusts l m → l.Changes m := by
    rintro l m ⟨behavior, rfl⟩
    exact .configures behavior
  have opened : Reachable surroundings (trial 0 (.trial {})) unhurried := reachable_replay _ _
  have run : Reachable surroundings (trial 0 (.trial {})) hoping := opened.next (.ask _)
  have numbered := opened.numbered (numbered_fresh _ _ _ _)
  have issued : unhurried.issued = 1 := by decide +kernel
  have found := task?_start numbered (.request (.plain "late"))
  rw [issued] at found
  have allowed : hoping.Allows surroundings (.turn 1) := turns (by decide +kernel)
  have quiet : (departed.act
      (.adjust { departed.state.provider with behavior := {} })).Idle rules 5000 := by
    decide +kernel
  have idle : ((hoping.act (.turn 1)).play (meanwhile.take 5)).Idle rules 10000 := by
    decide +kernel
  have later : Runs surroundings (hoping.act (.turn 1)) meanwhile
      ((hoping.act (.turn 1)).play meanwhile) :=
    ⟨⟨turns (by decide +kernel), ⟨_, rfl⟩, quiet.later, turns (by decide +kernel),
      turns (by decide +kernel), idle.later, turns (by decide +kernel), trivial⟩, rfl⟩
  have timely : (hoping.act (.turn 1)).Timely meanwhile :=
    ⟨trivial, trivial, quiet, trivial, trivial, idle, trivial, trivial⟩
  obtain ⟨counts, outlives⟩ := @detached_call_outlives_deadline surroundings (.trial 0)
    (fun _ => .one) (.trial {}) (fun _ => .replicate 9 (Suffix.pick 0)) within ⟨rfl, rfl⟩
  obtain ⟨before, opens⟩ := run.runs (numbered_fresh _ _ _ _)
  have taken : Runs surroundings hoping [.turn 1] (hoping.act (.turn 1)) := ⟨⟨allowed, trivial⟩, rfl⟩
  obtain ⟨_, _, settled⟩ := counts _ _ (opens.append (taken.append later))
  have equal := settled (by decide +kernel)
  have outlived := outlives _ _ _ _ _ _ _ run found rfl (by decide +kernel) allowed later timely
  have caller : hoping.issued = 2 := by decide +kernel
  have limit : hoping.client.config.requestTimeout = 5000 := by decide +kernel
  have start : hoping.now = 0 := by decide +kernel
  have behavior : (hoping.act (.turn 1)).state.provider.behavior =
    { submitDelay := 10000, publishAfter := some 50 } := by decide +kernel
  simp only [race, caller, limit, start] at outlived
  cases outlived with
  | due untouched => exact absurd (by simp [meanwhile]) untouched
  | away _ _ _ _ _ _ waits =>
    have gone : ((hoping.act (.turn 1)).play meanwhile).task? 2 = none := by decide +kernel
    rw [gone] at waits
    cases waits
  | @back first between rest b w is untouched _ _ meets _ _ leads ends late comes _ =>
    obtain rfl : first = [] := by
      cases first with
      | nil => rfl
      | cons a more =>
        obtain ⟨rfl, _⟩ := List.cons.inj is
        exact absurd List.mem_cons_self untouched
    have set : (hoping.act (.turn 1)).state.provider.behavior = b := meets
    obtain rfl := behavior.symm.trans set
    obtain ⟨journal, comes⟩ := comes
    refine ⟨[], between, rest, w, is, leads, ends, late (by decide), ?_, ?_, equal⟩
    · rw [comes]
    · rw [comes, ends]
      exact List.mem_append_right _ List.mem_cons_self

end Trials

end Timeline

end World

end RandomBeacon
