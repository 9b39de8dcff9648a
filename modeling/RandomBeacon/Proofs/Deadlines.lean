import RandomBeacon.Proofs.Attempts
import RandomBeacon.Proofs.Exchanges

/-!
A detached call against the deadline of the one who waits for it. The call begins at once and ends
when its delay is over, whether anyone still waits or not (`Race.Calls`); the one who waits gets its
answer at that instant, or gives up at the deadline (`Race.Waits`). Which of the two it is, the delay
decides (`Race.Holds.decided`). This needs the clock to go by its rule, but no order among the tasks that
are ready at one instant, except where the call ends at the deadline.
-/

namespace RandomBeacon

namespace World.Timeline

/-- The task of this number ends at this instant, with a reply that fits: when the clock is past it,
the task has ended, and never otherwise than so. -/
structure Replies {π : Type} (t : Timeline π) (number instant : Nat) (fits : Reply → Prop) : Prop where
  only : ∀ entry ∈ t.ended, entry.id = number → entry.instant = instant ∧ fits entry.result
  told : instant < t.now → ∃ entry ∈ t.ended, entry.id = number

end World.Timeline

open World.Timeline

/-- One who waits for a detached call until a deadline. -/
structure Race where
  inquiry : Inquiry
  /-- The generation of the session to which it belongs. -/
  generation : Nat
  /-- The number of the call. -/
  exchange : Nat
  /-- The task that waits for the call. -/
  number : Nat
  /-- The task that makes the call. -/
  caller : Nat
  /-- When the wait begins. -/
  start : Nat
  /-- How long it lasts at most. -/
  limit : Nat

namespace Race

variable {π : Type} [Provider π] (r : Race)

/-- How far the call has got, to which this has happened. -/
inductive Calls : List Milestone → World.Timeline π → Prop
  | due {t : World.Timeline π}
      (found : t.task? r.caller = some ⟨r.caller, some r.start, .calling r.inquiry.call r.exchange⟩)
      (now : t.now = r.start) (unanswered : t.state.answers.lookup r.exchange = none) : Calls [] t
  | runs {t : World.Timeline π} (delay : Nat) (pending : Pending π (Outcome r.inquiry.call.Reply))
      (found : t.task? r.caller =
        some ⟨r.caller, some (r.start + delay), .inFlight r.inquiry.call r.exchange pending⟩)
      (early : t.now ≤ r.start + delay)
      (unanswered : t.state.answers.lookup r.exchange = none) :
      Calls [.begins r.start delay] t
  | done {t : World.Timeline π} (delay : Nat) (outcome : Outcome r.inquiry.call.Reply)
      (gone : t.task? r.caller = none)
      (answered : t.state.answers.lookup r.exchange = some (r.inquiry.call.answer outcome))
      (late : r.start + delay ≤ t.now) :
      Calls [.begins r.start delay, .ends (r.start + delay) (r.inquiry.call.answer outcome)] t

/-- The reply of one who has given up. -/
def givenUp : Reply := r.inquiry.reply (.error (.timeout (1000 * r.limit)))

/-- The reply of one who has got an answer. -/
def gotten (outcome : Outcome r.inquiry.call.Reply) : Reply :=
  r.inquiry.reply (r.inquiry.verdict outcome)

/-- Where the one who waits has got, when this has happened to the call. -/
inductive Waits (past : List Milestone) (t : World.Timeline π) : Prop
  | waits
      (found : t.task? r.number =
        some ⟨r.number, some (r.start + r.limit), r.inquiry.work r.generation r.exchange⟩)
      (early : t.now ≤ r.start + r.limit)
      (prompt : ∀ instant answer, .ends instant answer ∈ past → t.now = instant)
  | expired (told : ⟨r.number, r.start + r.limit, r.givenUp⟩ ∈ t.ended)
      (early : past = [] → r.limit = 0)
      (late : ∀ delay, past.head? = some (.begins r.start delay) → r.limit ≤ delay)
  | answered (delay : Nat) (outcome : Outcome r.inquiry.call.Reply)
      (is : past =
        [.begins r.start delay, .ends (r.start + delay) (r.inquiry.call.answer outcome)])
      (first : delay ≤ r.limit) (told : ⟨r.number, r.start + delay, r.gotten outcome⟩ ∈ t.ended)

/-- A race that is on or has been decided. -/
structure Holds (past : List Milestone) (t : World.Timeline π) : Prop where
  retired : t.Retired
  limits : t.client.config.requestTimeout = r.limit
  makes : t.Makes r.exchange r.caller
  known : r.number < t.issued
  calls : r.Calls past t
  waits : r.Waits past t

variable {r} {e : Surroundings π} {t : World.Timeline π} {a : Action π} {past : List Milestone}

section Calls

/-- The turn of a call that is due begins it. -/
theorem begin_calls (numbered : t.Numbered)
    (found : t.task? r.caller = some ⟨r.caller, some r.start, .calling r.inquiry.call r.exchange⟩)
    (now : t.now = r.start) (unanswered : t.state.answers.lookup r.exchange = none) :
    r.Calls (t.milestones r.exchange (.turn r.caller)) (t.act (.turn r.caller)) := by
  have still := act_now_turn t r.caller
  have goes := task?_turn found numbered
  have state := state_turn found
  rw [milestones_turn found, Work.milestone?, if_pos rfl, Option.toList_some, now, ← now]
  cases World.resume_trades t.now ⟨r.caller, some r.start, .calling r.inquiry.call r.exchange⟩
      t.state with
  | apart idle => cases idle
  | @begins _ _ _ pending delay next spawned kept =>
    rw [next, now] at goes
    rw [now, ← delay]
    refine .runs pending.delay pending goes ?_ ?_
    · rw [still, now]
      exact Nat.le_add_right _ _
    · rw [state]
      exact (congrArg (fun x => x.2.lookup r.exchange) kept).trans unanswered

/-- The turn of a call in flight ends it. -/
theorem end_calls (numbered : t.Numbered) {delay : Nat}
    {pending : Pending π (Outcome r.inquiry.call.Reply)}
    (found : t.task? r.caller =
      some ⟨r.caller, some (r.start + delay), .inFlight r.inquiry.call r.exchange pending⟩)
    (now : t.now = r.start + delay) :
    r.Calls ([.begins r.start delay] ++ t.milestones r.exchange (.turn r.caller))
      (t.act (.turn r.caller)) := by
  have still := act_now_turn t r.caller
  have goes := task?_turn found numbered
  have state := state_turn found
  rw [milestones_turn found, Work.milestone?, if_pos rfl, Option.toList_some, now]
  cases World.resume_trades t.now
      ⟨r.caller, some (r.start + delay), .inFlight r.inquiry.call r.exchange pending⟩
      t.state with
  | apart idle => cases idle
  | ends _ _ _ next works answered =>
    rw [next] at goes
    refine .done delay _ goes ?_ ?_
    · rw [state]
      exact (congrArg (fun x => x.2.lookup r.exchange) answered).trans List.lookup_cons_self
    · exact Nat.le_of_eq (still.trans now).symm

/-- Whatever happens next, the call goes its way. -/
theorem Calls.act (calls : r.Calls past t) (makes : t.Makes r.exchange r.caller)
    (sound : Sound t) (allowed : t.Allows e a) (timely : t.OnTime a) :
    r.Calls (past ++ t.milestones r.exchange a) (t.act a) := by
  have later := act_now_le allowed
  by_cases own : a = .turn r.caller
  · subst own
    obtain ⟨task, taken, ready, _⟩ := allowed
    cases calls with
    | due found now unanswered => exact begin_calls sound.numbered found now unanswered
    | runs delay pending found early unanswered =>
      obtain rfl := Option.some.inj (found.symm.trans taken)
      have up : decide (r.start + delay ≤ t.now) || false := ready
      exact end_calls sound.numbered found (by simp at up; omega)
    | done delay outcome gone =>
      rw [gone] at taken
      cases taken
  · obtain ⟨nothing, lookup⟩ := makes.act_other own
    have kept := task?_act makes.given own
    rw [nothing, List.append_nil]
    cases calls with
    | due found now unanswered =>
      have ready : t.isReady World.rules
          ⟨r.caller, some r.start, .calling r.inquiry.call r.exchange⟩ = true := by
        simp [Schedule.Timeline.isReady, now]
      exact .due (kept.trans found) ((act_still timely (task?_spec found).1 ready).trans now)
        (lookup.trans unanswered)
    | runs delay pending found early unanswered =>
      exact .runs delay pending (kept.trans found)
        (act_punctual timely (task?_spec found).1 rfl early) (lookup.trans unanswered)
    | done delay outcome gone answered late =>
      exact .done delay outcome (kept.trans gone) (lookup.trans answered)
        (Nat.le_trans late later)

end Calls

section Waits

/-- In its turn the one who waits gets the answer, or gives up. -/
theorem turn_waits (numbered : t.Numbered)
    (limits : t.client.config.requestTimeout = r.limit)
    (found : t.task? r.number =
      some ⟨r.number, some (r.start + r.limit), r.inquiry.work r.generation r.exchange⟩)
    (early : t.now ≤ r.start + r.limit)
    (prompt : ∀ instant answer, .ends instant answer ∈ past → t.now = instant)
    (ready : t.isReady World.rules
      ⟨r.number, some (r.start + r.limit), r.inquiry.work r.generation r.exchange⟩ = true)
    (calls : r.Calls past t) : r.Waits past (t.act (.turn r.number)) := by
  -- without an answer nothing but the deadline makes the task ready
  have late (unanswered : t.state.answers.lookup r.exchange = none) :
      t.now = r.start + r.limit ∧
      ⟨r.number, r.start + r.limit, r.givenUp⟩ ∈ (t.act (.turn r.number)).ended := by
    have up : decide (r.start + r.limit ≤ t.now) ||
        t.state.woken (r.inquiry.work r.generation r.exchange) := ready
    rw [Inquiry.work_woken, unanswered, Option.isSome_none, Bool.or_false,
      decide_eq_true_eq] at up
    have now : t.now = r.start + r.limit := Nat.le_antisymm early up
    have none : r.inquiry.outcome? t.state r.exchange = none :=
      Inquiry.outcome?_of_lookup unanswered
    obtain ⟨ended, _⟩ := turn_inquiry numbered found rfl
    rw [ended, none, now, limits]
    exact ⟨rfl, List.mem_cons_self⟩
  cases calls with
  | due _ now unanswered =>
    obtain ⟨deadline, told⟩ := late unanswered
    refine .expired told (fun _ => by omega) ?_
    rintro delay ⟨⟩
  | runs delay pending _ before unanswered =>
    obtain ⟨deadline, told⟩ := late unanswered
    refine .expired told (by rintro ⟨⟩) ?_
    intro other is
    obtain ⟨_, rfl⟩ := Milestone.begins.inj (Option.some.inj is)
    omega
  | done delay outcome _ answered _ =>
    have now : t.now = r.start + delay := prompt _ _ (List.mem_cons_of_mem _ List.mem_cons_self)
    have gotten : r.inquiry.outcome? t.state r.exchange = some outcome :=
      Inquiry.outcome?_of_lookup answered
    obtain ⟨ended, _⟩ := turn_inquiry numbered found rfl
    refine .answered delay outcome rfl (by omega) ?_
    rw [ended, gotten, now]
    exact List.mem_cons_self

/-- What happens to a call happens at this instant. -/
theorem now_of_ends {exchange instant : Nat} {answer : Answer}
    (mem : .ends instant answer ∈ t.milestones exchange a) : (t.act a).now = instant := by
  cases a with
  | pass | ask | cancel | listen | unlisten | publish | adjust => cases mem
  | turn number =>
    rw [act_now_turn]
    cases found : t.task? number with
    | none =>
      rw [milestones, work?, found] at mem
      cases mem
    | some task =>
      rw [milestones_turn found, Option.mem_toList] at mem
      cases is : task.work with
      | calling d x =>
        rw [is, Work.milestone?] at mem
        split at mem <;> cases mem
      | inFlight d x pending =>
        rw [is, Work.milestone?] at mem
        split at mem
        · exact (Milestone.ends.inj (Option.some.inj mem)).1
        · cases mem
      | errand | recovery | operation | submitting | querying | publishing | watching | askingChain
      | askingAccount =>
        rw [is] at mem
        cases mem

/-- Whatever happens next, the one who waits goes on as the call does. -/
theorem Holds.waits_act (holds : r.Holds past t) (sound : Sound t) (allowed : t.Allows e a)
    (timely : t.OnTime a) : r.Waits (past ++ t.milestones r.exchange a) (t.act a) := by
  obtain ⟨retired, limits, makes, known, calls, waits⟩ := holds
  obtain ⟨kept, _⟩ := act_ended t a
  cases waits with
  | waits found early prompt =>
    obtain ⟨mem, _⟩ := task?_spec found
    by_cases own : a = .turn r.number
    · subst own
      obtain ⟨task, taken, ready, _⟩ := allowed
      obtain rfl := Option.some.inj (found.symm.trans taken)
      rw [milestones_turn found, milestone?_other (by simp), Option.toList_none, List.append_nil]
      exact turn_waits sound.numbered limits found early prompt ready calls
    · refine .waits ((task?_act known own).trans found) (act_punctual timely mem rfl early) ?_
      intro instant answer inside
      rcases List.mem_append.mp inside with old | new
      · -- the answer has woken the task, so the clock waits for its turn
        refine (act_still timely mem ?_).trans (prompt instant answer old)
        cases calls with
        | due | runs => simp at old
        | done delay outcome _ answered =>
          simp [Schedule.Timeline.isReady, World.rules, Inquiry.work_woken, answered]
      · exact now_of_ends new
  | expired told early late =>
    refine .expired (kept.subset told) ?_ ?_
    · intro none
      exact early (List.append_eq_nil_iff.mp none).1
    · intro delay first
      cases past with
      | nil => exact Nat.le_trans (Nat.le_of_eq (early rfl)) (Nat.zero_le _)
      | cons milestone rest => exact late delay first
  | answered delay outcome is first told =>
    have nothing : t.milestones r.exchange a = [] := by
      cases calls with
      | due | runs => simp at is
      | done _ _ gone =>
        refine (makes.act_other ?_).1
        rintro rfl
        obtain ⟨task, found, _⟩ := allowed
        rw [gone] at found
        cases found
    rw [nothing, List.append_nil]
    exact .answered delay outcome is first (kept.subset told)

end Waits

/-- Whatever happens next, the race goes on or stays decided. -/
theorem Holds.act (holds : r.Holds past t) (sound : Sound t) (allowed : t.Allows e a)
    (timely : t.OnTime a) : r.Holds (past ++ t.milestones r.exchange a) (t.act a) := by
  have step := step_act allowed
  have config := (Reachable.start.next step).config sound.numbered sound.aligned
  exact ⟨step.retired sound.numbered holds.retired, config ▸ holds.limits, holds.makes.step step,
    Nat.lt_of_lt_of_le holds.known (act_ended t a).2,
    holds.calls.act holds.makes sound allowed timely, holds.waits_act sound allowed timely⟩

/-- How far a race has got: the call begins at once and ends when its delay is over, and if the delay
is no tie with the deadline, the one who waits replies at the earlier of the two. -/
structure Decided (r : Race) (past : List Milestone) (t : World.Timeline π) : Prop where
  begun : r.start < t.now → past ≠ []
  course : past = [] ∨ ∃ delay, past = [.begins r.start delay] ∨ ∃ outcome, past =
    [.begins r.start delay, .ends (r.start + delay) (r.inquiry.call.answer outcome)]
  ends : ∀ delay, .begins r.start delay ∈ past → r.start + delay < t.now →
    ∃ outcome, .ends (r.start + delay) (r.inquiry.call.answer outcome) ∈ past
  late : ∀ delay, .begins r.start delay ∈ past → r.limit < delay →
    t.Replies r.number (r.start + r.limit) (· = r.givenUp)
  prompt : ∀ delay, .begins r.start delay ∈ past → delay < r.limit →
    t.Replies r.number (r.start + delay) fun reply => ∃ outcome,
      .ends (r.start + delay) (r.inquiry.call.answer outcome) ∈ past ∧ reply = r.gotten outcome

omit [Provider π] in
theorem Calls.course (calls : r.Calls past t) : past = [] ∨ ∃ delay, past = [.begins r.start delay] ∨
    ∃ outcome, past =
      [.begins r.start delay, .ends (r.start + delay) (r.inquiry.call.answer outcome)] := by
  cases calls with
  | due => exact Or.inl rfl
  | runs delay => exact Or.inr ⟨delay, Or.inl rfl⟩
  | done delay outcome => exact Or.inr ⟨delay, Or.inr ⟨outcome, rfl⟩⟩

omit [Provider π] in
/-- A call begins once. -/
theorem Calls.head (calls : r.Calls past t) {instant delay : Nat}
    (begins : .begins instant delay ∈ past) : past.head? = some (.begins r.start delay) := by
  cases calls with
  | due => cases begins
  | runs other =>
    obtain ⟨_, rfl⟩ := Milestone.begins.inj (List.mem_singleton.mp begins)
    rfl
  | done other outcome =>
    rcases List.mem_cons.mp begins with same | ends
    · obtain ⟨_, rfl⟩ := Milestone.begins.inj same
      rfl
    · cases List.mem_singleton.mp ends

omit [Provider π] in
/-- A task that has ended replies no more. -/
theorem replies_of_mem (retired : t.Retired) {number instant : Nat} {reply : Reply}
    {fits : Reply → Prop} (told : ⟨number, instant, reply⟩ ∈ t.ended) (right : fits reply) :
    t.Replies number instant fits := by
  refine ⟨?_, fun _ => ⟨_, told, rfl⟩⟩
  intro entry mem same
  obtain rfl := Schedule.Timeline.Retired.unique retired mem told same
  exact ⟨rfl, right⟩

omit [Provider π] in
/-- A task that is still there has not replied. -/
theorem replies_of_waiting (retired : t.Retired) {task : Schedule.Task (Work π)}
    (mem : task ∈ t.tasks) {instant : Nat} (early : t.now ≤ instant) (fits : Reply → Prop) :
    t.Replies task.id instant fits := by
  refine ⟨?_, fun past => absurd early (Nat.not_le_of_lt past)⟩
  intro entry ended same
  exact absurd same.symm (retired.gone entry ended task mem)

omit [Provider π] in
/-- The delay of the call decides the race. -/
theorem Holds.decided (holds : r.Holds past t) : r.Decided past t := by
  obtain ⟨retired, limits, makes, known, calls, waits⟩ := holds
  have same {delay : Nat} (begins : .begins r.start delay ∈ past) (other : Nat)
      (rest : List Milestone) (is : past = .begins r.start other :: rest) : other = delay := by
    have first := calls.head begins
    rw [is] at first
    exact (Milestone.begins.inj (Option.some.inj first)).2
  constructor
  · rintro later rfl
    cases calls with
    | due _ now => omega
  · exact calls.course
  · intro delay begins later
    have only := same begins
    cases calls with
    | due => cases begins
    | runs other _ _ early =>
      obtain rfl := only other _ rfl
      omega
    | done other outcome =>
      obtain rfl := only other _ rfl
      exact ⟨outcome, List.mem_cons_of_mem _ List.mem_cons_self⟩
  · intro delay begins late
    cases waits with
    | waits found early _ => exact replies_of_waiting retired (task?_spec found).1 early _
    | expired told => exact replies_of_mem retired told rfl
    | answered other outcome is first =>
      obtain rfl := same begins other _ is
      omega
  · intro delay begins first
    cases waits with
    | waits found _ prompt =>
      refine replies_of_waiting retired (task?_spec found).1 ?_ _
      have only := same begins
      cases calls with
      | due => cases begins
      | runs other _ _ early =>
        obtain rfl := only other _ rfl
        exact early
      | done other outcome =>
        obtain rfl := only other _ rfl
        exact Nat.le_of_eq (prompt _ _ (List.mem_cons_of_mem _ List.mem_cons_self))
    | expired _ _ late =>
      have := late delay (calls.head begins)
      omega
    | answered other outcome is _ told =>
      obtain rfl := same begins other _ is
      refine replies_of_mem retired told ⟨outcome, ?_, rfl⟩
      rw [is]
      exact List.mem_cons_of_mem _ List.mem_cons_self

end Race

end RandomBeacon
