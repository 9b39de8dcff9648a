import RandomBeacon.Proofs.Deadlines
import RandomBeacon.Proofs.Guard

/-!
Requests and queries from their admission to what follows from their loss. The reply is decided by
the race of the provider's call against the deadline. The end of a call leaves the session alone; if
the call is lost, a recovery of its generation is started, which hands the session to reconnection
if at its turn the generation is still that of the session, the session is ready or initializing, and
the guard is down. Where the calls of the provider return, the guard is down exactly while no
hand-off of the session is under way. A hand-off that a panic of the provider has cut short leaves
its guard up, and from then on lost calls of its generation are not recovered from.
-/

namespace RandomBeacon

namespace World.Timeline

variable {π : Type} [Provider π] {e : Surroundings π} {s t u : Timeline π} {a : Action π}
  {actions : List (Action π)} {number generation : Nat} {due : Option Nat}

/-- The turn of this task hands the session of `generation` to reconnection: its guard is up and the
first attempt is due after a delay, or no attempt is left and the session has failed. -/
inductive HandsOff (t : Timeline π) (number generation : Nat) : Prop
  | begins (h : Handoff) (duration : Nat) {due : Option Nat} {pending : Pending π Unit}
      (found : (t.act (.turn number)).task? number =
        some ⟨number, due, .operation (.scheduled h duration) pending⟩)
      (own : h.generation = generation)
      (guard : (t.act (.turn number)).client.session.reconnecting = some generation)
      (lifecycle : (t.act (.turn number)).client.session.lifecycle = .reconnecting)
  | spent (connected : t.client.session.lifecycle = .ready ∨
        t.client.session.lifecycle = .initializing)
      (budget : t.client.config.reconnection.maxAttempts ≤ t.client.budget.attempts)
      (gone : (t.act (.turn number)).Gone number
        (.finished (.error (.reconnection t.client.budget.attempts))))
      (lifecycle : (t.act (.turn number)).client.session.lifecycle = .failed)

section Recovery


variable (numbered : t.Numbered) (found : t.task? number = some ⟨number, due, .recovery generation⟩)
include numbered found

theorem turn_recovery :
    (t.act (.turn number)).Attends number (t.client.recoverSession generation).2 ∧
    (t.act (.turn number)).client.core = (t.client.recoverSession generation).1.core := by
  have is : t.state.run t.now (.recovery generation) =
      t.state.proceed t.now [] (t.client.recoverSession generation) := rfl
  have attends := fire_attends numbered (task?_spec found).1 is
  rwa [← act_turn found] at attends

theorem recovery_rests (quiet : t.client.loses generation = false) :
    (t.act (.turn number)).client.core = t.client.core ∧
    (t.act (.turn number)).task? number = none := by
  obtain ⟨attends, after⟩ := turn_recovery numbered found
  have keeps : t.client.loses generation ≠ true := by simp [quiet]
  by_cases current : t.client.session.generation = generation
  · obtain ⟨d, handed, core⟩ := Client.handOff_begins current .lostCall
    rw [Client.recoverSession] at attends after
    generalize (t.client.handOff .lostCall generation).2 = progress at attends handed
    cases handed with
    | busy | skips => exact ⟨after.trans core, attends.none⟩
    | begins _ _ down connected | spent _ _ down connected =>
      exact absurd (Client.loses_iff.mpr ⟨current, down, connected⟩) keeps
  · obtain ⟨core, ended⟩ := Client.handOff_stale current
    rw [Client.recoverSession] at attends after
    rw [ended] at attends
    exact ⟨after.trans core, attends.none⟩

theorem recovery_starts (loses : t.client.loses generation = true) :
    t.HandsOff number generation := by
  obtain ⟨attends, after⟩ := turn_recovery numbered found
  obtain ⟨current, down, connected⟩ := Client.loses_iff.mp loses
  obtain ⟨d, handed, core⟩ := Client.handOff_begins current .lostCall
  rw [Client.recoverSession] at attends after
  have session : (t.act (.turn number)).client.session = d.session :=
    (Client.core_eq_iff.mp (after.trans core)).2.2.1
  generalize (t.client.handOff .lostCall generation).2 = progress at attends handed
  cases handed with
  | busy up => exact absurd up down
  | skips _ _ _ idle => exact absurd connected (by simp [idle])
  | begins _ duration _ _ left =>
    obtain ⟨due, pending, found⟩ := attends
    exact .begins _ duration found rfl (by rw [session]; rfl) (by rw [session]; rfl)
  | spent _ e _ _ spent tells =>
    subst tells
    exact .spent connected spent attends (by rw [session]; rfl)

/-- A recovery hands the session to reconnection if it finds a connection to lose, and else leaves
it alone. -/
theorem handsOff_iff : t.HandsOff number generation ↔ t.client.loses generation = true := by
  constructor
  · intro hands
    by_contra quiet
    obtain ⟨core, none⟩ := recovery_rests numbered found (Bool.eq_false_iff.mpr quiet)
    cases hands with
    | begins h duration goes =>
      rw [none] at goes
      cases goes
    | spent connected _ _ lifecycle =>
      rw [(Client.core_eq_iff.mp core).2.2.1] at lifecycle
      rw [lifecycle] at connected
      simp at connected
  · exact recovery_starts numbered found

end Recovery

section Admission

/-- The race that begins when this task takes a request or a query to the provider. -/
def race (t : Timeline π) (number : Nat) (i : Inquiry) : Race where
  inquiry := i
  generation := t.client.session.generation
  exchange := t.state.exchanges
  number := number
  caller := t.issued
  start := t.now
  limit := t.client.config.requestTimeout

variable {errand : Errand} {i : Inquiry}

/-- The task of a request or a query that is taken waits for its call. -/
theorem admission_waits (numbered : t.Numbered)
    (found : t.task? number = some ⟨number, due, .errand errand⟩)
    (asks : errand.inquiry? t.now t.state = some i)
    (ready : t.client.session.lifecycle = .ready) :
    (t.act (.turn number)).task? number =
      some ⟨number, some (t.now + t.client.config.requestTimeout),
        i.work t.client.session.generation t.state.exchanges⟩ := by
  have waits := task?_turn found numbered
  have next : (rules.resume t.now ⟨number, due, .errand errand⟩ t.state).next = _ :=
    (begin_detaches asks ready).1
  rwa [next] at waits

/-- A client that is ready takes a request or a query, and the race begins. -/
theorem admission (sound : Sound t) (retired : t.Retired) (traded : t.Traded)
    (allowed : t.Allows e (.turn number))
    (found : t.task? number = some ⟨number, due, .errand errand⟩)
    (asks : errand.inquiry? t.now t.state = some i)
    (ready : t.client.session.lifecycle = .ready) :
    (t.race number i).Holds [] (t.act (.turn number)) := by
  have step := step_act allowed
  obtain ⟨mem, _⟩ := task?_spec found
  obtain ⟨next, spawned, counted⟩ := begin_detaches asks ready
  have resumes : (rules.resume t.now ⟨number, due, .errand errand⟩ t.state).next = _ := next
  have spawns : (rules.resume t.now ⟨number, due, .errand errand⟩ t.state).spawned =
      [(some t.now, .calling i.call t.state.exchanges)] := spawned
  have called := Schedule.Timeline.find?_fire_spawned t rules sound.numbered spawns
  have state := state_turn found
  have issued := Schedule.Timeline.issued_fire_eq rules t ⟨number, due, .errand errand⟩
  have still := act_now_turn t number
  rw [spawns, List.length_singleton] at issued
  rw [← act_turn found] at called issued
  have exchanged : (t.act (.turn number)).state.exchanged =
      (t.state.exchanges + 1, t.state.answers) := by
    rw [state]
    exact counted
  have exchanges : (t.act (.turn number)).state.exchanges = t.state.exchanges + 1 :=
    congrArg Prod.fst exchanged
  have given := sound.numbered.2 _ mem
  have config := (Reachable.start.next step).config sound.numbered sound.aligned
  refine ⟨step.retired sound.numbered retired, congrArg Config.requestTimeout config,
    ⟨?_, ?_, ?_⟩, ?_, ?_, ?_⟩
  · -- no call has had this number before, and one task is new
    intro other inside makes
    have below := (step.numbered sound.numbered).2 other inside
    rw [act_turn found] at inside
    rcases Schedule.Timeline.mem_fire_waits inside with ⟨old, _⟩ | ⟨_, same⟩ | ⟨new, _⟩
    · exact absurd (traded.made other old _ makes) (Nat.lt_irrefl _)
    · rw [resumes] at same
      obtain ⟨_, same⟩ := Schedule.Next.wait.inj same
      simp [← same] at makes
    · simp only [race]
      omega
  · exact exchanges ▸ Nat.lt_succ_self _
  · exact issued ▸ Nat.lt_succ_self _
  · exact issued ▸ Nat.lt_succ_of_lt given
  · refine .due called still ?_
    have answers : (t.act (.turn number)).state.answers = t.state.answers :=
      congrArg Prod.snd exchanged
    rw [answers]
    apply List.lookup_eq_none_iff.mpr
    intro entry mem
    exact bne_iff_ne.mpr (Nat.ne_of_gt (traded.answered entry mem))
  · refine .waits (admission_waits sound.numbered found asks ready) (still ▸ Nat.le_add_right _ _) ?_
    rintro instant answer ⟨⟩

/-- A task waits as it did until it takes a turn. -/
theorem Runs.awaits (run : Runs e s actions t) {task : Schedule.Task (Work π)}
    (found : s.task? number = some task) (given : number < s.issued)
    (untouched : .turn number ∉ actions) : t.task? number = some task := by
  obtain ⟨performs, rfl⟩ := run
  induction actions generalizing s with
  | nil => exact found
  | cons a rest ih =>
    obtain ⟨allowed, performs⟩ := performs
    have other : a ≠ .turn number := fun same => untouched (same ▸ List.mem_cons_self)
    exact ih ((task?_act given other).trans found)
      (Nat.lt_of_lt_of_le given (act_ended s a).2)
      (fun later => untouched (List.mem_cons_of_mem _ later)) performs

end Admission

section Conclusion

/-- What the turn of a recovery from a call that was lost in `generation` comes to. -/
structure Recovers (t : Timeline π) (number generation : Nat) : Prop where
  starts : t.HandsOff number generation ↔
    t.client.session.generation = generation ∧
    t.client.session.reconnecting ≠ some generation ∧
    (t.client.session.lifecycle = .ready ∨ t.client.session.lifecycle = .initializing)
  /-- Where the calls of the provider return, the guard is down if no hand-off is under way. -/
  steady : Provider.Steady π → (t.HandsOff number generation ↔
    t.client.session.generation = generation ∧
    (∀ s ∈ t.stages, s.recovers generation = false) ∧
    (t.client.session.lifecycle = .ready ∨ t.client.session.lifecycle = .initializing))
  rests : ¬t.HandsOff number generation → (t.act (.turn number)).client.core = t.client.core

/-- What the end of a call that was taken in `generation` comes to: the session is left alone, and a
call that is lost has one recovery, which is due at once. -/
structure Concludes (e : Surroundings π) (t : Timeline π) (number generation : Nat) : Prop where
  core : (t.act (.turn number)).client.core = t.client.core
  told : ∃ reply, (t.act (.turn number)).ended = ⟨number, t.now, reply⟩ :: t.ended ∧
    (reply.isLost = false → (t.act (.turn number)).issued = t.issued) ∧
    (reply.isLost = true →
      (t.act (.turn number)).task? t.issued = some ⟨t.issued, some t.now, .recovery generation⟩ ∧
      ∀ actions u, Runs e (t.act (.turn number)) actions u → .turn t.issued ∉ actions →
        u.Allows e (.turn t.issued) → u.Recovers t.issued generation)

theorem recovers (sound : Sound t) (guarded : Provider.Steady π → Guarded t.client t.stages)
    (found : t.task? number = some ⟨number, due, .recovery generation⟩) :
    t.Recovers number generation := by
  have hands := (handsOff_iff sound.numbered found).trans Client.loses_iff
  refine ⟨hands, ?_, ?_⟩
  · intro steady
    rw [hands]
    refine and_congr_right fun current => and_congr_left fun _ => ?_
    have up := (guarded steady).up_iff
    rw [current] at up
    simp [up]
  · intro quiet
    have keeps := mt (handsOff_iff sound.numbered found).mpr quiet
    exact (recovery_rests sound.numbered found (Bool.eq_false_iff.mpr keeps)).1

/-- The turn of a wait for a call is its end. -/
theorem concludes (sound : Sound t) (guarded : Provider.Steady π → Guarded t.client t.stages)
    {i : Inquiry} {exchange : Nat}
    (found : t.task? number = some ⟨number, due, i.work generation exchange⟩)
    (allowed : t.Allows e (.turn number)) : t.Concludes e number generation := by
  have step := step_act allowed
  obtain ⟨ended, core, lost, kept⟩ := turn_inquiry sound.numbered found rfl
  refine ⟨core, _, ended, kept, ?_⟩
  intro is
  have recovery := lost is
  refine ⟨recovery, ?_⟩
  intro actions u run untouched _
  have after := step.sound sound
  have given := after.numbered.2 _ (task?_spec recovery).1
  exact recovers (run.reachable.sound after)
    (fun steady => run.reachable.guarded steady after (step.guarded steady sound (guarded steady)))
    (run.awaits recovery given untouched)

variable {config : Config} {factors : Nat → Binary64} {provider : π} {suffixes : Nat → Suffix}
  {errand : Errand} {i : Inquiry}

/-- In every run, a request or a query that a ready client takes to the provider is decided by the
race of the provider's call against the timeout: if the call takes longer, the reply is the timeout,
at its instant, and if it takes less, the reply is what the end of the call means, at the instant at
which it ends. Its end leaves the session alone and starts a recovery if, and only if, the reply is a
network error or a timeout; and the recovery hands the session to reconnection if, and only if, it
finds its generation, with the guard down and a connection to lose. -/
theorem inquiry_verdict (run : Reachable e (fresh config factors provider suffixes) s)
    (found : s.task? number = some ⟨number, due, .errand errand⟩)
    (asks : errand.inquiry? s.now s.state = some i)
    (ready : s.client.session.lifecycle = .ready) (allowed : s.Allows e (.turn number))
    (later : Runs e (s.act (.turn number)) actions u) :
    ((s.act (.turn number)).Timely actions →
      (s.race number i).Decided
        ((s.act (.turn number)).milestonesOf s.state.exchanges actions) u) ∧
    (.turn number ∉ actions → u.Allows e (.turn number) →
      u.Concludes e number s.client.session.generation) := by
  have fresh_sound := sound_fresh config factors provider suffixes
  have step := step_act allowed
  have sound := run.sound fresh_sound
  have after := step.sound sound
  have taken := admission sound
    (run.retired fresh_sound.numbered (retired_fresh config factors provider suffixes))
    (run.traded (traded_fresh config factors provider suffixes)) allowed found asks ready
  constructor
  · intro timely
    have held := later.carries_timely (milestones s.state.exchanges)
      (P := (s.race number i).Holds) timely after taken
      fun _ _ _ allowed timely sound holds => holds.act sound allowed timely
    rw [List.nil_append] at held
    exact held.decided
  · intro untouched last
    have waits := admission_waits sound.numbered found asks ready
    refine concludes (later.reachable.sound after) ?_ (later.awaits waits taken.known untouched) last
    intro steady
    exact ((run.next step).trans later.reachable).guarded steady fresh_sound
      (guarded_fresh config factors provider suffixes)

end Conclusion

section Trials

omit [Provider π] in
/-- An errand that is asked for is a task with the next number. -/
theorem task?_start (numbered : t.Numbered) (errand : Errand) :
    (t.start errand).task? t.issued = some ⟨t.issued, some t.now, .errand errand⟩ :=
  (task?_eq_some (Schedule.Timeline.numbered_spawn numbered _ _)).mpr
    (List.mem_append_right _ List.mem_cons_self)

/-- A session whose submissions take ten seconds. -/
def sluggish : Timeline Simulated :=
  (trial 3 (.trial {})).replay (fun _ _ => true) [
    .ask .openSession, .turns 9, .behave { submitDelay := 10000 }]

/-- A request is asked for there. -/
def asking : Timeline Simulated := sluggish.start (.request (.plain "late"))

/-- Five seconds after it has been taken. -/
def overdue : Timeline Simulated := (asking.act (.turn 1)).play [.turn 2, .pass 5000]

theorem inquiry_verdict_overdue :
    ⟨1, 5000, .requested (.error (.timeout 5000000))⟩ ∈ (overdue.act (.turn 1)).ended ∧
    (overdue.act (.turn 1)).HandsOff 3 0 := by
  let surroundings : Surroundings Simulated := .limited Simulated.Adjusts fun _ _ => true
  have all : ∀ w work, surroundings.permits w work := fun _ _ => rfl
  have opened : Reachable surroundings (trial 3 (.trial {})) sluggish := reachable_replay _ _
  have run : Reachable surroundings (trial 3 (.trial {})) asking := opened.next (.ask _)
  have issued : sluggish.issued = 1 := by decide +kernel
  have found := task?_start (opened.numbered (numbered_fresh _ _ _ _)) (.request (.plain "late"))
  rw [issued] at found
  have ready : asking.client.session.lifecycle = .ready := by decide +kernel
  have taken : asking.Allows surroundings (.turn 1) := allows_turn all (by decide +kernel)
  have ends : overdue.Allows surroundings (.turn 1) := allows_turn all (by decide +kernel)
  have idle : ((asking.act (.turn 1)).act (.turn 2)).Idle rules 5000 := by decide +kernel
  have before : Runs surroundings (asking.act (.turn 1)) [.turn 2, .pass 5000] overdue :=
    ⟨⟨allows_turn all (by decide +kernel), idle.later, trivial⟩, rfl⟩
  have after : Runs surroundings (asking.act (.turn 1)) [.turn 2, .pass 5000, .turn 1]
      (overdue.act (.turn 1)) := before.append ⟨⟨ends, trivial⟩, rfl⟩
  have begun : (asking.act (.turn 1)).milestonesOf asking.state.exchanges
      [.turn 2, .pass 5000, .turn 1] = [.begins 0 10000] := by decide +kernel
  have limit : asking.client.config.requestTimeout = 5000 := by decide +kernel
  have now : overdue.now = 5000 := by decide +kernel
  have started : overdue.issued = 3 := by decide +kernel
  have generation : asking.client.session.generation = 0 := by decide +kernel
  have decided := (inquiry_verdict run found rfl ready taken after).1
    ⟨trivial, idle, trivial, trivial⟩
  obtain ⟨core, reply, ended, _, lost⟩ :=
    (inquiry_verdict run found rfl ready taken before).2 (by simp) ends
  rw [begun] at decided
  have is : reply = .requested (.error (.timeout 5000000)) := by
    have replies := decided.late 10000 List.mem_cons_self (by decide +kernel)
    refine (replies.only _ (ended ▸ List.mem_cons_self) rfl).2.trans ?_
    simp only [Race.givenUp, race, limit]
    rfl
  obtain ⟨_, recovers⟩ := lost (is ▸ rfl)
  rw [started, generation] at recovers
  rw [ended, is, now]
  refine ⟨List.mem_cons_self, (recovers [] _ ⟨trivial, rfl⟩ (by simp) ?_).starts.mpr ?_⟩
  · exact allows_turn all (by decide +kernel)
  · decide +kernel

/-- A session whose hand-off a panic of the provider has cut short, and that an opening which was
under way has made ready since. -/
def haunted : Timeline Scripted :=
  (trial 3 {}).replay (fun _ _ => true) [
    .script {
      submit := [⟨10000, .returned (.accepted "early")⟩,
        ⟨0, .failed (.transport "connection reset")⟩]
      subscribe := [⟨0, .returned ()⟩, ⟨0, .failed (.rejected "busy")⟩, ⟨10000, .returned ()⟩,
        ⟨0, .panicked (some "provider bug")⟩, ⟨0, .returned ()⟩] },
    .ask .openSession, .turns 9,
    .ask (.request (.plain "early")), .turns 9,
    .ask (.request (.plain "late")), .turns 9, .pass 100, .turns 9,
    .pass 4400, .ask .openSession, .turns 9,
    .pass 500, .turns 9, .pass 100, .turns 9, .pass 4900, .turns 9, .pass 4500, .turns 9]

/-- A request is asked for there. -/
def pleading : Timeline Scripted := haunted.start (.request (.plain "last"))

/-- It has been taken, and its call has failed. -/
def refused : Timeline Scripted := (pleading.act (.turn 8)).play [.turn 9, .turn 9]

/-- A lost call may find its generation, a session that is ready and no hand-off under way, and yet
not be recovered from. -/
theorem lost_call_ignored :
    ∃ provider t, ∃ number generation,
      Reachable (.limited Scripted.Adjusts fun _ _ => true) (trial 3 provider) t ∧
      t.Allows (.limited Scripted.Adjusts fun _ _ => true) (.turn number) ∧
      (∃ due exchange, ∃ i : Inquiry,
        t.task? number = some ⟨number, due, i.work generation exchange⟩) ∧
      (t.act (.turn number)).ended = ⟨number, t.now,
        .requested (.error (.network (some (.transport "connection reset"))))⟩ :: t.ended ∧
      (t.act (.turn number)).Allows (.limited Scripted.Adjusts fun _ _ => true)
        (.turn t.issued) ∧
      (t.act (.turn number)).task? t.issued =
        some ⟨t.issued, some t.now, .recovery generation⟩ ∧
      (t.act (.turn number)).client.session.generation = generation ∧
      (t.act (.turn number)).client.session.lifecycle = .ready ∧
      (∀ s ∈ (t.act (.turn number)).stages, s.recovers generation = false) ∧
      ¬(t.act (.turn number)).HandsOff t.issued generation := by
  let surroundings : Surroundings Scripted := .limited Scripted.Adjusts fun _ _ => true
  have all : ∀ w work, surroundings.permits w work := fun _ _ => rfl
  have opened : Reachable surroundings (trial 3 {}) haunted := reachable_replay _ _
  have asked : Reachable surroundings (trial 3 {}) pleading := opened.next (.ask _)
  have issued : haunted.issued = 8 := by decide +kernel
  have found := task?_start (opened.numbered (numbered_fresh _ _ _ _)) (.request (.plain "last"))
  rw [issued] at found
  have taken : pleading.Allows surroundings (.turn 8) := allows_turn all (by decide +kernel)
  have later : Runs surroundings (pleading.act (.turn 8)) [.turn 9, .turn 9] refused :=
    ⟨⟨allows_turn all (by decide +kernel), allows_turn all (by decide +kernel), trivial⟩, rfl⟩
  have run := (asked.next (step_act taken)).trans later.reachable
  have ends : refused.Allows surroundings (.turn 8) := allows_turn all (by decide +kernel)
  have sound := asked.sound (sound_fresh _ _ _ _)
  have numbered := run.numbered (numbered_fresh _ _ _ _)
  have waits := later.awaits
    (admission_waits sound.numbered found rfl (by decide +kernel)) (by decide +kernel) (by simp)
  obtain ⟨ended, _, lost, _⟩ := turn_inquiry numbered waits rfl
  have outcome : refused.state.submissionOutcome? pleading.state.exchanges =
      some (.failed (.transport "connection reset")) := by decide +kernel
  simp only [Inquiry.outcome?, outcome] at ended lost
  have recovery := lost rfl
  refine ⟨{}, refused, 8, pleading.client.session.generation, run, ends, ⟨_, _, _, waits⟩, ended,
    allows_turn all (by decide +kernel), recovery, by decide +kernel, by decide +kernel,
    by decide +kernel, ?_⟩
  rw [handsOff_iff ((run.next (step_act ends)).numbered (numbered_fresh _ _ _ _)) recovery]
  decide +kernel

end Trials

end World.Timeline

end RandomBeacon
