import RandomBeacon.Proofs.Inquiries

/-!
The trip of a detached call to the provider: it sets out in one turn of its task and comes back in
another, whatever happens in between and whether anyone still waits or not (`Trip`). A reply to the
one who waits that tells of no failure tells what the call has brought back
(`Runs.reply_brought_back`).
-/

namespace RandomBeacon

theorem Inquiry.reply_error (i : Inquiry) (e : Failure) :
    (i.reply (.error e)).failure? = some e := by
  cases i <;> rfl

/-- An answer tells how the call has ended. -/
theorem Detached.answer_injective (d : Detached) {outcome other : Outcome d.Reply}
    (same : d.answer outcome = d.answer other) : outcome = other := by
  cases d with
  | submit => exact Answer.submitted.inj same
  | query => exact Answer.looked.inj same

namespace World.Timeline

variable {π : Type} [Provider π]

/-- How far a detached call has got since the timeline was `start`. -/
inductive Trip (start : Timeline π) (caller exchange : Nat) (d : Detached) (past : List (Action π))
    (t : Timeline π) : Prop
  | home {due : Option Nat} (untouched : .turn caller ∉ past)
      (found : t.task? caller = some ⟨caller, due, .calling d exchange⟩)
      (unanswered : t.state.answers.lookup exchange = none)
  | out {first rest : List (Action π)} {due due' : Option Nat}
      {pending : Pending π (Outcome d.Reply)} (is : past = first ++ .turn caller :: rest)
      (before : .turn caller ∉ first) (since : .turn caller ∉ rest)
      (sets : (start.play first).task? caller = some ⟨caller, due, .calling d exchange⟩)
      (goes : ((start.play first).act (.turn caller)).task? caller =
        some ⟨caller, due', .inFlight d exchange pending⟩)
      (found : t.task? caller = some ⟨caller, due', .inFlight d exchange pending⟩)
      (unanswered : t.state.answers.lookup exchange = none)
  | back {first between rest : List (Action π)} {due due' : Option Nat}
      {pending : Pending π (Outcome d.Reply)}
      (is : past = first ++ .turn caller :: (between ++ .turn caller :: rest))
      (before : .turn caller ∉ first) (since : .turn caller ∉ between)
      (after : .turn caller ∉ rest)
      (sets : (start.play first).task? caller = some ⟨caller, due, .calling d exchange⟩)
      (goes : ((start.play first).act (.turn caller)).task? caller =
        some ⟨caller, due', .inFlight d exchange pending⟩)
      (returns : (((start.play first).act (.turn caller)).play between).task? caller =
        some ⟨caller, due', .inFlight d exchange pending⟩)
      (gone : t.task? caller = none)
      (answered : t.state.answers.lookup exchange = some (d.answer (pending.finish
        (((start.play first).act (.turn caller)).play between).state.provider).result))

variable {e : Surroundings π} {start s t : Timeline π} {a : Action π}
  {actions past : List (Action π)} {number caller exchange : Nat} {d : Detached} {i : Inquiry}

/-- The turn of a call that is about to start puts it in flight. -/
theorem turn_calling (numbered : t.Numbered) {due : Option Nat}
    (found : t.task? caller = some ⟨caller, due, .calling d exchange⟩) :
    ∃ due' pending, (t.act (.turn caller)).task? caller =
        some ⟨caller, due', .inFlight d exchange pending⟩ ∧
      (t.act (.turn caller)).state.answers = t.state.answers := by
  have goes := task?_turn found numbered
  have state := state_turn found
  cases World.resume_trades t.now ⟨caller, due, .calling d exchange⟩ t.state with
  | apart idle => cases idle
  | begins _ _ _ next _ kept =>
    rw [next] at goes
    exact ⟨_, _, goes, state ▸ congrArg Prod.snd kept⟩

/-- The turn of a call in flight is its end. -/
theorem turn_inFlight (numbered : t.Numbered) {due : Option Nat}
    {pending : Pending π (Outcome d.Reply)}
    (found : t.task? caller = some ⟨caller, due, .inFlight d exchange pending⟩) :
    (t.act (.turn caller)).task? caller = none ∧
    (t.act (.turn caller)).state.answers =
      (exchange, d.answer (pending.finish t.state.provider).result) :: t.state.answers := by
  have goes := task?_turn found numbered
  have state := state_turn found
  cases World.resume_trades t.now ⟨caller, due, .inFlight d exchange pending⟩ t.state with
  | apart idle => cases idle
  | ends _ _ _ next _ answered =>
    rw [next] at goes
    exact ⟨goes, state ▸ congrArg Prod.snd answered⟩

/-- Whatever happens next, the call goes its way. -/
theorem Trip.act (trip : Trip start caller exchange d past t) (is : t = start.play past)
    (makes : t.Makes exchange caller) (numbered : t.Numbered) (allowed : t.Allows e a) :
    Trip start caller exchange d (past ++ [a]) (t.act a) := by
  by_cases own : a = .turn caller
  · subst own
    cases trip with
    | home untouched found unanswered =>
      obtain ⟨due', pending, goes, answers⟩ := turn_calling numbered found
      subst is
      exact .out rfl untouched List.not_mem_nil found goes goes (answers ▸ unanswered)
    | out was before since sets goes found unanswered =>
      obtain ⟨gone, answers⟩ := turn_inFlight numbered found
      subst was
      rw [play_append] at is
      subst is
      refine .back (by simp) before since List.not_mem_nil sets goes found gone ?_
      rw [answers]
      exact List.lookup_cons_self
    | back _ _ _ _ _ _ _ gone =>
      obtain ⟨task, found, _⟩ := allowed
      rw [gone] at found
      cases found
  · obtain ⟨_, lookup⟩ := makes.act_other own
    have kept := task?_act makes.given own
    have other : .turn caller ∉ [a] := by simpa using Ne.symm own
    cases trip with
    | home untouched found unanswered =>
      exact .home (by simp [untouched, other]) (kept.trans found) (lookup.trans unanswered)
    | @out first rest _ _ _ was before since sets goes found unanswered =>
      have is : past ++ [a] = first ++ .turn caller :: (rest ++ [a]) := by simp [was]
      exact .out is before (by simp [since, other]) sets goes (kept.trans found)
        (lookup.trans unanswered)
    | @back first between rest _ _ _ was before since after sets goes returns gone answered =>
      have is : past ++ [a] =
          first ++ .turn caller :: (between ++ .turn caller :: (rest ++ [a])) := by simp [was]
      exact .back is before since (by simp [after, other]) sets goes returns (kept.trans gone)
        (lookup.trans answered)

/-- What a call has brought back stays. -/
theorem Trip.lookup_act (trip : Trip start caller exchange d past t) (makes : t.Makes exchange caller)
    (allowed : t.Allows e a) {answer : Answer}
    (answered : t.state.answers.lookup exchange = some answer) :
    (t.act a).state.answers.lookup exchange = some answer := by
  refine (makes.act_other ?_).2.trans answered
  rintro rfl
  obtain ⟨task, taken, _⟩ := allowed
  cases trip with
  | home _ _ unanswered | out _ _ _ _ _ _ unanswered =>
    rw [unanswered] at answered
    cases answered
  | back _ _ _ _ _ _ _ gone =>
    rw [gone] at taken
    cases taken

/-- Where the one who waits for a call has got: while the call is away, all that the wait can come to
is a failure. -/
inductive Awaits (number exchange : Nat) (i : Inquiry) (t : Timeline π) : Prop
  | waits {generation : Nat} {due : Option Nat}
      (found : t.task? number = some ⟨number, due, i.work generation exchange⟩)
  | failed {reply : Reply} (gone : t.Gone number reply) (tells : reply.failure?.isSome)
  | told {outcome : Outcome i.call.Reply}
      (gone : t.Gone number (i.reply (i.verdict outcome)))
      (answered : t.state.answers.lookup exchange = some (i.call.answer outcome))

/-- One who has waited to the end has given up or has got what the call has brought back. -/
theorem turn_awaits (trip : Trip start caller exchange i.call past t) (numbered : t.Numbered)
    {generation : Nat} {due : Option Nat}
    (found : t.task? number = some ⟨number, due, i.work generation exchange⟩) :
    Awaits number exchange i (t.act (.turn number)) := by
  have resumes : (rules.resume t.now ⟨number, due, i.work generation exchange⟩ t.state).next = _ :=
    (World.run_inquiry t.now t.state i generation exchange rfl).1
  obtain ⟨ended, _⟩ := turn_inquiry numbered found rfl
  have goes := task?_turn found numbered
  rw [resumes] at goes
  have given : number < t.issued := numbered.2 _ (task?_spec found).1
  have gone : Gone (t.act (.turn number)) number _ :=
    ⟨goes, Nat.lt_of_lt_of_le given (act_ended t _).2, _, ended ▸ List.mem_cons_self, rfl, rfl⟩
  -- the wait itself brings no answer
  have lookup : (t.act (.turn number)).state.answers.lookup exchange =
      t.state.answers.lookup exchange := by
    rw [state_turn found]
    exact (World.resume_trades t.now _ t.state).lookup (by simp)
  have failed (unanswered : t.state.answers.lookup exchange = none) :
      Awaits number exchange i (t.act (.turn number)) := by
    have none : i.outcome? t.state exchange = none := Inquiry.outcome?_of_lookup unanswered
    rw [none] at gone
    exact .failed gone (by rw [Inquiry.ending, Inquiry.reply_error]; rfl)
  cases trip with
  | home _ _ unanswered | out _ _ _ _ _ _ unanswered => exact failed unanswered
  | back _ _ _ _ _ _ _ _ answered =>
    have gotten : i.outcome? t.state exchange = some _ := Inquiry.outcome?_of_lookup answered
    rw [gotten] at gone
    exact .told gone (lookup.trans answered)

theorem Awaits.act (awaits : Awaits number exchange i t)
    (trip : Trip start caller exchange i.call past t) (makes : t.Makes exchange caller)
    (numbered : t.Numbered) (allowed : t.Allows e a) : Awaits number exchange i (t.act a) := by
  cases awaits with
  | waits found =>
    by_cases own : a = .turn number
    · subst own
      exact turn_awaits trip numbered found
    · have given : number < t.issued := numbered.2 _ (task?_spec found).1
      exact .waits ((task?_act given own).trans found)
  | failed gone tells => exact .failed (act_gone allowed gone).2 tells
  | told gone answered =>
    exact .told (act_gone allowed gone).2 (trip.lookup_act makes allowed answered)

/-- The call of this number has come back with this outcome while actions were taken. -/
inductive Returned (start : Timeline π) (caller exchange : Nat) (d : Detached)
    (actions : List (Action π)) (outcome : Outcome d.Reply) : Prop
  | intro {earlier rest : List (Action π)} {due : Option Nat} {pending : Pending π (Outcome d.Reply)}
      (is : actions = earlier ++ .turn caller :: rest)
      (flies : (start.play earlier).task? caller =
        some ⟨caller, due, .inFlight d exchange pending⟩)
      (brings : (pending.finish (start.play earlier).state.provider).result = outcome)

theorem Trip.returned (trip : Trip start caller exchange d past t) {outcome : Outcome d.Reply}
    (answered : t.state.answers.lookup exchange = some (d.answer outcome)) :
    Returned start caller exchange d past outcome := by
  cases trip with
  | home _ _ unanswered | out _ _ _ _ _ _ unanswered =>
    rw [unanswered] at answered
    cases answered
  | @back first between rest _ _ _ is _ _ _ _ _ returns _ brought =>
    have same := d.answer_injective (Option.some.inj (brought.symm.trans answered))
    have split : past = (first ++ .turn caller :: between) ++ .turn caller :: rest := by simp [is]
    have along : start.play (first ++ .turn caller :: between) =
        ((start.play first).act (.turn caller)).play between := play_append _ _ _
    rw [← along] at returns same
    exact .intro split returns same

theorem Runs.gone (run : Runs e s actions t) {reply : Reply} (gone : s.Gone number reply) :
    t.Gone number reply := by
  obtain ⟨performs, rfl⟩ := run
  induction actions generalizing s with
  | nil => exact gone
  | cons a rest ih => exact ih (act_gone performs.1 gone).2 performs.2

omit [Provider π] in
theorem Gone.result {reply : Reply} (gone : t.Gone number reply) (retired : t.Retired)
    {entry : Schedule.Ended Reply} (ended : entry ∈ t.ended) (own : entry.id = number) :
    entry.result = reply := by
  obtain ⟨_, _, other, mem, same, is⟩ := gone
  exact Schedule.Timeline.Retired.unique retired ended mem (own.trans same.symm) ▸ is

section Course

variable {errand : Errand} {due : Option Nat}

/-- A call that has been taken goes its way, and the one who waits for it goes by it. -/
theorem Runs.trip (run : Runs e start actions t) (sound : Sound start)
    (makes : start.Makes exchange caller) (trip : Trip start caller exchange i.call [] start)
    (awaits : Awaits number exchange i start) :
    Trip start caller exchange i.call actions t ∧ Awaits number exchange i t := by
  refine (run.carries_play (P := fun past t => t.Makes exchange caller ∧
    Trip start caller exchange i.call past t ∧ Awaits number exchange i t)
    sound ⟨makes, trip, awaits⟩ ?_).2
  rintro past u a is allowed sound ⟨makes, trip, awaits⟩
  exact ⟨makes.step (step_act allowed), trip.act is makes sound.numbered allowed,
    awaits.act trip makes sound.numbered allowed⟩

/-- A client that is not ready refuses a request or a query. -/
theorem begin_refuses {w : World π} {now : Nat} (asks : errand.inquiry? now w = some i)
    (idle : w.client.session.lifecycle ≠ .ready) :
    ∃ reply, (w.begin now errand).next = .ended reply ∧ reply.failure?.isSome := by
  cases errand with
  | openSession | closeSession | awaitReady | chain | account => cases asks
  | request handler =>
    have named : (w.nameRequest now).2.client = w.client := rfl
    simp only [begin, Client.admitRequest, Client.readyGeneration, named, if_neg idle, Except.map]
    exact ⟨_, rfl, rfl⟩
  | query q =>
    simp only [begin, Client.readyGeneration, if_neg idle]
    exact ⟨_, rfl, rfl⟩

/-- A reply without a failure tells what the call has brought back. -/
theorem Runs.reply_brought_back (sound : Sound s) (retired : s.Retired) (traded : s.Traded)
    (found : s.task? number = some ⟨number, due, .errand errand⟩)
    (asks : errand.inquiry? s.now s.state = some i) (allowed : s.Allows e (.turn number))
    (later : Runs e (s.act (.turn number)) actions t) {entry : Schedule.Ended Reply}
    (ended : entry ∈ t.ended) (own : entry.id = number) (well : entry.result.failure? = none) :
    ∃ outcome, entry.result = i.reply (i.verdict outcome) ∧
      Returned (s.act (.turn number)) s.issued s.state.exchanges i.call actions outcome := by
  have after := (step_act allowed).sound sound
  have once := later.reachable.retired after.numbered ((step_act allowed).retired sound.numbered
    retired)
  have fails {reply : Reply} (gone : t.Gone number reply) (tells : reply.failure?.isSome) : False := by
    rw [← gone.result once ended own, well] at tells
    cases tells
  by_cases ready : s.client.session.lifecycle = .ready
  · obtain ⟨_, _, makes, _, calls, _⟩ :=
      admission sound retired traded allowed found asks ready
    have waits := admission_waits sound.numbered found asks ready
    cases calls with
    | due sets _ unanswered =>
      obtain ⟨trip, awaits⟩ := later.trip after makes
        (.home List.not_mem_nil sets unanswered) (.waits waits)
      cases awaits with
      | waits found =>
        exact absurd own.symm (once.gone entry ended _ (task?_spec found).1)
      | failed gone tells => exact (fails gone tells).elim
      | told gone answered => exact ⟨_, gone.result once ended own, trip.returned answered⟩
  · obtain ⟨reply, next, tells⟩ := begin_refuses asks ready
    have resumes : (rules.resume s.now ⟨number, due, .errand errand⟩ s.state).next = .ended reply :=
      next
    have none := task?_turn found sound.numbered
    have told : (s.act (.turn number)).ended = ⟨number, s.now, reply⟩ :: s.ended := by
      have ended := ended_turn found
      rwa [resumes] at ended
    rw [resumes] at none
    have given : number < s.issued := sound.numbered.2 _ (task?_spec found).1
    have gone : Gone (s.act (.turn number)) number reply :=
      ⟨none, Nat.lt_of_lt_of_le given (act_ended s _).2, _, told ▸ List.mem_cons_self, rfl, rfl⟩
    exact (fails (later.gone gone) tells).elim

end Course

end World.Timeline

end RandomBeacon
