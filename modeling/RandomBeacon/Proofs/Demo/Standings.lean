import RandomBeacon.Proofs.Demo.Sessions

/-!
Where the session stands, with what is still to happen before it goes on (`At`). Any turn of any
task keeps this, whatever order the callbacks run in and however the results overtake one another
(`At.turn`); so do the clock (`At.pass`) and the session itself (`At.advance`), and each of them
brings the end nearer.
-/

namespace RandomBeacon.Demo

open World (rules)

variable {p : Plan}

/-- How long a session takes. -/
def Plan.elapsed (p : Plan) : Nat := if p.requests = 0 then 0 else p.publishDelay

/-- How a session comes out. -/
def Plan.collection (p : Plan) : Collection := ⟨p.results, p.results.getLast?, p.elapsed⟩

/-- A query for the last round is answered with the last of the results. -/
theorem Reports.last {reply : Reply} (reports : Reports p false p.requests reply) :
    reply = .found (.ok p.results.getLast?) := by
  obtain ⟨floor, is⟩ : ∃ floor, floor = p.requests := ⟨_, rfl⟩
  rw [← is] at reports
  cases reports with
  | found k =>
    rcases p.getLast?_results with ⟨none, _⟩ | ⟨j, some, last⟩
    · omega
    · obtain rfl : j = k := by omega
      rw [last]

/-- A state of the session, with the turns that are to be taken before its errand is over and the
publications that are due have been made. -/
inductive At (p : Plan) : State → (turns : Nat) → Prop
  | opening {number turns : Nat} {t : Timeline} {own : List Task}
    (stands : (opens p).Stands t number own turns) (scheduled : Scheduled p own [] t)
    (now : t.now = 0) : At p ⟨.opening number, t, []⟩ turns
  | asking {number turns : Nat} {t : Timeline} {own : List Task}
    (stands : (asksChain p).Stands t number own turns) (scheduled : Scheduled p own [] t)
    (now : t.now = 0) : At p ⟨.asking number, t, []⟩ turns
  | requesting {left number turns owes admits drawn : Nat} {t : Timeline} {inbox : List Randomness}
    {own : List Task} {numbers : List Nat}
    (underway : Underway p t number true 0 own turns owes admits)
    (holds : Holds p own numbers drawn t) (now : t.now = 0) (told : Told p drawn [] inbox)
    (count : drawn + numbers.length + owes + left = p.requests)
    (room : t.state.client.callbacks.length + admits + left ≤ p.requests)
    (listen : admits = 0 ∨ numbers ≠ [] → t.state.client.callbacks ≠ []) :
    At p ⟨.requesting left number, t, inbox⟩ (turns + owes + numbers.length)
  | collecting {deadline drawn : Nat} {t : Timeline} {rounds inbox : List Randomness}
    {numbers : List Nat} (holds : Holds p [] numbers drawn t) (told : Told p drawn rounds inbox)
    (count : drawn + numbers.length = p.requests)
    (room : t.state.client.callbacks.length ≤ p.requests)
    (listen : p.requests ≠ 0 → t.state.client.callbacks ≠ [])
    (patient : p.publishDelay < deadline) (idle : p.requests = 0 → t.now = 0) :
    At p ⟨.collecting rounds deadline, t, inbox⟩ numbers.length
  | verifying {number turns : Nat} {t : Timeline} {inbox : List Randomness} {own : List Task}
    (underway : Underway p t number false p.requests own turns 0 0)
    (holds : Holds p own [] p.requests t) (elapsed : t.now = p.elapsed) :
    At p ⟨.verifying p.results number, t, inbox⟩ turns
  | closing {number turns : Nat} {t : Timeline} {inbox : List Randomness} {own : List Task}
    (stands : closes.Stands t number own turns) (scheduled : Scheduled p own [] t)
    (heard : Heard p p.requests (hears t.state)) (elapsed : t.now = p.elapsed) :
    At p ⟨.closing p.results p.results.getLast? number, t, inbox⟩ turns
  | ended {t : Timeline} {inbox : List Randomness} (scheduled : Scheduled p [] [] t)
    (heard : Heard p p.requests (hears t.state)) :
    At p ⟨.ended (.ok p.collection), t, inbox⟩ 0

namespace At

variable {s : State} {turns number : Nat}

/-- The order of the callbacks does not matter. -/
theorem reordered (here : At p s turns) {callbacks : List (RequestId × ClientHandler)}
    (order : callbacks.Perm s.timeline.state.client.callbacks) :
    At p { s with timeline :=
      { s.timeline with state := s.timeline.state.reordered callbacks } } turns := by
  have within {own : List Task} {numbers : List Nat}
      (scheduled : Scheduled p own numbers s.timeline) :=
    scheduled.within (s.timeline.state.reordered callbacks) s.timeline.now
  cases here with
  | opening stands scheduled now => exact .opening (stands.reordered order) (within scheduled) now
  | asking stands scheduled now => exact .asking (stands.reordered order) (within scheduled) now
  | requesting underway holds now told count room listen =>
    refine .requesting (underway.congr rfl rfl fun _ => id) (holds.reordered order) now told count
      ?_ fun one none => listen one ?_
    · exact Nat.le_trans (Nat.le_of_eq (congrArg (· + _ + _) order.length_eq)) room
    · exact List.nil_perm.mp (none ▸ order)
  | collecting holds told count room listen patient idle =>
    refine .collecting (holds.reordered order) told count ?_ (fun some none => listen some ?_)
      patient idle
    · exact Nat.le_trans (Nat.le_of_eq order.length_eq) room
    · exact List.nil_perm.mp (none ▸ order)
  | verifying underway holds elapsed =>
    exact .verifying (underway.congr rfl rfl fun _ => id) (holds.reordered order) elapsed
  | closing stands scheduled heard elapsed =>
    exact .closing (stands.reordered order) (within scheduled) heard elapsed
  | ended scheduled heard => exact .ended (within scheduled) heard

section Turns

variable (feasible : p.Feasible) (patient : 0 < p.config.requestTimeout)
include feasible patient

/-- A turn while the session waits for the end of a request. -/
theorem fire_requesting {left turns owes admits drawn : Nat} {t : Timeline}
    {before inbox : List Randomness} {own : List Task} {numbers : List Nat} {task : Task}
    (underway : Underway p t number true 0 own turns owes admits)
    (holds : Holds p own numbers drawn t) (early : t.now = 0) (told : Told p drawn [] before)
    (count : drawn + numbers.length + owes + left = p.requests)
    (room : t.state.client.callbacks.length + admits + left ≤ p.requests)
    (listen : admits = 0 ∨ numbers ≠ [] → t.state.client.callbacks ≠ [])
    (mem : task ∈ t.tasks) (ready : t.isReady rules task = true)
    (arrive : inbox.Perm (before ++ arrivals t.state (t.fire rules task).state)) :
    ∃ turns', turns' < turns + owes + numbers.length ∧
      inbox.length ≤ before.length + p.requests ∧ Grows t.state (t.fire rules task).state ∧
      At p ⟨.requesting left number, t.fire rules task, inbox⟩ turns' := by
  have now : (t.fire rules task).now = t.now := Schedule.Timeline.now_fire _ _ _
  rcases holds.scheduled.mem_iff.mp mem with inside | ⟨id, due, rfl⟩
  · obtain ⟨own', turns', owes', new, less, same, underway', scheduled', joined⟩ :=
      underway.fire patient holds.scheduled holds.serves (Nat.zero_le _) (fun _ => early) inside
        ready
    rw [arrivals_same joined.hears, List.append_nil] at arrive
    refine ⟨turns' + owes' + (numbers ++ new).length, ?_, ?_, .same joined.hears,
      .requesting underway' (holds.joined scheduled' joined now) (now.trans early)
        (told.perm arrive) ?_ ?_ ?_⟩
    · rw [List.length_append]
      omega
    · exact Nat.le_trans (Nat.le_of_eq arrive.length_eq) (Nat.le_add_right _ _)
    · rw [List.length_append]
      omega
    · rcases Nat.eq_zero_or_pos admits with none | some
      · rw [joined.ordinary none]
        omega
      · have joins := (joined.joins (Nat.ne_of_gt some)).2
        omega
    · intro _
      rcases Nat.eq_zero_or_pos admits with none | some
      · rw [joined.ordinary none]
        exact listen (.inl none)
      · exact (joined.joins (Nat.ne_of_gt some)).1
  · have length := List.length_erase_of_mem due
    have some := List.length_pos_of_mem due
    have listens := listen (.inr (List.ne_nil_of_mem due))
    obtain ⟨holds', exchanged, callbacks, grows, told', filled⟩ :=
      holds.publish feasible (by omega) listens due ready told arrive
    have stays (reply : Reply) (left : t.resultOf? number = .some reply) :
        (t.fire rules (p.publication id)).resultOf? number = .some reply :=
      holds.scheduled.retired.resultOf?_fire left mem
    exact ⟨turns + owes + (numbers.erase id).length, by omega, by omega, grows,
      .requesting (underway.congr now exchanged stays) holds' (now.trans early) told' (by omega)
        (callbacks ▸ room) fun _ => callbacks ▸ listens⟩

omit patient in
/-- A turn while the session waits for results: a publication. -/
theorem fire_collecting {deadline drawn : Nat} {t : Timeline}
    {rounds before inbox : List Randomness} {numbers : List Nat} {task : Task}
    (holds : Holds p [] numbers drawn t) (told : Told p drawn rounds before)
    (count : drawn + numbers.length = p.requests)
    (room : t.state.client.callbacks.length ≤ p.requests)
    (listen : p.requests ≠ 0 → t.state.client.callbacks ≠ [])
    (waits : p.publishDelay < deadline) (idle : p.requests = 0 → t.now = 0)
    (mem : task ∈ t.tasks) (ready : t.isReady rules task = true)
    (arrive : inbox.Perm (before ++ arrivals t.state (t.fire rules task).state)) :
    ∃ turns', turns' < numbers.length ∧ inbox.length ≤ before.length + p.requests ∧
      Grows t.state (t.fire rules task).state ∧
      At p ⟨.collecting rounds deadline, t.fire rules task, inbox⟩ turns' := by
  have now : (t.fire rules task).now = t.now := Schedule.Timeline.now_fire _ _ _
  rcases holds.scheduled.mem_iff.mp mem with inside | ⟨id, due, rfl⟩
  · cases inside
  · have length := List.length_erase_of_mem due
    have some := List.length_pos_of_mem due
    obtain ⟨holds', exchanged, callbacks, grows, told', filled⟩ :=
      holds.publish feasible (by omega) (listen (by omega)) due ready told arrive
    exact ⟨(numbers.erase id).length, by omega, by omega, grows,
      .collecting holds' told' (by omega) (callbacks ▸ room) (callbacks ▸ listen) waits
        fun none => now.trans (idle none)⟩

/-- A turn of a task brings the end nearer. -/
theorem fire {standing : Standing} {t : Timeline} {before inbox : List Randomness}
    (here : At p ⟨standing, t, before⟩ turns) {task : Task} (mem : task ∈ t.tasks)
    (ready : t.isReady rules task = true)
    (arrive : inbox.Perm (before ++ arrivals t.state (t.fire rules task).state)) :
    ∃ turns', turns' < turns ∧ inbox.length ≤ before.length + p.requests ∧
      Grows t.state (t.fire rules task).state ∧
      At p ⟨standing, t.fire rules task, inbox⟩ turns' := by
  have now : (t.fire rules task).now = t.now := Schedule.Timeline.now_fire _ _ _
  cases here with
  | opening stands scheduled early =>
    obtain ⟨own', turns', less, stands', scheduled', same⟩ := stands.fire scheduled mem
    rw [arrivals_same same] at arrive
    obtain rfl := List.perm_nil.mp arrive
    exact ⟨turns', less, Nat.zero_le _, .same same,
      .opening stands' scheduled' (now.trans early)⟩
  | asking stands scheduled early =>
    obtain ⟨own', turns', less, stands', scheduled', same⟩ := stands.fire scheduled mem
    rw [arrivals_same same] at arrive
    obtain rfl := List.perm_nil.mp arrive
    exact ⟨turns', less, Nat.zero_le _, .same same, .asking stands' scheduled' (now.trans early)⟩
  | requesting underway holds early told count room listen =>
    exact fire_requesting feasible patient underway holds early told count room listen mem ready
      arrive
  | collecting holds told count room listen waits idle =>
    exact fire_collecting feasible holds told count room listen waits idle mem ready arrive
  | @verifying number turns _ _ own underway holds elapsed =>
    have inside : task ∈ own := by simpa using holds.scheduled.mem_iff.mp mem
    obtain ⟨own', turns', owes', new, less, same, underway', scheduled', joined⟩ :=
      underway.fire patient holds.scheduled holds.serves (Nat.le_refl _) nofun inside ready
    obtain ⟨none, rfl⟩ := Nat.add_eq_zero_iff.mp same
    obtain rfl := List.eq_nil_of_length_eq_zero none
    rw [arrivals_same joined.hears, List.append_nil] at arrive
    refine ⟨turns', less, ?_, .same joined.hears,
      .verifying underway' (holds.joined scheduled' joined now) (now.trans elapsed)⟩
    exact Nat.le_trans (Nat.le_of_eq arrive.length_eq) (Nat.le_add_right _ _)
  | closing stands scheduled heard elapsed =>
    obtain ⟨own', turns', less, stands', scheduled', same⟩ := stands.fire scheduled mem
    rw [arrivals_same same, List.append_nil] at arrive
    refine ⟨turns', less, ?_, .same same,
      .closing stands' scheduled' (same ▸ heard) (now.trans elapsed)⟩
    exact Nat.le_trans (Nat.le_of_eq arrive.length_eq) (Nat.le_add_right _ _)
  | ended scheduled => simp [scheduled.mem_iff] at mem

end Turns

end At

/-- The turns that are to be taken after those of the errand that the session waits for. -/
def Standing.ahead (requests : Nat) : Standing → Nat
  | opening _ => 5 * requests + 8
  | asking _ => 5 * requests + 6
  | requesting left _ => 5 * left + 6
  | collecting _ _ => 6
  | verifying _ _ => 2
  | closing _ _ _ | ended _ => 0

/-- How often the session has still to go on, the results that it takes up apart. -/
def Standing.moves (requests : Nat) : Standing → Nat
  | opening _ => requests + 5
  | asking _ => requests + 4
  | requesting left _ => left + 4
  | collecting _ _ => 3
  | verifying _ _ => 2
  | closing _ _ _ => 1
  | ended _ => 0

namespace At

variable {s : State} {turns : Nat}

/-- Going on brings the end nearer. -/
structure Onward (p : Plan) (s : State) (turns : Nat) (t : State) (turns' : Nat) : Prop where
  here : At p t turns'
  ahead : turns' + t.standing.ahead p.requests ≤ turns + s.standing.ahead p.requests
  moves : t.inbox.length + t.standing.moves p.requests <
    s.inbox.length + s.standing.moves p.requests
  now : t.timeline.now = s.timeline.now

section Moves

variable (patient : 0 < p.config.requestTimeout)
include patient

/-- The next request, or the beginning of the collection. -/
theorem request {drawn left : Nat} {numbers : List Nat}
    (holds : Holds p [] numbers drawn s.timeline)
    (now : s.timeline.now = 0) (told : Told p drawn [] s.inbox)
    (count : drawn + numbers.length + left = p.requests)
    (room : s.timeline.state.client.callbacks.length + left ≤ p.requests)
    (listen : drawn + numbers.length ≠ 0 → s.timeline.state.client.callbacks ≠ [])
    (ahead : numbers.length + 5 * left + 6 ≤ turns + s.standing.ahead p.requests)
    (moves : left + 3 < s.standing.moves p.requests) :
    ∃ turns', Onward p s turns (s.request p left) turns' := by
  cases left with
  | zero =>
    refine ⟨_, .collecting holds told count room (count ▸ listen) ?_ fun _ => now, ahead, ?_, rfl⟩
    · rw [now, Plan.patience]
      omega
    · exact Nat.add_lt_add_left moves _
  | succ left =>
    refine ⟨_, .requesting (.asked .request) (holds.start _) now told ?_ ?_ ?_, ?_, ?_, rfl⟩
    · simp only [Bool.toNat_true]
      omega
    · have same : (s.timeline.start (.request handler)).state = s.timeline.state := rfl
      simp only [Bool.toNat_true, same]
      omega
    · rintro (none | some)
      · cases none
      · refine listen ?_
        have := List.length_pos_of_ne_nil some
        omega
    · have same : (s.request p (left + 1)).standing.ahead p.requests = 5 * left + 6 := rfl
      simp only [Bool.toNat_true, same]
      omega
    · have same : (s.request p (left + 1)).standing.moves p.requests = left + 4 := rfl
      have kept : (s.request p (left + 1)).inbox = s.inbox := rfl
      rw [same, kept]
      omega

end Moves

/-- The session begins to close. -/
theorem close {t : Timeline} (scheduled : Scheduled p [] [] t)
    (heard : Heard p p.requests (hears t.state)) (elapsed : t.now = p.elapsed)
    (inbox : List Randomness) :
    At p ⟨.closing p.results p.results.getLast? t.issued, t.start .closeSession, inbox⟩ 2 :=
  .closing (.asked trivial) (scheduled.start .closeSession) heard elapsed

/-- While more is to come the session waits for it: its patience is not at its end. -/
theorem still {deadline drawn : Nat} {t : Timeline} {numbers : List Nat}
    (holds : Holds p [] numbers drawn t)
    (listen : p.requests ≠ 0 → t.state.client.callbacks ≠ []) (waits : p.publishDelay < deadline)
    (more : p.requests ≠ 0) : ¬(deadline ≤ t.now ∨ t.state.client.callbacks = []) := by
  have clock := holds.clock
  rintro (late | deaf)
  · omega
  · exact listen more deaf

section Report

variable (feasible : p.Feasible)
include feasible

/-- The end of the collection. -/
theorem report {rounds inbox : List Randomness} {deadline drawn : Nat} {t : Timeline}
    {numbers : List Nat} (holds : Holds p [] numbers drawn t) (told : Told p drawn rounds inbox)
    (count : drawn + numbers.length = p.requests) (idle : p.requests = 0 → t.now = 0)
    (enough : p.requests ≤ rounds.length) :
    ∃ turns', Onward p ⟨.collecting rounds deadline, t, inbox⟩ numbers.length
      (State.report ⟨.collecting rounds deadline, t, inbox⟩ rounds) turns' := by
  obtain ⟨rfl, sorted⟩ := told.report_eq feasible (by omega) enough
  obtain rfl : numbers = [] := List.eq_nil_of_length_eq_zero (by omega)
  have elapsed : t.now = p.elapsed := by
    rw [Plan.elapsed]
    split
    next none => exact idle none
    next some => exact holds.past some
  rcases p.getLast?_results with ⟨none, last⟩ | ⟨k, some, last⟩
  · have reports : State.report ⟨.collecting rounds deadline, t, inbox⟩ rounds =
        ⟨.closing p.results p.results.getLast? t.issued, t.start .closeSession, inbox⟩ := by
      rw [State.report, sorted, last]
      rfl
    rw [reports]
    refine ⟨2, close holds.scheduled holds.heard elapsed inbox, ?_, ?_, rfl⟩
    · simp only [Standing.ahead]
      omega
    · simp only [Standing.moves]
      omega
  · have reports : State.report ⟨.collecting rounds deadline, t, inbox⟩ rounds =
        ⟨.verifying p.results t.issued,
          t.start (.query (.getRandomness (p.round k).number)), inbox⟩ := by
      rw [State.report, sorted, last]
      rfl
    rw [reports]
    refine ⟨4, .verifying (.asked ?_) (holds.start _) elapsed, ?_, ?_, rfl⟩
    · exact some ▸ .query k
    · simp only [Standing.ahead]
      omega
    · simp only [Standing.moves]
      omega

variable (patient : 0 < p.config.requestTimeout)
include patient

/-- The session goes on when its errand has left its result, and takes up the results of rounds
until it has all of them. -/
theorem advance {standing : Standing} {t : Timeline} {inbox : List Randomness}
    (here : At p ⟨standing, t, inbox⟩ turns) {s' : State}
    (goes : State.advance? p ⟨standing, t, inbox⟩ = some s') :
    ∃ turns', Onward p ⟨standing, t, inbox⟩ turns s' turns' := by
  cases here with
  | opening stands scheduled now =>
    obtain ⟨reply, left, rfl⟩ := Option.map_eq_some_iff.mp goes
    obtain ⟨rfl, rests, rfl⟩ := stands.ended scheduled left
    refine ⟨2, .asking (.asked rests) (scheduled.start _) now, ?_, ?_, rfl⟩
    · exact Nat.le_trans (Nat.le_of_eq (Nat.add_comm _ _)) (Nat.le_add_left _ _)
    · exact Nat.add_lt_add_left (Nat.lt_succ_self _) _
  | asking stands scheduled now =>
    obtain ⟨reply, left, rfl⟩ := Option.map_eq_some_iff.mp goes
    obtain ⟨rfl, rests⟩ := stands.ended scheduled left
    have holds : Holds p [] [] 0 t :=
      ⟨scheduled, rests.serves, rests.hears ▸ .nothing p, .inl now, fun some => absurd rfl some⟩
    refine request patient holds now (.nothing p) (Nat.zero_add _) ?_ (absurd rfl) ?_ ?_
    · rw [rests.callbacks]
      exact Nat.le_of_eq (Nat.zero_add _)
    · simp only [Standing.ahead, List.length_nil]
      omega
    · exact Nat.lt_succ_self _
  | requesting underway holds now told count room listen =>
    obtain ⟨reply, left, rfl⟩ := Option.map_eq_some_iff.mp goes
    obtain ⟨rfl, rfl, rfl, reports⟩ := underway.ended holds.scheduled left
    cases reports with
    | requested id =>
      refine request patient holds now told count room (fun _ => listen (.inl rfl)) ?_ ?_
      · simp only [Standing.ahead]
        omega
      · exact Nat.lt_succ_self _
  | @collecting deadline drawn _ rounds _ numbers holds told count room listen waits idle =>
    have goes : State.collect? p ⟨.collecting rounds deadline, t, inbox⟩ rounds deadline =
        some s' :=
      goes
    rw [State.collect?] at goes
    split at goes
    next enough =>
      obtain rfl := Option.some.inj goes
      exact report feasible holds told count idle enough
    next wants =>
      cases inbox with
      | cons r rest =>
        obtain rfl := Option.some.inj goes
        refine ⟨_, .collecting holds (told.take feasible (by omega) wants) count room listen ?_
          idle, Nat.le_refl _, ?_, rfl⟩
        · rw [Plan.patience]
          omega
        · exact Nat.add_lt_add_right (Nat.lt_succ_self _) _
      | nil => cases (if_neg (still holds listen waits (by omega))).symm.trans goes
  | verifying underway holds elapsed =>
    obtain ⟨reply, left, rfl⟩ := Option.map_eq_some_iff.mp goes
    obtain ⟨rfl, _, _, reports⟩ := underway.ended holds.scheduled left
    obtain rfl := reports.last
    refine ⟨2, close holds.scheduled holds.heard elapsed inbox, ?_, ?_, rfl⟩
    · exact Nat.le_add_left _ _
    · exact Nat.add_lt_add_left (Nat.lt_succ_self _) _
  | closing stands scheduled heard elapsed =>
    obtain ⟨reply, left, rfl⟩ := Option.map_eq_some_iff.mp goes
    obtain ⟨rfl, _⟩ := stands.ended scheduled left
    have last : At p ⟨.ended (.ok p.collection), t, inbox⟩ 0 := .ended scheduled heard
    rw [Plan.collection, ← elapsed] at last
    refine ⟨0, last, ?_, ?_, rfl⟩
    · exact Nat.zero_le _
    · exact Nat.add_lt_add_left (Nat.lt_succ_self _) _
  | ended => cases goes

end Report

end At

end RandomBeacon.Demo
