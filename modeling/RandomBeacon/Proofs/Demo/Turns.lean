import RandomBeacon.Proofs.Demo.Rounds
import RandomBeacon.Proofs.Lookups

/-!
What the turns of the session's tasks do to its world. As long as the session is open the client is
ready and every callback is the session's own handler (`Serves`), whoever takes a turn; a request or
a query is answered as the session wants it (`Leg`), and a publication sends one copy of the next
result for each callback (`Serves.publishes`).
-/

namespace RandomBeacon

theorem Simulated.find?_insert (l : Simulated) (r : Round) (number : UInt64) :
    (l.insert r).find? number = if r.number = number then some r else l.find? number := by
  have entered := Chronicle.find?_enter number l.chronicle (.publishes r)
  rw [lastPublished_publishes] at entered
  refine Eq.trans entered ?_
  split <;> rfl

namespace Scene

variable {s : Scene} {name : String}

/-- Callbacks that only listen hear a result, and that is all. -/
theorem foldl_attendCallback (r : Randomness) {callbacks : List (RequestId × ClientHandler)}
    (listen : ∀ entry ∈ callbacks, entry.2 = .plain name) :
    callbacks.foldl (attendCallback r) s = { s with host := { s.host with
      heard := List.replicate callbacks.length (name, r) ++ s.host.heard
      invocations := s.host.invocations + callbacks.length } } := by
  induction callbacks generalizing s with
  | nil => rfl
  | cons entry rest ih =>
    obtain ⟨id, callback⟩ := entry
    obtain rfl : callback = .plain name := listen _ List.mem_cons_self
    have attended : attendCallback r s (id, .plain name) = s.hearing r (.plain name) := rfl
    rw [List.foldl_cons, attended, ih fun entry mem => listen entry (List.mem_cons_of_mem _ mem),
      List.length_cons, List.replicate_succ']
    simp [hearing, Handler.plain, Handler.steady, Handler.name, Nat.add_assoc, Nat.add_comm 1]

/-- Where the registry holds nothing but a dispatch handler, a published round goes to the callbacks,
and nowhere else. -/
theorem deliver_callbacks {number : Nat}
    (dispatch : s.client.registry.audience .randomnessPublished = [.ofDispatch number])
    (listen : ∀ entry ∈ s.client.callbacks, entry.2 = .plain name) (r : Round) :
    s.deliver r = {
      client := s.client.recordDispatch r.result
      host := { s.host with
        heard := List.replicate s.client.callbacks.length (name, r.result) ++ s.host.heard
        invocations := s.host.invocations + s.client.callbacks.length } } := by
  have attended : attendListener r.result s (.ofDispatch number) = s.dispatch r.result := rfl
  rw [deliver_eq, dispatch, List.foldl_cons, List.foldl_nil, attended, dispatch_eq,
    foldl_attendCallback r.result listen]

end Scene

namespace Demo

open World (rules)

/-- A ledger that has drawn so many rounds and keeps them all. -/
structure Ledger (p : Plan) (drawn : Nat) (l : Simulated) : Prop where
  behavior : l.behavior = { publishAfter := some p.publishDelay }
  contents : l.contents = p.chance.contents
  count : l.drawn = drawn
  next : l.nextNumber = UInt64.ofNat (drawn + 1)
  found : ∀ k < drawn, l.find? (p.round k).number = some (p.round k)

namespace Ledger

variable {p : Plan} {drawn : Nat} {l : Simulated}

theorem draws (ledger : Ledger p drawn l) : l.draw.1 = p.round drawn := by
  rw [Simulated.draw, ledger.count, ledger.next, ledger.contents]
  rfl

/-- The next round is drawn and kept. -/
theorem publish (ledger : Ledger p drawn l) (feasible : p.Feasible) (more : drawn < p.requests) :
    Ledger p (drawn + 1) (l.draw.2.insert (p.round drawn)) := by
  refine ⟨ledger.behavior, ledger.contents, congrArg (· + 1) ledger.count, ?_, ?_⟩
  · have next : (l.draw.2.insert (p.round drawn)).nextNumber = l.nextNumber + 1 := rfl
    rw [next, ledger.next, UInt64.ofNat_add (drawn + 1) 1]
    rfl
  · intro k less
    rw [Simulated.find?_insert]
    split
    next same =>
      have within : k < p.requests := Nat.lt_of_le_of_lt (Nat.le_of_lt_succ less) more
      rw [Plan.number_inj feasible more within same]
    next differs =>
      have earlier : k < drawn :=
        Nat.lt_of_le_of_ne (Nat.le_of_lt_succ less) fun is => differs (is ▸ rfl)
      exact ledger.found k earlier

end Ledger

/-- The world of an open session, in which so many rounds have been drawn. -/
structure Serves (p : Plan) (drawn : Nat) (w : World Simulated) : Prop where
  config : w.client.config = p.config
  ready : w.client.session.lifecycle = .ready
  generation : w.client.session.generation = 0
  dispatch : ∃ number, w.client.registry.audience .randomnessPublished = [.ofDispatch number]
  callbacks : ∀ entry ∈ w.client.callbacks, entry.2 = handler
  ledger : Ledger p drawn w.provider
  held : ∃ id, w.provider.audience = [id]
  answers : ∀ entry ∈ w.answers, entry.1 < w.exchanges

/-- What has come to the session through its callbacks. -/
def hears (w : World Simulated) : List (String × Randomness) × Nat :=
  (w.scene.host.heard, w.scene.host.invocations)

/-- A turn of an open session that neither adds a callback nor publishes a round. -/
structure Quiet (p : Plan) (drawn : Nat) (w v : World Simulated) : Prop where
  serves : Serves p drawn v
  callbacks : v.client.callbacks = w.client.callbacks
  hears : hears v = hears w

/-- A turn of an open session that publishes nothing, after which there may be one callback more. -/
structure Joined (p : Plan) (drawn admits : Nat) (w v : World Simulated) : Prop where
  serves : Serves p drawn v
  hears : hears v = hears w
  ordinary : admits = 0 → v.client.callbacks = w.client.callbacks
  joins : admits ≠ 0 → v.client.callbacks ≠ [] ∧
    v.client.callbacks.length ≤ w.client.callbacks.length + 1

variable {p : Plan} {drawn floor exchange : Nat} {w v : World Simulated} {leaves : Bool}

theorem Quiet.joined (quiet : Quiet p drawn w v) : Joined p drawn 0 w v :=
  ⟨quiet.serves, quiet.hears, fun _ => quiet.callbacks, fun more => absurd rfl more⟩

theorem Serves.congr (serves : Serves p drawn w) (core : v.client.core = w.client.core)
    {count : Nat} (ledger : Ledger p count v.provider)
    (held : v.provider.audience = w.provider.audience)
    (answers : ∀ entry ∈ v.answers, entry.1 < v.exchanges) : Serves p count v := by
  obtain ⟨config, _, session, _, _, registry, callbacks⟩ := Client.core_eq_iff.mp core
  obtain ⟨config', ready, generation, dispatch, own, _, held', _⟩ := serves
  constructor
  · exact config.trans config'
  · rwa [session]
  · rwa [session]
  · rwa [registry]
  · rwa [callbacks]
  · exact ledger
  · rwa [held]
  · exact answers

theorem Serves.quiet (serves : Serves p drawn w) (core : v.client.core = w.client.core)
    (ledger : Ledger p drawn v.provider) (held : v.provider.audience = w.provider.audience)
    (answers : ∀ entry ∈ v.answers, entry.1 < v.exchanges) (same : hears v = hears w) :
    Quiet p drawn w v :=
  ⟨serves.congr core ledger held answers, (Client.core_eq_iff.mp core).2.2.2.2.2.2, same⟩

theorem Serves.reordered (serves : Serves p drawn w) {callbacks : List (RequestId × ClientHandler)}
    (order : callbacks.Perm w.client.callbacks) : Serves p drawn (w.reordered callbacks) := by
  obtain ⟨config, ready, generation, dispatch, own, ledger, held, answers⟩ := serves
  exact ⟨config, ready, generation, dispatch,
    fun entry mem => own entry (order.mem_iff.mp mem), ledger, held, answers⟩

theorem Serves.journalAt (serves : Serves p drawn w) (now : Nat) :
    Serves p drawn (w.journalAt now) := by
  refine serves.congr ?_ serves.ledger ?_ serves.answers
  · rfl
  · rfl

theorem Joined.journalAt {admits : Nat} (joined : Joined p drawn admits w v) (now : Nat) :
    Joined p drawn admits w (v.journalAt now) :=
  ⟨joined.serves.journalAt now, joined.hears, joined.ordinary, joined.joins⟩

/-- No call that is still to be detached has been answered. -/
theorem Serves.unanswered (serves : Serves p drawn w) : w.answers.lookup w.exchanges = none := by
  refine List.lookup_eq_none_iff.mpr fun entry mem => ?_
  exact bne_iff_ne.mpr (Nat.ne_of_gt (serves.answers entry mem))

/-- A request or a query of the session, and the answer that the ledger gives once it has drawn
`floor` rounds. An accepted request `leaves` a round to be published. -/
inductive Leg (p : Plan) : (i : Inquiry) → i.call.Reply → (leaves : Bool) → (floor : Nat) → Prop
  | request (name : String) (id : RequestId) (requestId : String) (timestamp : UInt64) :
      Leg p (.request name id (.requestRandomness requestId timestamp))
        (.accepted ("mock_tx_" ++ requestId)) true 0
  | query (k : Nat) :
      Leg p (.query (.getRandomness (p.round k).number)) ⟨some (p.round k)⟩ false (k + 1)

/-- The errands that are such requests and queries. -/
inductive Asks (p : Plan) : Errand → (leaves : Bool) → (floor : Nat) → Prop
  | request : Asks p (.request handler) true 0
  | query (k : Nat) : Asks p (.query (.getRandomness (p.round k).number)) false (k + 1)

/-- How the call of such a request or query ends. -/
structure Ends (p : Plan) {i : Inquiry} (answer : i.call.Reply) (leaves : Bool) (floor : Nat)
    (pending : Pending Simulated (Outcome i.call.Reply)) : Prop where
  result : ∀ drawn l, floor ≤ drawn → Ledger p drawn l →
    (pending.finish l).result = .returned answer
  ledger : ∀ drawn l, Ledger p drawn l → Ledger p drawn (pending.finish l).provider
  held : ∀ l, (pending.finish l).provider.audience = l.audience
  publication : ∀ l, (pending.finish l).publication =
    if leaves then some ⟨p.publishDelay, Simulated.draw⟩ else none

section Legs

variable {i : Inquiry} {answer : i.call.Reply} (leg : Leg p i answer leaves floor)
include leg

theorem Leg.settles (limit : Nat) : i.ending limit (some (.returned answer)) = .ok answer := by
  cases leg with
  | request | query => rfl

/-- The call begins, and is to end at once. -/
theorem Leg.calls (serves : Serves p drawn w) (now exchange : Nat) :
    ∃ pending, (w.run now (.calling i.call exchange)).next =
        .wait (some now) (.inFlight i.call exchange pending) ∧
      Ends p answer leaves floor pending ∧
      (w.run now (.calling i.call exchange)).spawned = [] ∧
      (w.run now (.calling i.call exchange)).state.exchanged = w.exchanged ∧
      Quiet p drawn w (w.run now (.calling i.call exchange)).state := by
  have ledger := serves.ledger
  have behavior := ledger.behavior
  cases leg with
  | request name id requestId timestamp =>
    refine ⟨⟨0, Simulated.settleSubmission w.provider.behavior requestId⟩, ?_, ?_, rfl, rfl, ?_⟩
    · have delay : w.provider.behavior.submitDelay = 0 := by rw [behavior]
      simp only [World.run, World.call, Provider.start, Simulated.start, delay, Nat.add_zero]
    · rw [behavior]
      refine ⟨?_, ?_, ?_, ?_⟩
      · intro drawn l _ _
        rfl
      · intro drawn l ledger
        exact ⟨ledger.behavior, ledger.contents, ledger.count, ledger.next, ledger.found⟩
      · intro l
        rfl
      · intro l
        rfl
    · refine serves.quiet rfl ?_ rfl serves.answers rfl
      exact ⟨behavior, ledger.contents, ledger.count, ledger.next, ledger.found⟩
  | query k =>
    refine ⟨⟨0, Simulated.settleQuery w.provider.behavior (p.round k).number⟩, ?_, ?_, rfl, rfl, ?_⟩
    · have delay : w.provider.behavior.queryDelay = 0 := by rw [behavior]
      simp only [World.run, World.call, Provider.start, Simulated.start, delay, Nat.add_zero]
    · rw [behavior]
      refine ⟨?_, ?_, ?_, ?_⟩
      · intro drawn l past ledger
        have found := ledger.found k past
        simp only [Simulated.settleQuery, found]
        rfl
      · intro drawn l ledger
        exact ledger
      · intro l
        rfl
      · intro l
        rfl
    · refine serves.quiet rfl ?_ rfl serves.answers rfl
      exact ⟨behavior, ledger.contents, ledger.count, ledger.next, ledger.found⟩

/-- The call ends with its answer, and leaves a publication if it is to. -/
theorem Ends.answers {pending : Pending Simulated (Outcome i.call.Reply)}
    (ends : Ends p answer leaves floor pending) (serves : Serves p drawn w) (past : floor ≤ drawn)
    (made : exchange < w.exchanges) (now : Nat) :
    (w.run now (.inFlight i.call exchange pending)).next = .ended .unheard ∧
    (w.run now (.inFlight i.call exchange pending)).spawned =
      (if leaves then [(some (now + p.publishDelay), .publishing Simulated.draw)] else []) ∧
    (w.run now (.inFlight i.call exchange pending)).state.exchanged =
      (w.exchanges, (exchange, i.call.answer (.returned answer)) :: w.answers) ∧
    Quiet p drawn w (w.run now (.inFlight i.call exchange pending)).state := by
  have result := ends.result drawn w.provider past serves.ledger
  have publication := ends.publication w.provider
  refine ⟨rfl, ?_, ?_, ?_⟩
  · simp only [World.run, World.finish, publication]
    cases leaves <;> rfl
  · simp only [World.exchanged, World.run, World.finish, result]
    rfl
  · refine serves.quiet (World.finish_core now pending w) (ends.ledger drawn _ serves.ledger)
      (ends.held w.provider) ?_ rfl
    intro entry mem
    rcases List.mem_cons.mp mem with rfl | old
    · exact made
    · exact serves.answers entry old

/-- The one who waits for the call gets its answer. -/
theorem Leg.concludes (serves : Serves p drawn w) (now : Nat)
    (answered : w.answers.lookup exchange = some (i.call.answer (.returned answer))) :
    (w.run now (i.work 0 exchange)).next = .ended (i.reply (.ok answer)) ∧
    (w.run now (i.work 0 exchange)).spawned = [] ∧
    (w.run now (i.work 0 exchange)).state.exchanged = w.exchanged ∧
    Quiet p drawn w (w.run now (i.work 0 exchange)).state := by
  have outcome : i.outcome? w exchange = some (.returned answer) :=
    Inquiry.outcome?_of_lookup answered
  obtain ⟨next, spawned, core⟩ := World.run_inquiry now w i 0 exchange rfl
  rw [outcome, leg.settles] at next spawned
  have kept : (w.run now (i.work 0 exchange)).state.exchanged = w.exchanged ∧
      (w.run now (i.work 0 exchange)).state.provider = w.provider ∧
      hears (w.run now (i.work 0 exchange)).state = hears w := by
    cases i with
    | request =>
      simp only [Inquiry.work, World.run]
      split <;> exact ⟨rfl, rfl, rfl⟩
    | query => exact ⟨rfl, rfl, rfl⟩
  obtain ⟨exchanged, provider, same⟩ := kept
  have kept_answers : (w.run now (i.work 0 exchange)).state.answers = w.answers :=
    congrArg Prod.snd exchanged
  have kept_count : (w.run now (i.work 0 exchange)).state.exchanges = w.exchanges :=
    congrArg Prod.fst exchanged
  refine ⟨next, ?_, exchanged, serves.quiet core ?_ ?_ ?_ same⟩
  · rw [spawned, World.isLost_reply]
    rfl
  · rw [provider]
    exact serves.ledger
  · rw [provider]
  · intro entry mem
    rw [kept_count]
    exact serves.answers entry (kept_answers ▸ mem)

end Legs

/-- A request or a query is taken, and its call is detached. A request brings a callback. -/
theorem Serves.asks (serves : Serves p drawn w) {e : Errand} (asks : Asks p e leaves floor)
    (now : Nat) :
    ∃ i answer, Leg p i answer leaves floor ∧
      (w.run now (.errand e)).next =
        .wait (some (now + p.config.requestTimeout)) (i.work 0 w.exchanges) ∧
      (w.run now (.errand e)).spawned = [(some now, .calling i.call w.exchanges)] ∧
      (w.run now (.errand e)).state.exchanged = (w.exchanges + 1, w.answers) ∧
      Joined p drawn leaves.toNat w (w.run now (.errand e)).state := by
  have counted : ∀ entry ∈ w.answers, entry.1 < w.exchanges + 1 := fun entry mem =>
    Nat.lt_succ_of_lt (serves.answers entry mem)
  cases asks with
  | request =>
    have inquires : (Errand.request handler).inquiry? now w = some _ := rfl
    obtain ⟨next, spawned, exchanged⟩ := World.begin_detaches inquires serves.ready
    rw [serves.config, serves.generation] at next
    have named : (w.nameRequest now).2.client = w.client := rfl
    refine ⟨_, _, .request _ _ _ _, next, spawned, exchanged, ?_⟩
    simp only [World.run, World.begin, Client.admitRequest, Client.readyGeneration, named,
      if_pos serves.ready, Except.map]
    refine ⟨?_, rfl, fun none => absurd none Nat.one_ne_zero, fun _ => ⟨?_, ?_⟩⟩
    · obtain ⟨config, ready, generation, dispatch, own, ledger, held, _⟩ := serves
      refine ⟨config, ready, generation, dispatch, ?_, ledger, held, counted⟩
      intro entry mem
      rcases List.mem_append.mp mem with old | new
      · exact own entry (List.mem_of_mem_filter old)
      · rw [List.mem_singleton.mp new]
    · exact List.append_ne_nil_of_right_ne_nil _ (List.cons_ne_nil _ _)
    · refine Nat.le_trans (Nat.le_of_eq List.length_append) ?_
      exact Nat.succ_le_succ (List.length_filter_le _ _)
  | query k =>
    have inquires : (Errand.query (.getRandomness (p.round k).number)).inquiry? now w = some _ :=
      rfl
    obtain ⟨next, spawned, exchanged⟩ := World.begin_detaches inquires serves.ready
    rw [serves.config, serves.generation] at next
    refine ⟨_, _, .query k, next, spawned, exchanged, ?_⟩
    simp only [World.run, World.begin, Client.readyGeneration, if_pos serves.ready]
    refine ⟨serves.congr ?_ serves.ledger ?_ counted, rfl, fun _ => rfl,
      fun more => absurd rfl more⟩
    · rfl
    · rfl

/-- A publication sends one copy of the next result for each callback. -/
theorem Serves.publishes (serves : Serves p drawn w) (feasible : p.Feasible)
    (more : drawn < p.requests) (now : Nat) :
    (w.run now (.publishing Simulated.draw)).state.exchanged = w.exchanged ∧
    Serves p (drawn + 1) (w.run now (.publishing Simulated.draw)).state ∧
    (w.run now (.publishing Simulated.draw)).state.client.callbacks = w.client.callbacks ∧
    hears (w.run now (.publishing Simulated.draw)).state =
      (List.replicate w.client.callbacks.length (handler.name, p.result drawn) ++
          w.scene.host.heard,
        w.scene.host.invocations + w.client.callbacks.length) := by
  obtain ⟨id, held⟩ := serves.held
  obtain ⟨number, dispatch⟩ := serves.dispatch
  let noted := w.noteAll [.publishing (p.round drawn).number w.provider.audience.length]
  have core : noted.scene.client.core = w.client.core := Client.noteAll_core _ _
  obtain ⟨_, _, _, _, _, registry, callbacks⟩ := Client.core_eq_iff.mp core
  have listen : ∀ entry ∈ noted.scene.client.callbacks, entry.2 = .plain "demo" :=
    fun entry mem => serves.callbacks entry (callbacks ▸ mem)
  have delivered := Scene.deliver_callbacks (registry ▸ dispatch) listen (p.round drawn)
  rw [callbacks] at delivered
  have turned : (w.run now (.publishing Simulated.draw)).state =
      { w with
        provider := w.provider.draw.2.insert (p.round drawn)
        scene := noted.scene.deliver (p.round drawn) } := by
    have drawn_round := serves.ledger.draws
    have audience : (w.provider.draw.2.insert (p.round drawn)).audience = [id] := held
    simp only [World.run, World.publish, drawn_round, Provider.store, Simulated.store,
      Provider.held, audience, List.foldl_cons, List.foldl_nil]
    rfl
  rw [delivered] at turned
  have told : (w.run now (.publishing Simulated.draw)).state.client.core = w.client.core := by
    rw [turned]
    exact core
  rw [turned] at told ⊢
  refine ⟨rfl, ?_, (Client.core_eq_iff.mp told).2.2.2.2.2.2, ?_⟩
  · exact serves.congr told (serves.ledger.publish feasible more) rfl serves.answers
  · rfl

end Demo

end RandomBeacon
