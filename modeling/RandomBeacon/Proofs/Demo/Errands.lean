import RandomBeacon.Proofs.Demo.Agenda
import RandomBeacon.Proofs.Demo.Turns

/-!
The errands of the session, turn by turn. Opening the session, asking for the chain and closing the
session wait once at most (`Brief`); a request or a query has its call beside it until the call has
been answered (`Underway`). Each turn of an errand brings it nearer to its end.
-/

namespace RandomBeacon.Demo

open World (rules)

/-- An errand that waits once at most, with what holds before, during and after the wait. -/
structure Brief (e : Errand) where
  before : World Simulated → Prop
  between : Work Simulated → World Simulated → Prop
  after : Reply → World Simulated → Prop
  stays : ∀ w callbacks, callbacks.Perm w.client.callbacks →
    (before w → before (w.reordered callbacks)) ∧
    (∀ work, between work w → between work (w.reordered callbacks)) ∧
    ∀ reply, after reply w → after reply (w.reordered callbacks)
  begins : ∀ w now, before w →
    (w.run now (.errand e)).spawned = [] ∧ hears (w.run now (.errand e)).state = hears w ∧
    ((∃ work, (w.run now (.errand e)).next = .wait (some now) work ∧
        between work ((w.run now (.errand e)).state.journalAt now)) ∨
      ∃ reply, (w.run now (.errand e)).next = .ended reply ∧
        after reply ((w.run now (.errand e)).state.journalAt now))
  ends : ∀ w now work, between work w →
    (w.run now work).spawned = [] ∧ hears (w.run now work).state = hears w ∧
    ∃ reply, (w.run now work).next = .ended reply ∧
      after reply ((w.run now work).state.journalAt now)

namespace Brief

variable {p : Plan} {e : Errand} (b : Brief e)

/-- How far the errand has come: the tasks that it has and the turns that it may yet take. -/
inductive Stands (t : Timeline) (number : Nat) : List Task → Nat → Prop
  | asked (fits : b.before t.state) : Stands t number [⟨number, some t.now, .errand e⟩] 2
  | waits {work : Work Simulated} (fits : b.between work t.state) :
    Stands t number [⟨number, some t.now, work⟩] 1
  | settled {reply : Reply} (left : t.resultOf? number = some reply)
    (fits : b.after reply t.state) : Stands t number [] 0

variable {b} {t : Timeline} {number turns : Nat} {own : List Task} {task : Task}

theorem Stands.reordered (stands : b.Stands t number own turns)
    {callbacks : List (RequestId × ClientHandler)}
    (order : callbacks.Perm t.state.client.callbacks) :
    b.Stands { t with state := t.state.reordered callbacks } number own turns := by
  obtain ⟨before, between, after⟩ := b.stays t.state callbacks order
  cases stands with
  | asked fits => exact .asked (before fits)
  | waits fits => exact .waits (between _ fits)
  | settled left fits => exact .settled left (after _ fits)

/-- What the errand has left, once it has left something. -/
theorem Stands.ended (stands : b.Stands t number own turns) (scheduled : Scheduled p own [] t)
    {reply : Reply} (left : t.resultOf? number = some reply) :
    own = [] ∧ b.after reply t.state := by
  have gone {due : Option Nat} {work : Work Simulated} (mem : ⟨number, due, work⟩ ∈ own) : False :=
    scheduled.retired.differs left (scheduled.mem_iff.mpr (.inl mem)) rfl
  cases stands with
  | asked => exact (gone List.mem_cons_self).elim
  | waits => exact (gone List.mem_cons_self).elim
  | settled left' fits =>
    obtain rfl := Option.some.inj (left.symm.trans left')
    exact ⟨rfl, fits⟩

/-- A turn brings the errand nearer to its end. -/
theorem Stands.fire (stands : b.Stands t number own turns) (scheduled : Scheduled p own [] t)
    (mem : task ∈ t.tasks) :
    ∃ own' turns', turns' < turns ∧ b.Stands (t.fire rules task) number own' turns' ∧
      Scheduled p own' [] (t.fire rules task) ∧
      hears (t.fire rules task).state = hears t.state := by
  have inside : task ∈ own := by simpa using scheduled.mem_iff.mp mem
  have state : (t.fire rules task).state =
      (t.state.run t.now task.work).state.journalAt t.now := Schedule.Timeline.state_fire _ _ _
  have now : (t.fire rules task).now = t.now := Schedule.Timeline.now_fire _ _ _
  cases stands with
  | asked fits =>
    obtain rfl := List.mem_singleton.mp inside
    obtain ⟨alone, same, goes⟩ := b.begins t.state t.now fits
    rcases goes with ⟨work, next, fits'⟩ | ⟨reply, next, fits'⟩
    · refine ⟨[⟨number, some t.now, work⟩], 1, by omega, ?_,
        scheduled.waits (List.Perm.refl _) next alone, state ▸ same⟩
      rw [← now]
      exact .waits (state ▸ fits')
    · exact ⟨[], 0, by omega, .settled (Schedule.Timeline.resultOf?_fire next) (state ▸ fits'),
        scheduled.ends (List.Perm.refl _) next alone, state ▸ same⟩
  | waits fits =>
    obtain rfl := List.mem_singleton.mp inside
    obtain ⟨alone, same, reply, next, fits'⟩ := b.ends t.state t.now _ fits
    exact ⟨[], 0, by omega, .settled (Schedule.Timeline.resultOf?_fire next) (state ▸ fits'),
      scheduled.ends (List.Perm.refl _) next alone, state ▸ same⟩
  | settled => cases inside

theorem Stands.turns_le (stands : b.Stands t number own turns) : turns ≤ own.length + 4 := by
  cases stands <;> simp

/-- Until the errand is over, its task may take its turn. -/
theorem Stands.goes (stands : b.Stands t number own turns) :
    (∃ reply, t.resultOf? number = some reply) ∨
    (∃ task ∈ own, t.isReady rules task = true) ∧ ∃ task ∈ own, task.id = number := by
  cases stands with
  | asked => exact .inr ⟨⟨_, List.mem_cons_self, isReady_now t _ _⟩, _, List.mem_cons_self, rfl⟩
  | waits => exact .inr ⟨⟨_, List.mem_cons_self, isReady_now t _ _⟩, _, List.mem_cons_self, rfl⟩
  | settled left => exact .inl ⟨_, left⟩

end Brief

/-- The world of a session that is being opened: its subscription has been granted. -/
structure Granted (p : Plan) (w : World Simulated) : Prop where
  config : w.client.config = p.config
  session : w.client.session = { lifecycle := .initializing }
  registry : w.client.registry = {}
  callbacks : w.client.callbacks = []
  ledger : Ledger p 0 w.provider
  held : ∃ id, w.provider.audience = [id]
  answers : w.answers = []
  hears : hears w = ([], 0)

/-- The world of an open session that has asked for nothing yet. -/
structure Rests (p : Plan) (w : World Simulated) : Prop where
  serves : Serves p 0 w
  callbacks : w.client.callbacks = []
  hears : hears w = ([], 0)

theorem Granted.reordered {p : Plan} {w : World Simulated} (granted : Granted p w)
    {callbacks : List (RequestId × ClientHandler)} (order : callbacks.Perm w.client.callbacks) :
    Granted p (w.reordered callbacks) := by
  obtain ⟨config, session, registry, none, ledger, held, answers, heard⟩ := granted
  exact ⟨config, session, registry, List.perm_nil.mp (none ▸ order), ledger, held, answers, heard⟩

theorem Rests.reordered {p : Plan} {w : World Simulated} (rests : Rests p w)
    {callbacks : List (RequestId × ClientHandler)} (order : callbacks.Perm w.client.callbacks) :
    Rests p (w.reordered callbacks) :=
  ⟨rests.serves.reordered order, List.perm_nil.mp (rests.callbacks ▸ order), rests.hears⟩

/-- The opening of the session. -/
def opens (p : Plan) : Brief .openSession where
  before w := w = (begin p.config p.publishDelay p.chance).state
  between work w := Granted p w ∧ work = .operation (.subscribing (.opening 0) 0)
    (Simulated.atOnce (.returned (Simulated.subscriptionName 0)))
  after reply w := Rests p w ∧ reply = .finished (.ok ())
  stays w callbacks order := by
    refine ⟨?_, fun _ fits => ⟨fits.1.reordered order, fits.2⟩,
      fun _ fits => ⟨fits.1.reordered order, fits.2⟩⟩
    rintro rfl
    obtain rfl := List.perm_nil.mp order
    rfl
  begins := by
    rintro _ now rfl
    refine ⟨rfl, rfl, .inl ⟨_, rfl, ?_, rfl⟩⟩
    constructor
    · rfl
    · rfl
    · rfl
    · rfl
    · exact ⟨rfl, rfl, rfl, rfl, nofun⟩
    · exact ⟨_, rfl⟩
    · rfl
    · rfl
  ends := by
    rintro ⟨⟨⟨_, _, session, _, _, registry, callbacks, _, _⟩, _⟩, _, _, _, _, _, answers, _, _⟩
      now _ ⟨⟨config, opening, empty, none, ledger, held, silent, heard⟩, rfl⟩
    obtain rfl : session = { lifecycle := .initializing } := opening
    obtain rfl : registry = {} := empty
    obtain rfl : callbacks = [] := none
    obtain rfl : answers = [] := silent
    refine ⟨rfl, rfl, _, rfl, ⟨?_, rfl, heard⟩, rfl⟩
    exact ⟨config, rfl, rfl, ⟨0, rfl⟩, nofun, ledger, held, nofun⟩

/-- Asking for the chain. -/
def asksChain (p : Plan) : Brief .chain where
  before := Rests p
  between work w := Rests p w ∧ work = .askingChain (Simulated.atOnce (.returned Simulated.chainId))
  after _ := Rests p
  stays _ _ order := ⟨fun fits => fits.reordered order,
    fun _ fits => ⟨fits.1.reordered order, fits.2⟩, fun _ fits => fits.reordered order⟩
  begins := by
    intro w now rests
    refine ⟨rfl, rfl, .inl ⟨_, rfl, ⟨?_, rests.callbacks, rests.hears⟩, rfl⟩⟩
    refine rests.serves.congr ?_ rests.serves.ledger ?_ rests.serves.answers
    · rfl
    · rfl
  ends := by
    rintro w now _ ⟨rests, rfl⟩
    refine ⟨rfl, rfl, _, rfl, ?_, rests.callbacks, rests.hears⟩
    refine rests.serves.congr ?_ rests.serves.ledger ?_ rests.serves.answers
    · rfl
    · rfl

/-- The closing of the session. -/
def closes : Brief .closeSession where
  before _ := True
  between work _ := ∃ id outcome, work = .operation (.closing id) (Simulated.atOnce outcome)
  after _ _ := True
  stays _ _ _ := ⟨id, fun _ => id, fun _ => id⟩
  begins := by
    intro w now _
    simp only [World.run, World.begin, Client.closeSession]
    cases w.client.session.subscription with
    | none => exact ⟨rfl, rfl, .inr ⟨_, rfl, trivial⟩⟩
    | some id => exact ⟨rfl, rfl, .inl ⟨_, rfl, id, _, rfl⟩⟩
  ends := by
    rintro w now _ ⟨id, outcome, rfl⟩
    cases outcome with
    | returned => exact ⟨rfl, rfl, _, rfl, trivial⟩
    | failed => exact ⟨rfl, rfl, _, rfl, trivial⟩
    | panicked => exact ⟨rfl, rfl, _, rfl, trivial⟩

/-- What such a request or query is answered. -/
inductive Reports (p : Plan) : (leaves : Bool) → (floor : Nat) → Reply → Prop
  | requested (id : RequestId) : Reports p true 0 (.requested (.ok id))
  | found (k : Nat) : Reports p false (k + 1) (.found (.ok (some (p.result k))))

variable {p : Plan} {floor drawn : Nat} {leaves : Bool}

theorem Leg.reports {i : Inquiry} {answer : i.call.Reply} (leg : Leg p i answer leaves floor) :
    Reports p leaves floor (i.reply (.ok answer)) := by
  cases leg with
  | request => exact .requested _
  | query k => exact .found k

/-- How far a request or a query has come: the tasks that it has, the turns that they may yet take,
the publications that it has still to leave and the callbacks that it has still to bring. -/
inductive Underway (p : Plan) (t : Timeline) (number : Nat) (leaves : Bool) (floor : Nat) :
    (own : List Task) → (turns owes admits : Nat) → Prop
  | asked {e : Errand} (asks : Asks p e leaves floor) :
    Underway p t number leaves floor [⟨number, some t.now, .errand e⟩] 4 leaves.toNat leaves.toNat
  | called {i : Inquiry} {answer : i.call.Reply} (leg : Leg p i answer leaves floor)
    {id due exchange : Nat} (later : t.now < due) (made : exchange < t.state.exchanges)
    (silent : t.state.answers.lookup exchange = none) :
    Underway p t number leaves floor
      [⟨number, some due, i.work 0 exchange⟩, ⟨id, some t.now, .calling i.call exchange⟩]
      3 leaves.toNat 0
  | flies {i : Inquiry} {answer : i.call.Reply} (leg : Leg p i answer leaves floor)
    {id due exchange : Nat} (later : t.now < due) (made : exchange < t.state.exchanges)
    (silent : t.state.answers.lookup exchange = none)
    {pending : Pending Simulated (Outcome i.call.Reply)}
    (ends : Ends p answer leaves floor pending) :
    Underway p t number leaves floor
      [⟨id, some t.now, .inFlight i.call exchange pending⟩, ⟨number, some due, i.work 0 exchange⟩]
      2 leaves.toNat 0
  | answered {i : Inquiry} {answer : i.call.Reply} (leg : Leg p i answer leaves floor)
    {due exchange : Nat}
    (heard : t.state.answers.lookup exchange = some (i.call.answer (.returned answer))) :
    Underway p t number leaves floor [⟨number, some due, i.work 0 exchange⟩] 1 0 0
  | settled {reply : Reply} (left : t.resultOf? number = some reply)
    (reports : Reports p leaves floor reply) : Underway p t number leaves floor [] 0 0 0

namespace Underway

variable {t u : Timeline} {number turns owes admits : Nat} {own : List Task} {numbers : List Nat}
  {task : Task}

theorem turns_le (underway : Underway p t number leaves floor own turns owes admits) :
    turns + owes ≤ own.length + 4 := by
  have one := leaves.toNat_le
  cases underway <;> simp only [List.length_cons, List.length_nil] <;> omega

/-- Other turns at the same instant do not matter, as long as they leave the calls alone. -/
theorem congr (underway : Underway p t number leaves floor own turns owes admits)
    (now : u.now = t.now) (exchanged : u.state.exchanged = t.state.exchanged)
    (stays : ∀ reply, t.resultOf? number = some reply → u.resultOf? number = some reply) :
    Underway p u number leaves floor own turns owes admits := by
  obtain ⟨exchanges, answers⟩ := Prod.mk.inj exchanged
  cases underway with
  | asked asks => exact now ▸ .asked asks
  | called leg later made silent =>
    exact now ▸ .called leg (now ▸ later) (exchanges ▸ made) (answers ▸ silent)
  | flies leg later made silent ends =>
    exact now ▸ .flies leg (now ▸ later) (exchanges ▸ made) (answers ▸ silent) ends
  | answered leg heard => exact .answered leg (answers ▸ heard)
  | settled left reports => exact .settled (stays _ left) reports

/-- What the errand has left, once it has left something. -/
theorem ended (underway : Underway p t number leaves floor own turns owes admits)
    (scheduled : Scheduled p own numbers t) {reply : Reply}
    (left : t.resultOf? number = some reply) :
    own = [] ∧ owes = 0 ∧ admits = 0 ∧ Reports p leaves floor reply := by
  have gone {due : Option Nat} {work : Work Simulated} (mem : ⟨number, due, work⟩ ∈ own) : False :=
    scheduled.retired.differs left (scheduled.mem_iff.mpr (.inl mem)) rfl
  cases underway with
  | asked => exact (gone List.mem_cons_self).elim
  | called => exact (gone List.mem_cons_self).elim
  | flies => exact (gone (List.mem_cons_of_mem _ List.mem_cons_self)).elim
  | answered => exact (gone List.mem_cons_self).elim
  | settled left' reports =>
    obtain rfl := Option.some.inj (left.symm.trans left')
    exact ⟨rfl, rfl, rfl, reports⟩

/-- Until the errand is over, one of its tasks may take its turn. -/
theorem goes (underway : Underway p t number leaves floor own turns owes admits) :
    (∃ reply, t.resultOf? number = some reply) ∨
    (∃ task ∈ own, t.isReady rules task = true) ∧ ∃ task ∈ own, task.id = number := by
  cases underway with
  | asked => exact .inr ⟨⟨_, List.mem_cons_self, isReady_now t _ _⟩, _, List.mem_cons_self, rfl⟩
  | called =>
    exact .inr ⟨⟨_, List.mem_cons_of_mem _ List.mem_cons_self, isReady_now t _ _⟩,
      _, List.mem_cons_self, rfl⟩
  | flies =>
    exact .inr ⟨⟨_, List.mem_cons_self, isReady_now t _ _⟩,
      _, List.mem_cons_of_mem _ List.mem_cons_self, rfl⟩
  | answered leg heard =>
    refine .inr ⟨⟨_, List.mem_cons_self, ?_⟩, _, List.mem_cons_self, rfl⟩
    simp [Schedule.Timeline.isReady, World.rules, Inquiry.work_woken, heard]
  | settled left => exact .inl ⟨_, left⟩

section Turns

variable (serves : Serves p drawn t.state)

theorem joined_fire {admits : Nat}
    (joined : Joined p drawn admits t.state (t.state.run t.now task.work).state) :
    Joined p drawn admits t.state (t.fire rules task).state := by
  rw [Schedule.Timeline.state_fire]
  exact joined.journalAt t.now

variable (t task) in
theorem exchanged_fire :
    (t.fire rules task).state.exchanged = (t.state.run t.now task.work).state.exchanged := by
  rw [Schedule.Timeline.state_fire]
  rfl

include serves

/-- The errand's first turn detaches its call. -/
theorem asked_fire {e : Errand} (asks : Asks p e leaves floor)
    (patient : 0 < p.config.requestTimeout) (is : task = ⟨number, some t.now, .errand e⟩)
    (scheduled : Scheduled p [task] numbers t) :
    ∃ own, Underway p (t.fire rules task) number leaves floor own 3 leaves.toNat 0 ∧
      Scheduled p own numbers (t.fire rules task) ∧
      Joined p drawn leaves.toNat t.state (t.fire rules task).state := by
  have work : task.work = .errand e := is ▸ rfl
  obtain ⟨i, answer, leg, next, spawned, exchanged, joined⟩ := serves.asks asks t.now
  rw [← work] at next spawned exchanged joined
  have now := Schedule.Timeline.now_fire rules t task
  obtain ⟨exchanges, answers⟩ := Prod.mk.inj ((exchanged_fire t _).trans exchanged)
  refine ⟨[⟨number, some (t.now + p.config.requestTimeout), i.work 0 t.state.exchanges⟩,
    ⟨t.issued, some t.now, .calling i.call t.state.exchanges⟩], ?_, ?_, joined_fire joined⟩
  · rw [← now]
    refine .called leg ?_ ?_ ?_
    · omega
    · rw [exchanges]
      exact Nat.lt_succ_self _
    · rw [answers]
      exact serves.unanswered
  · have left := scheduled.fire (List.Perm.refl _)
      [⟨number, some (t.now + p.config.requestTimeout), i.work 0 t.state.exchanges⟩,
        ⟨t.issued, some t.now, .calling i.call t.state.exchanges⟩] [] (List.Perm.of_eq ?_)
    · rwa [List.append_nil, List.append_nil] at left
    · rw [next, spawned, is]
      rfl

section Legs

variable {i : Inquiry} {answer : i.call.Reply} (leg : Leg p i answer leaves floor)
  {due exchange : Nat}
include leg

/-- The call begins. -/
theorem called_fire (later : t.now < due) (made : exchange < t.state.exchanges)
    (silent : t.state.answers.lookup exchange = none)
    (work : task.work = .calling i.call exchange)
    (scheduled : Scheduled p [⟨number, some due, i.work 0 exchange⟩, task] numbers t) :
    ∃ own, Underway p (t.fire rules task) number leaves floor own 2 leaves.toNat 0 ∧
      Scheduled p own numbers (t.fire rules task) ∧
      Joined p drawn 0 t.state (t.fire rules task).state := by
  obtain ⟨pending, next, ends, alone, exchanged, quiet⟩ := leg.calls serves t.now exchange
  rw [← work] at next alone exchanged quiet
  have now := Schedule.Timeline.now_fire rules t task
  obtain ⟨exchanges, answers⟩ := Prod.mk.inj ((exchanged_fire t _).trans exchanged)
  refine ⟨[⟨task.id, some t.now, .inFlight i.call exchange pending⟩,
    ⟨number, some due, i.work 0 exchange⟩], ?_, scheduled.waits (List.Perm.swap _ _ _) next alone,
    joined_fire quiet.joined⟩
  rw [← now] at later ⊢
  exact .flies leg later (exchanges ▸ made) (answers ▸ silent) ends

/-- The call ends, and has been answered. -/
theorem flies_fire (past : floor ≤ drawn) (made : exchange < t.state.exchanges)
    (early : leaves = true → t.now = 0)
    {pending : Pending Simulated (Outcome i.call.Reply)}
    (ends : Ends p answer leaves floor pending)
    (work : task.work = .inFlight i.call exchange pending)
    (scheduled : Scheduled p [task, ⟨number, some due, i.work 0 exchange⟩] numbers t) :
    ∃ own new, new.length = leaves.toNat ∧
      Underway p (t.fire rules task) number leaves floor own 1 0 0 ∧
      Scheduled p own (numbers ++ new) (t.fire rules task) ∧
      Joined p drawn 0 t.state (t.fire rules task).state := by
  obtain ⟨next, spawned, exchanged, quiet⟩ := ends.answers leg serves past made t.now
  rw [← work] at next spawned exchanged quiet
  obtain ⟨_, answers⟩ := Prod.mk.inj ((exchanged_fire t _).trans exchanged)
  refine ⟨[⟨number, some due, i.work 0 exchange⟩], if leaves then [t.issued] else [], ?_, ?_, ?_,
    joined_fire quiet.joined⟩
  · cases leaves <;> rfl
  · refine .answered leg ?_
    rw [answers]
    exact List.lookup_cons_self
  · refine scheduled.fire (List.Perm.refl _) [] _ (List.Perm.of_eq ?_)
    rw [next, spawned]
    cases leaves with
    | false => rfl
    | true =>
      rw [early rfl, Nat.zero_add]
      rfl

/-- The errand is over. -/
theorem answered_fire
    (heard : t.state.answers.lookup exchange = some (i.call.answer (.returned answer)))
    (is : task = ⟨number, some due, i.work 0 exchange⟩)
    (scheduled : Scheduled p [task] numbers t) :
    Underway p (t.fire rules task) number leaves floor [] 0 0 0 ∧
      Scheduled p [] numbers (t.fire rules task) ∧
      Joined p drawn 0 t.state (t.fire rules task).state := by
  subst is
  obtain ⟨next, alone, _, quiet⟩ := leg.concludes serves t.now heard
  exact ⟨.settled (Schedule.Timeline.resultOf?_fire next) leg.reports,
    scheduled.ends (List.Perm.refl _) next alone, joined_fire quiet.joined⟩

end Legs

end Turns

/-- A turn of its own brings the errand nearer to its end. -/
theorem fire (underway : Underway p t number leaves floor own turns owes admits)
    (patient : 0 < p.config.requestTimeout) (scheduled : Scheduled p own numbers t)
    (serves : Serves p drawn t.state) (past : floor ≤ drawn)
    (early : leaves = true → t.now = 0) (mem : task ∈ own)
    (ready : t.isReady rules task = true) :
    ∃ own' turns' owes' new, turns' < turns ∧ new.length + owes' = owes ∧
      Underway p (t.fire rules task) number leaves floor own' turns' owes' 0 ∧
      Scheduled p own' (numbers ++ new) (t.fire rules task) ∧
      Joined p drawn admits t.state (t.fire rules task).state := by
  -- who waits has not been answered, and the deadline has not come
  have asleep {i : Inquiry} {due exchange : Nat} (later : t.now < due)
      (silent : t.state.answers.lookup exchange = none) :
      ¬t.isReady rules ⟨number, some due, i.work 0 exchange⟩ = true := by
    simp [Schedule.Timeline.isReady, World.rules, Inquiry.work_woken, silent, later]
  cases underway with
  | asked asks =>
    obtain rfl := List.mem_singleton.mp mem
    obtain ⟨own', goes, scheduled', joined⟩ := asked_fire serves asks patient rfl scheduled
    rw [← List.append_nil numbers] at scheduled'
    exact ⟨own', 3, _, [], by omega, Nat.zero_add _, goes, scheduled', joined⟩
  | called leg later made silent =>
    rcases List.mem_pair.mp mem with rfl | is
    · exact absurd ready (asleep later silent)
    · obtain ⟨own', goes, scheduled', joined⟩ :=
        called_fire serves leg later made silent (is ▸ rfl) (is ▸ scheduled)
      rw [← List.append_nil numbers] at scheduled'
      exact ⟨own', 2, _, [], by omega, Nat.zero_add _, goes, scheduled', joined⟩
  | flies leg later made silent ends =>
    rcases List.mem_pair.mp mem with is | rfl
    · obtain ⟨own', new, left, goes, scheduled', joined⟩ :=
        flies_fire serves leg past made early ends (is ▸ rfl) (is ▸ scheduled)
      exact ⟨own', 1, 0, new, by omega, left, goes, scheduled', joined⟩
    · exact absurd ready (asleep later silent)
  | answered leg heard =>
    obtain rfl := List.mem_singleton.mp mem
    obtain ⟨goes, scheduled', joined⟩ := answered_fire serves leg heard rfl scheduled
    rw [← List.append_nil numbers] at scheduled'
    exact ⟨[], 0, 0, [], by omega, rfl, goes, scheduled', joined⟩
  | settled => cases mem

end Underway

end RandomBeacon.Demo
