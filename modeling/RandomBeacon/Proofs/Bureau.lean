import Mathlib.Logic.Function.Basic
import RandomBeacon.Proofs.Names
import RandomBeacon.Proofs.Stamps

/-!
Clients that draw the stamps of their requests from one mint. The drawers race for stamps while the
clients go their ways, and a request goes on under the name that its drawer's stamp makes. Stamps
are told apart by their order and names by their stamps (`Bureau.drawer_eq`); whoever waits has a
name whose stamp is spent (`Bureau.Keeps`), so a request that comes in leaves the callbacks of all
others where they are, until stamps start again after the last word. A client on its own names its
requests as it would at a mint where nobody disturbs it (`World.nameRequest_alone`,
`World.Timeline.fire_request`).
-/

namespace RandomBeacon

namespace World

variable {π : Type} {w : World π} {now : Nat} {id : RequestId} {handler : ClientHandler}

/-- Where the mint holds the last stamp of a client and the clocks agree, the client gives the name
that an undisturbed drawer gets a stamp for, and the mint holds its last stamp again. -/
theorem nameRequest_alone {m : Mint} {reading : UInt64} (last : m.last.toNat = w.stamp)
    (clock : reading.toNat = 1000 * now) (more : m.last ≠ lastWord) (overflow : Overflow) :
    ∃ stamp, (m.alone overflow reading).held? m.drawers.length = some stamp ∧
      (w.nameRequest now).1 = .ofStamp stamp.toNat (w.suffixes w.named) ∧
      (m.alone overflow reading).last.toNat = (w.nameRequest now).2.stamp := by
  obtain ⟨stamp, holds, newest, is⟩ := Mint.alone_draws more overflow reading
  rw [last, clock] at is
  refine ⟨stamp, holds, ?_, ?_⟩
  · rw [is]
    rfl
  · rw [newest, is]
    rfl

/-- Goes on with a request under a name that it has been given. -/
def requestAs (now : Nat) (id : RequestId) (handler : ClientHandler) (w : World π) : Turn π :=
  match w.client.admitRequest id handler with
  | .error e => ⟨w, .ended (.requested (.error e)), []⟩
  | .ok (generation, client) =>
    let op := .requestRandomness id.text (UInt64.ofNat now)
    (w.withClient client).detach now (.submit op) (.submitting handler.name id op generation)

theorem requestAs_ready (ready : w.client.session.lifecycle = .ready) :
    w.requestAs now id handler =
      (w.withClient (w.client.insertCallback id handler).recordPending).detach now
        (.submit (.requestRandomness id.text (UInt64.ofNat now)))
        (.submitting handler.name id (.requestRandomness id.text (UInt64.ofNat now))
          w.client.session.generation) := by
  simp only [requestAs, Client.admitRequest, Client.readyGeneration, if_pos ready, Except.map]

theorem requestAs_idle (idle : w.client.session.lifecycle ≠ .ready) :
    w.requestAs now id handler =
      ⟨w, .ended (.requested (.error (.notReady w.client.session.lifecycle))), []⟩ := by
  simp only [requestAs, Client.admitRequest, Client.readyGeneration, if_neg idle, Except.map]

/-- A request under a new name brings its callback in beside the others, if the client is ready. -/
theorem requestAs_callbacks (new : id ∉ w.client.callbacks.map (·.1)) :
    (w.requestAs now id handler).state.client.callbacks =
      w.client.callbacks ++
        if w.client.session.lifecycle = .ready then [(id, handler)] else [] := by
  by_cases ready : w.client.session.lifecycle = .ready
  · rw [requestAs_ready ready, if_pos ready]
    have others : w.client.callbacks.filter (·.1 ≠ id) = w.client.callbacks := by
      apply List.filter_eq_self.mpr
      intro callback mem
      have differs : callback.1 ≠ id := fun same => new (List.mem_map.mpr ⟨callback, mem, same⟩)
      simpa using differs
    exact congrArg (· ++ [(id, handler)]) others
  · rw [requestAs_idle ready, if_neg ready, List.append_nil]

/-- Nobody waits after a request who has not waited before, but for the request itself. -/
theorem mem_requestAs_callbacks {other : RequestId}
    (mem : other ∈ (w.requestAs now id handler).state.client.callbacks.map (·.1)) :
    other ∈ w.client.callbacks.map (·.1) ∨ other = id := by
  by_cases ready : w.client.session.lifecycle = .ready
  · rw [requestAs_ready ready] at mem
    change other ∈ (w.client.callbacks.filter (·.1 ≠ id) ++ [(id, handler)]).map (·.1) at mem
    rw [List.map_append] at mem
    rcases List.mem_append.mp mem with old | own
    · exact .inl ((List.filter_sublist.map _).subset old)
    · exact .inr (List.mem_singleton.mp own)
  · rw [requestAs_idle ready] at mem
    exact .inl mem

theorem requestAs_wired (wired : w.scene.Wired) :
    (w.requestAs now id handler).state.scene.Wired := by
  by_cases ready : w.client.session.lifecycle = .ready
  · rw [requestAs_ready ready]
    exact wired.admitted id handler
  · rw [requestAs_idle ready]
    exact wired

theorem requestAs_standing :
    (w.requestAs now id handler).state.client.standing = w.client.standing := by
  by_cases ready : w.client.session.lifecycle = .ready
  · rw [requestAs_ready ready]
    rfl
  · rw [requestAs_idle ready]

/-- The rules for the turn of a request that has been given its name. -/
def requestRules (id : RequestId) (handler : ClientHandler) :
    Schedule.Rules (World π) (Work π) Reply where
  woken := woken
  resume now _ w :=
    let turn := w.requestAs now id handler
    { turn with state := turn.state.journalAt now }

variable [Provider π]

theorem begin_request (now : Nat) (w : World π) (handler : ClientHandler) :
    w.begin now (.request handler) =
      (w.nameRequest now).2.requestAs now (w.nameRequest now).1 handler := rfl

/-- What a request leaves behind waits for no provider yet and is no operation of the session. -/
theorem requestAs_works :
    ∀ work ∈ (w.requestAs now id handler).works, work.stage? = none ∧ work.Issued := by
  intro work mem
  by_cases ready : w.client.session.lifecycle = .ready
  · rw [requestAs_ready ready] at mem
    rcases List.mem_cons.mp mem with rfl | call
    · exact ⟨rfl, trivial⟩
    · rw [List.mem_singleton.mp call]
      exact ⟨rfl, trivial⟩
  · rw [requestAs_idle ready] at mem
    cases mem

namespace Timeline

variable {t : Timeline π} {task : Schedule.Task (Work π)}

/-- The turn of a request names it and goes on under that name. -/
theorem fire_request (is : task.work = .errand (.request handler)) (t : Timeline π) :
    t.fire rules task =
      ({ t with state := (t.state.nameRequest t.now).2 } : Timeline π).fire
        (requestRules (t.state.nameRequest t.now).1 handler) task := by
  have resumed : rules.resume t.now task t.state =
      (requestRules (t.state.nameRequest t.now).1 handler).resume t.now task
        (t.state.nameRequest t.now).2 := by
    simp only [rules, requestRules, is, run, begin_request]
  rw [Schedule.Timeline.fire_eq, Schedule.Timeline.fire_eq, resumed]

omit [Provider π] in
theorem callbacks_fire_requestRules (t : Timeline π) (task : Schedule.Task (Work π)) :
    (client (t.fire (requestRules id handler) task)).callbacks =
      (t.state.requestAs t.now id handler).state.client.callbacks := by
  rw [client, Schedule.Timeline.state_fire]
  rfl

omit [Provider π] in
theorem wired_fire_requestRules (wired : t.state.scene.Wired) :
    (Schedule.Timeline.state (t.fire (requestRules id handler) task)).scene.Wired := by
  rw [Schedule.Timeline.state_fire]
  have requested : (t.state.requestAs t.now id handler).state.scene.Wired := requestAs_wired wired
  exact requested.congr (journalAt_core t.now _) rfl

theorem sound_fire_requestRules (sound : Sound t) (mem : task ∈ t.tasks)
    (is : task.work = .errand (.request handler)) :
    Sound (t.fire (requestRules id handler) task) := by
  obtain ⟨rest, before, after⟩ :=
    Schedule.Timeline.works_fire (requestRules id handler) sound.numbered mem
  obtain ⟨numbered, issued, aligned⟩ := sound
  refine ⟨Schedule.Timeline.numbered_fire numbered task, ?_, ?_⟩
  · intro work inside
    rcases List.mem_append.mp (after.mem_iff.mp inside) with new | old
    · exact (requestAs_works work new).2
    · exact issued work (before.mem_iff.mpr (List.mem_cons_of_mem _ old))
  · -- neither the request nor what it leaves behind is an operation of the session
    have old : t.stages.Perm (stagesOf rest) := by
      have split := stagesOf_perm before
      rwa [is] at split
    have none : stagesOf ((requestRules id handler).resume t.now task t.state).works = [] :=
      List.filterMap_eq_nil_iff.mpr fun work new => (requestAs_works work new).1
    have new : (stages (t.fire (requestRules id handler) task)).Perm (stagesOf rest) := by
      have split := stagesOf_perm after
      rwa [stagesOf_append, none] at split
    have standing : (client (t.fire (requestRules id handler) task)).standing =
        t.client.standing := by
      rw [client, Schedule.Timeline.state_fire]
      exact requestAs_standing
    exact ((aligned.congr standing).perm old).perm new.symm

end Timeline

end World

/-- Clients of one program, and the mint from which they draw the stamps of their requests. -/
structure Bureau (π : Type) where
  clients : Nat → World.Timeline π
  /-- The random tails of names, one for each drawer. -/
  suffixes : Nat → Suffix
  mint : Mint := {}
  /-- The drawers whose stamps have gone into requests. -/
  spent : List Nat := []

/-- A request that is about to go on. -/
structure Asking (π : Type) where
  client : Nat
  task : Schedule.Task (Work π)
  handler : ClientHandler
  /-- Who has drawn its stamp. -/
  drawer : Nat
  stamp : UInt64

namespace Bureau

variable {π : Type}

/-- The clients have done nothing yet, and nobody has drawn a stamp. -/
def fresh (configs : Nat → Config) (factors : Nat → Nat → Binary64) (providers : Nat → π)
    (suffixes : Nat → Suffix) : Bureau π where
  clients k := .fresh (configs k) (factors k) (providers k) suffixes
  suffixes := suffixes

/-- The name that a drawer's stamp makes. -/
def name (b : Bureau π) (drawer : Nat) (stamp : UInt64) : RequestId :=
  .ofStamp stamp.toNat (b.suffixes drawer)

/-- Puts a client into another state. -/
def put (k : Nat) (t : World.Timeline π) (b : Bureau π) : Bureau π :=
  { b with clients := Function.update b.clients k t }

/-- The client of a request after the turn of that request. -/
def served (b : Bureau π) (a : Asking π) : World.Timeline π :=
  (b.clients a.client).fire (World.requestRules (b.name a.drawer a.stamp) a.handler) a.task

/-- Lets a request go on. Its drawer has spent the stamp. -/
def serve (b : Bureau π) (a : Asking π) : Bureau π :=
  { b.put a.client (b.served a) with spent := a.drawer :: b.spent }

theorem clients_serve_self (b : Bureau π) (a : Asking π) :
    (b.serve a).clients a.client = b.served a :=
  Function.update_self ..

theorem clients_serve_other (b : Bureau π) (a : Asking π) {k : Nat} (other : k ≠ a.client) :
    (b.serve a).clients k = b.clients k :=
  Function.update_of_ne other ..

/-- A move at the mint. -/
def draw (overflow : Overflow) (b : Bureau π) (move : Mint.Move) : Bureau π :=
  { b with mint := b.mint.move overflow move }

variable [Provider π]

/-- An action of a client. -/
def act (b : Bureau π) (k : Nat) (a : Action π) : Bureau π := b.put k ((b.clients k).act a)

/-- Whether a request may go on: its task may take its turn, and a drawer holds a stamp for it that
no other request has got. -/
structure Asks (e : Surroundings π) (b : Bureau π) (a : Asking π) : Prop where
  mem : a.task ∈ (b.clients a.client).tasks
  work : a.task.work = .errand (.request a.handler)
  ready : (b.clients a.client).isReady World.rules a.task = true
  permitted : e.permits (b.clients a.client).state a.task.work
  holds : b.mint.held? a.drawer = some a.stamp
  unspent : a.drawer ∉ b.spent

/-- What happens next, with the moves that it is at the mint: such a move, an action of a client
other than the turn of a request, or the turn of a request. -/
inductive Step (overflow : Overflow) (e : Surroundings π) :
    List Mint.Move → Bureau π → Bureau π → Prop
  | draw {b : Bureau π} (move : Mint.Move) : Step overflow e [move] b (b.draw overflow move)
  | act {b : Bureau π} (k : Nat) (a : Action π) (allowed : (b.clients k).Allows e a)
      (plain : (b.clients k).asked? a = none) : Step overflow e [] b (b.act k a)
  | serve {b : Bureau π} (a : Asking π) (asks : b.Asks e a) : Step overflow e [] b (b.serve a)

/-- A run, with all moves at the mint in their order. -/
inductive Runs (overflow : Overflow) (e : Surroundings π) (start : Bureau π) :
    List Mint.Move → Bureau π → Prop
  | start : Runs overflow e start [] start
  | next {moves new : List Mint.Move} {b c : Bureau π} : Runs overflow e start moves b →
      Step overflow e new b c → Runs overflow e start (moves ++ new) c

variable {overflow : Overflow} {e : Surroundings π} {b c start : Bureau π} {a : Asking π}
  {moves new : List Mint.Move}

section Soundness

/-- A name whose stamp is spent. -/
def Given (b : Bureau π) (id : RequestId) : Prop :=
  ∃ i ∈ b.spent, ∃ stamp, b.mint.held? i = some stamp ∧ id = b.name i stamp

/-- What holds of every client: its state is sound, and whoever waits has a name whose stamp is
spent. -/
structure Keeps (b : Bureau π) (t : World.Timeline π) : Prop where
  sound : t.Sound
  wired : t.state.scene.Wired
  given : ∀ id ∈ t.client.callbacks.map (·.1), b.Given id

theorem Keeps.mono {t : World.Timeline π} (keeps : b.Keeps t)
    (lasts : ∀ id, b.Given id → c.Given id) : c.Keeps t :=
  ⟨keeps.sound, keeps.wired, fun id mem => lasts id (keeps.given id mem)⟩

theorem Keeps.act {t : World.Timeline π} (keeps : b.Keeps t) {a : Action π}
    (allowed : t.Allows e a) (plain : t.asked? a = none) : b.Keeps (t.act a) := by
  obtain ⟨sound, wired, given⟩ := keeps
  have fewer := World.Timeline.callbacks_act allowed sound wired plain
  refine ⟨(World.Timeline.step_act allowed).sound sound,
    (World.Timeline.act_amends allowed sound wired).wired, ?_⟩
  exact fun id mem => given id (List.map_subset _ fewer mem)

theorem Keeps.serve (keeps : b.Keeps (b.clients a.client)) (asks : b.Asks e a) :
    (b.serve a).Keeps (b.served a) := by
  obtain ⟨sound, wired, given⟩ := keeps
  refine ⟨World.Timeline.sound_fire_requestRules sound asks.mem asks.work,
    World.Timeline.wired_fire_requestRules wired, ?_⟩
  intro id mem
  rw [served, World.Timeline.callbacks_fire_requestRules] at mem
  rcases World.mem_requestAs_callbacks mem with old | rfl
  · obtain ⟨i, spent, stamp, holds, is⟩ := given id old
    exact ⟨i, List.mem_cons_of_mem _ spent, stamp, holds, is⟩
  · exact ⟨a.drawer, List.mem_cons_self, a.stamp, asks.holds, rfl⟩

/-- What holds of a bureau between two steps. -/
structure Sound (overflow : Overflow) (moves : List Mint.Move) (b : Bureau π) : Prop where
  drawn : b.mint = .after overflow moves
  keeps : ∀ k, b.Keeps (b.clients k)

theorem Step.sound (step : Step overflow e new b c) (sound : Sound overflow moves b) :
    Sound overflow (moves ++ new) c := by
  obtain ⟨drawn, keeps⟩ := sound
  -- one client changes, the others stay as they are
  have one {d : Bureau π} {k : Nat} {t : World.Timeline π} (lasts : ∀ id, b.Given id → d.Given id)
      (own : d.Keeps t) : ∀ j, d.Keeps ((b.put k t).clients j) :=
    (Function.forall_update_iff b.clients fun _ => d.Keeps).mpr
      ⟨own, fun j _ => (keeps j).mono lasts⟩
  cases step with
  | draw move =>
    refine ⟨?_, fun k => (keeps k).mono ?_⟩
    · rw [Bureau.draw, Mint.after_concat, drawn]
    · rintro id ⟨i, spent, stamp, holds, is⟩
      exact ⟨i, spent, stamp, Mint.held?_move holds, is⟩
  | act k action allowed plain =>
    rw [List.append_nil]
    exact ⟨drawn, one (fun _ given => given)
      (((keeps k).act allowed plain).mono fun _ given => given)⟩
  | serve a asks =>
    rw [List.append_nil]
    refine ⟨drawn, one ?_ ((keeps a.client).serve asks)⟩
    rintro id ⟨i, spent, stamp, holds, is⟩
    exact ⟨i, List.mem_cons_of_mem _ spent, stamp, holds, is⟩

theorem Runs.draws (run : Runs overflow e start moves b) (more : List Mint.Move) :
    Runs overflow e start (moves ++ more)
      { b with mint := more.foldl (Mint.move overflow) b.mint } := by
  induction more generalizing moves b with
  | nil =>
    rw [List.append_nil]
    exact run
  | cons move rest ih =>
    rw [List.append_cons]
    exact ih (run.next (.draw move))

theorem Runs.sound (run : Runs overflow e start moves b) (sound : Sound overflow [] start) :
    Sound overflow moves b := by
  induction run with
  | start => exact sound
  | next _ step ih => exact step.sound ih

theorem sound_fresh (overflow : Overflow) (configs : Nat → Config)
    (factors : Nat → Nat → Binary64) (providers : Nat → π) (suffixes : Nat → Suffix) :
    Sound overflow [] (fresh configs factors providers suffixes) := by
  refine ⟨rfl, fun k => ⟨?_, ?_, ?_⟩⟩
  · exact World.Timeline.sound_fresh ..
  · exact World.Timeline.wired_fresh ..
  · rintro id ⟨⟩

end Soundness

section Names

/-- In a bureau the names are told apart, and no callback gives way to that of another request. -/
structure Unrepeated (e : Surroundings π) (b : Bureau π) : Prop where
  /-- What a drawer gets is what it has put into the cell. -/
  drawn : ∀ i stamp, b.mint.held? i = some stamp ↔ (i, stamp) ∈ b.mint.drawn
  /-- Each exchange has put a greater stamp there than those before it. -/
  rising : b.mint.stamps.Pairwise (· > ·)
  /-- No two drawers get the same stamp. -/
  stamps : ∀ i j stamp, b.mint.held? i = some stamp → b.mint.held? j = some stamp → i = j
  /-- No two of them make the same name, whatever the random tails. -/
  names : ∀ i j s t, b.mint.held? i = some s → b.mint.held? j = some t →
    (b.name i s).text = (b.name j t).text → i = j
  /-- A request that goes on brings its callback in if its client is ready, and all other callbacks
  stay where they are. -/
  callbacks : ∀ a, b.Asks e a → ∀ k, ((b.serve a).clients k).client.callbacks =
    (b.clients k).client.callbacks ++
      if k = a.client ∧ (b.clients k).client.session.lifecycle = .ready then
        [(b.name a.drawer a.stamp, a.handler)]
      else []

omit [Provider π] in
/-- Where no two drawers have the same stamp, no two of their names are the same. -/
theorem drawer_eq (unshared : ∀ i j stamp, b.mint.held? i = some stamp →
      b.mint.held? j = some stamp → i = j) {i j : Nat} {s t : UInt64}
    (mine : b.mint.held? i = some s) (yours : b.mint.held? j = some t)
    (same : (b.name i s).text = (b.name j t).text) : i = j := by
  obtain rfl : s = t := UInt64.toNat_inj.mp (RequestId.stamp_eq same)
  exact unshared i j s mine yours

/-- As long as no exchange has gone on from zero, names are told apart. -/
theorem Sound.unrepeated (sound : Sound overflow moves b) (straight : b.mint.Straight) :
    Unrepeated e b := by
  obtain ⟨drawn, keeps⟩ := sound
  rw [drawn] at straight
  have unshared : ∀ i j stamp, b.mint.held? i = some stamp → b.mint.held? j = some stamp →
      i = j := by
    rw [drawn]
    exact fun i j stamp => straight.unshared
  constructor
  case drawn =>
    rw [drawn]
    exact Mint.held?_after overflow moves
  case rising =>
    rw [drawn]
    exact straight.rising
  case stamps => exact unshared
  case names => exact fun i j s t => drawer_eq unshared
  case callbacks =>
    intro a asks k
    by_cases own : k = a.client
    · subst own
      have new : b.name a.drawer a.stamp ∉
          (b.clients a.client).client.callbacks.map (·.1) := by
        intro mem
        obtain ⟨i, spent, stamp, holds, is⟩ := (keeps a.client).given _ mem
        have same := drawer_eq unshared asks.holds holds (congrArg RequestId.text is)
        exact asks.unspent (same ▸ spent)
      rw [clients_serve_self, served, World.Timeline.callbacks_fire_requestRules]
      simp only [true_and]
      exact World.requestAs_callbacks new
    · rw [clients_serve_other b a own, if_neg fun is => own is.1, List.append_nil]

/-- However the drawers race and whatever the random tails: where sums are checked, or as long as
there is room below the last word, stamps rise from one exchange to the next, no two names are the
same, and no request takes the place of another's callback. In any run this is so exactly until an
exchange goes on from zero. -/
theorem names_never_repeat {configs : Nat → Config} {factors : Nat → Nat → Binary64}
    {providers : Nat → π} {suffixes : Nat → Suffix}
    (run : Runs overflow e (fresh configs factors providers suffixes) moves b) :
    (overflow = .panics ∨ (∃ bound, Mint.Room bound moves b.mint) → Unrepeated e b) ∧
    (Unrepeated e b ↔ b.mint.Straight) := by
  have sound := run.sound (sound_fresh overflow ..)
  constructor
  · intro spared
    refine sound.unrepeated ?_
    rw [sound.drawn] at spared ⊢
    rcases spared with rfl | ⟨bound, room⟩
    · exact Mint.straight_of_panics moves
    · exact room.straight
  · refine ⟨fun unrepeated => ?_, sound.unrepeated⟩
    have rising := unrepeated.rising
    rw [sound.drawn] at rising ⊢
    exact Mint.straight_iff_rising.mpr rising

/-- A bureau for replays. All random tails are the same. -/
def trial : Bureau Simulated :=
  fresh (fun _ => .trial 1) (fun _ _ => .one) (fun _ => .trial {})
    fun _ => .replicate 9 (Suffix.pick 0)

/-- A client has asked for a session. -/
def opening : Bureau Simulated := trial.act 0 (.ask .openSession)

/-- The session is there, and so are two requests. -/
def waiting : Bureau Simulated :=
  (((opening.act 0 (.turn 0)).act 0 (.turn 0)).act 0 (.ask (.request (.plain "first")))).act 0
    (.ask (.request (.plain "second")))

/-- The surroundings of a replay: the ledger may be adjusted, and every turn is permitted. -/
def surroundings : Surroundings Simulated := .limited Simulated.Adjusts fun _ _ => true

theorem runs_waiting : Runs .wraps surroundings trial [] waiting := by
  have opens : (opening.clients 0).Allows surroundings (.turn 0) :=
    World.Timeline.allows_turn (fun _ _ => rfl) (by decide +kernel)
  have subscribes : ((opening.act 0 (.turn 0)).clients 0).Allows surroundings (.turn 0) :=
    World.Timeline.allows_turn (fun _ _ => rfl) (by decide +kernel)
  have asked : Runs .wraps surroundings trial [] opening :=
    Runs.start.next (.act 0 (.ask .openSession) trivial rfl)
  have opened := (asked.next (.act 0 (.turn 0) opens rfl)).next (.act 0 (.turn 0) subscribes rfl)
  exact (opened.next (.act 0 (.ask (.request (.plain "first"))) trivial rfl)).next
    (.act 0 (.ask (.request (.plain "second"))) trivial rfl)

/-- The requests have waited while the drawers have made these moves. -/
def queue (moves : List Mint.Move) : Bureau Simulated :=
  { waiting with mint := .after .wraps moves }

theorem runs_queue (moves : List Mint.Move) :
    Runs .wraps surroundings trial moves (queue moves) :=
  runs_waiting.draws moves

/-- The first of the requests, with the stamp of a drawer. -/
def first (drawer : Nat) (stamp : UInt64) : Asking Simulated :=
  ⟨0, ⟨1, some 0, .errand (.request (.plain "first"))⟩, .plain "first", drawer, stamp⟩

def second (drawer : Nat) (stamp : UInt64) : Asking Simulated :=
  ⟨0, ⟨2, some 0, .errand (.request (.plain "second"))⟩, .plain "second", drawer, stamp⟩

section Queue

variable {moves : List Mint.Move} {i j : Nat} {s t : UInt64}

/-- What is due from the start is ready at any time. -/
theorem isReady_due (t : World.Timeline Simulated) (number : Nat) (work : Work Simulated) :
    t.isReady World.rules ⟨number, some 0, work⟩ = true := by
  simp [Schedule.Timeline.isReady]

theorem asks_first (holds : (Mint.after .wraps moves).held? i = some s) :
    (queue moves).Asks surroundings (first i s) := by
  have mem : (first i s).task ∈ (waiting.clients 0).tasks :=
    List.mem_append_left _ (List.mem_append_right _ (List.mem_singleton.mpr rfl))
  exact ⟨mem, rfl, isReady_due _ _ _, rfl, holds, List.not_mem_nil⟩

theorem asks_second (holds : (Mint.after .wraps moves).held? j = some t) (other : j ≠ i) :
    ((queue moves).serve (first i s)).Asks surroundings (second j t) := by
  have mem : (second j t).task ∈ (waiting.clients 0).tasks :=
    List.mem_append_right _ (List.mem_singleton.mpr rfl)
  have waits : (second j t).task ∈
      (((queue moves).serve (first i s)).clients (first i s).client).tasks := by
    rw [clients_serve_self]
    exact Schedule.Timeline.mem_fire_other _ mem (by simp [first, second])
  have unspent : j ∉ [i] := fun mem => other (List.mem_singleton.mp mem)
  exact ⟨waits, rfl, isReady_due _ _ _, rfl, holds, unspent⟩

end Queue

/-- Two drawers race while the clock goes back. -/
def racing : List Mint.Move :=
  [.arrive 5, .arrive 3, .load 1 0, .load 0 0, .exchange 0 true 0, .exchange 0 false 0,
    .exchange 1 false 0, .exchange 1 false 0]

/-- The second request gets the stamp that has been drawn first. -/
theorem names_never_repeat_raced :
    Runs .wraps surroundings trial racing ((queue racing).serve (first 1 6)) ∧
    Mint.Room 6 racing ((queue racing).serve (first 1 6)).mint ∧
    ((queue racing).serve (first 1 6)).mint.stamps = [6, 5] ∧
    ((((queue racing).serve (first 1 6)).serve (second 0 5)).clients 0).client.callbacks.map
      (·.1.text) = ["req_6_000000000", "req_5_000000000"] := by
  have run := (runs_queue racing).next (.serve _ (asks_first (i := 1) (s := 6) (by decide +kernel)))
  have room : Mint.Room 6 racing ((queue racing).serve (first 1 6)).mint := by
    refine ⟨by decide, ?_, by decide +kernel⟩
    intro reading mem
    simp only [racing, List.mem_cons, Mint.Move.arrive.injEq, reduceCtorEq, List.not_mem_nil,
      or_false] at mem
    rcases mem with rfl | rfl <;> decide
  have unrepeated := (names_never_repeat run).1 (.inr ⟨6, room⟩)
  have asks : ((queue racing).serve (first 1 6)).Asks surroundings (second 0 5) :=
    asks_second (by decide +kernel) (by decide)
  have before : (((queue racing).serve (first 1 6)).clients 0).client.callbacks.map (·.1.text) =
      ["req_6_000000000"] := by
    decide +kernel
  have up : (((queue racing).serve (first 1 6)).clients 0).client.session.lifecycle = .ready := by
    decide +kernel
  have own : (((queue racing).serve (first 1 6)).name 0 5).text = "req_5_000000000" := by
    decide +kernel
  refine ⟨run, room, by decide +kernel, ?_⟩
  rw [unrepeated.callbacks _ asks 0, if_pos ⟨rfl, up⟩, List.map_append, before]
  exact congrArg (fun text => ["req_6_000000000", text]) own

/-- Three drawers come one after the other while the clock stands still just short of the last
word. -/
def crowding : List Mint.Move :=
  [0, 1, 2].flatMap fun i => [.arrive (lastWord - 1), .load i 0, .exchange i false 0]

/-- Where sums are not checked, the stamp after the last word is one that has been drawn before. The
name that it makes is there already, and its request takes the place of the other's callback. -/
theorem names_repeat_past_last_word :
    Runs .wraps surroundings trial crowding
      (((queue crowding).serve (first 0 (lastWord - 1))).serve (second 2 (lastWord - 1))) ∧
    (∀ reading, .arrive reading ∈ crowding → reading < lastWord) ∧
    ¬(queue crowding).mint.Straight ∧
    (queue crowding).mint.stamps = [lastWord - 1, lastWord, lastWord - 1] ∧
    (queue crowding).mint.held? 0 = some (lastWord - 1) ∧
    (queue crowding).mint.held? 2 = some (lastWord - 1) ∧
    (queue crowding).name 0 (lastWord - 1) = (queue crowding).name 2 (lastWord - 1) ∧
    (((queue crowding).serve (first 0 (lastWord - 1))).clients 0).client.callbacks.map
      (·.2.name) = ["first"] ∧
    ((((queue crowding).serve (first 0 (lastWord - 1))).serve
      (second 2 (lastWord - 1))).clients 0).client.callbacks.map (·.2.name) = ["second"] := by
  have mine : (queue crowding).mint.held? 0 = some (lastWord - 1) := by decide +kernel
  have yours : (queue crowding).mint.held? 2 = some (lastWord - 1) := by decide +kernel
  have served := (runs_queue crowding).next (.serve _ (asks_first mine))
  have run := served.next (.serve _ (asks_second yours (by decide)))
  refine ⟨run, ?_, by decide +kernel, by decide +kernel, mine, yours, rfl, by decide +kernel,
    by decide +kernel⟩
  intro reading mem
  simp only [crowding, List.flatMap_cons, List.flatMap_nil, List.mem_append, List.mem_cons,
    Mint.Move.arrive.injEq, reduceCtorEq, List.not_mem_nil, or_false, or_self] at mem
  rw [mem]
  decide

end Names

end Bureau

end RandomBeacon
