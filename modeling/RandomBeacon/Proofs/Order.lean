import RandomBeacon.Proofs.Runs

/-!
Orderly runs. The operations of a session come one after the other, and their order shows in the
lifecycle, as long as no lost call is handed to reconnection while the session is initializing
(`Work.intrudes`). That can happen: a call may be lost long after its session has been given up and
opened anew within one generation. From then on two operations of a generation are under way, and
nothing keeps them apart.
-/

namespace RandomBeacon

/-- The state in which an operation of the session at hand keeps it. -/
def Purpose.lifecycle : Purpose → Lifecycle
  | opening _ => .initializing
  | recovering _ => .reconnecting

/-- What a session has to show for its lifecycle. A session that may make no attempt to reconnect
fails as soon as it loses a call, its subscription in hand. -/
structure Consistent (c : Client) : Prop where
  unopened : c.session.lifecycle = .uninitialized ∨ c.session.lifecycle = .initializing →
    c.session.subscription = none
  ready : c.session.lifecycle = .ready → ∃ id, c.session.subscription = some id
  failed : c.session.lifecycle = .failed →
    c.session.subscription = none ∨ c.config.reconnection.maxAttempts = 0
  unspent : c.session.lifecycle = .uninitialized ∨ c.session.lifecycle = .initializing ∨
    c.session.lifecycle = .ready → c.budget.attempts = 0

/-- There is one operation of the session at hand at most. It shows in the lifecycle, and while it
runs the session has no subscription, save for one that a hand-off has yet to give back. -/
structure Orderly (c : Client) (stages : List Stage) : Prop extends Consistent c where
  single : stages.countP (·.current c.session.generation) ≤ 1
  busy : ∀ s ∈ stages, ∀ p, s.purpose? = some p → p.generation = c.session.generation →
    c.session.lifecycle = p.lifecycle
  vacant : ∀ s ∈ stages, s.current c.session.generation = true →
    (∀ h duration, s ≠ .scheduled h duration) → c.session.subscription = none

theorem Consistent.congr {c d : Client} (consistent : Consistent c)
    (same : d.standing = c.standing) : Consistent d := by
  simp only [Client.standing, Prod.mk.injEq] at same
  obtain ⟨config, session, budget⟩ := same
  obtain ⟨unopened, ready, failed, unspent⟩ := consistent
  constructor <;> simpa only [config, session, budget]

namespace Orderly

variable {c d : Client} {s? : Option Stage} {s : Stage} {p : Purpose} {stages new rest : List Stage}

theorem perm {others : List Stage} (orderly : Orderly c stages) (perm : stages.Perm others) :
    Orderly c others := by
  obtain ⟨consistent, single, busy, vacant⟩ := orderly
  exact ⟨consistent, perm.countP_eq _ ▸ single, fun s mem => busy s (perm.mem_iff.mpr mem),
    fun s mem => vacant s (perm.mem_iff.mpr mem)⟩

/-- Operations of other sessions come and go. -/
theorem quiet (s? : Option Stage) (new : List Stage) (orderly : Orderly c (s?.toList ++ rest))
    (same : d.standing = c.standing)
    (others : ∀ t ∈ new, t.current c.session.generation = false) : Orderly d (new ++ rest) := by
  obtain ⟨consistent, single, busy, vacant⟩ := orderly
  have session : d.session = c.session := by
    simp only [Client.standing, Prod.mk.injEq] at same
    exact same.2.1
  refine ⟨consistent.congr same, ?_, ?_, ?_⟩
  · have none : new.countP (·.current c.session.generation) = 0 := by
      apply List.countP_eq_zero.mpr
      intro t mem
      simp [others t mem]
    rw [session, List.countP_append, none, Nat.zero_add]
    exact Nat.le_trans ((List.sublist_append_right _ _).countP_le) single
  · rw [session]
    intro t mem q wants same
    rcases List.mem_append.mp mem with fresh | old
    · have current : t.current c.session.generation = true :=
        Stage.current_iff.mpr ⟨q, wants, same⟩
      rw [others t fresh] at current
      cases current
    · exact busy t (List.mem_append_right _ old) q wants same
  · rw [session]
    intro t mem current
    rcases List.mem_append.mp mem with fresh | old
    · rw [others t fresh] at current
      cases current
    · exact vacant t (List.mem_append_right _ old) current

/-- An operation begins or goes on while no other of its session is under way, or the last one has
ended. -/
theorem alone (new : List Stage) (consistent : Consistent d)
    (others : ∀ t ∈ rest, t.current d.session.generation = false) (one : new.length ≤ 1)
    (busy : ∀ t ∈ new, ∀ p, t.purpose? = some p → d.session.lifecycle = p.lifecycle)
    (vacant : ∀ t ∈ new, (∀ h duration, t ≠ .scheduled h duration) →
      d.session.subscription = none) : Orderly d (new ++ rest) := by
  refine ⟨consistent, ?_, ?_, ?_⟩
  · have none : rest.countP (·.current d.session.generation) = 0 := by
      apply List.countP_eq_zero.mpr
      intro t mem
      simp [others t mem]
    rw [List.countP_append, none]
    exact Nat.le_trans (List.countP_le_length) one
  · intro t mem q wants same
    rcases List.mem_append.mp mem with fresh | old
    · exact busy t fresh q wants
    · have current : t.current d.session.generation = true :=
        Stage.current_iff.mpr ⟨q, wants, same⟩
      rw [others t old] at current
      cases current
  · intro t mem current
    rcases List.mem_append.mp mem with fresh | old
    · exact vacant t fresh
    · rw [others t old] at current
      cases current

/-- One operation of the session at hand is under way. -/
theorem runs (consistent : Consistent d)
    (others : ∀ t ∈ rest, t.current d.session.generation = false) (wants : s.purpose? = some p)
    (shows : d.session.lifecycle = p.lifecycle)
    (vacant : (∀ h duration, s ≠ .scheduled h duration) → d.session.subscription = none) :
    Orderly d ([s] ++ rest) := by
  refine .alone [s] consistent others (Nat.le_refl 1) ?_ ?_
  · intro t new q wants'
    obtain rfl := List.mem_singleton.mp new
    obtain rfl := Option.some.inj (wants.symm.trans wants')
    exact shows
  · intro t new unscheduled
    obtain rfl := List.mem_singleton.mp new
    exact vacant unscheduled

/-- No operation of the session at hand is under way. -/
theorem rests (consistent : Consistent d)
    (others : ∀ t ∈ rest, t.current d.session.generation = false) : Orderly d ([] ++ rest) := by
  refine .alone [] consistent others (Nat.zero_le 1) ?_ ?_
  · rintro t ⟨⟩
  · rintro t ⟨⟩

/-- Beside an operation of the session at hand there is no other. -/
theorem others (orderly : Orderly c (s :: rest)) (current : s.current c.session.generation = true) :
    ∀ t ∈ rest, t.current c.session.generation = false := by
  have single := orderly.single
  simp only [List.countP_cons, current, if_true] at single
  have none : rest.countP (·.current c.session.generation) = 0 := by omega
  intro t mem
  simpa using List.countP_eq_zero.mp none t mem

/-- A session that is neither initializing nor reconnecting has no operation under way. -/
theorem idle (orderly : Orderly c stages) (initializing : c.session.lifecycle ≠ .initializing)
    (reconnecting : c.session.lifecycle ≠ .reconnecting) :
    ∀ t ∈ stages, t.current c.session.generation = false := by
  intro t mem
  by_contra current
  obtain ⟨p, wants, same⟩ := Stage.current_iff.mp (Bool.not_eq_false _ ▸ current)
  have shown := orderly.busy t mem p wants same
  cases p with
  | opening => exact initializing shown
  | recovering => exact reconnecting shown

end Orderly

section Courses

variable {c d : Client} {s : Stage} {p : Purpose} {received : Option SubscriptionId}
  {progress : Progress} {rest : List Stage}

/-- A hand-off that begins while nothing else is under way shows in the lifecycle. -/
theorem Orderly.begins (others : ∀ t ∈ rest, t.current c.session.generation = false)
    (starter : Starter) (duration : Nat) :
    Orderly (c.loseConnection c.session.generation).delayed
      ([.scheduled ⟨starter, c.session.generation, c.budget.epoch, c.budget.attempts⟩ duration] ++
        rest) := by
  refine .runs ?_ others rfl rfl ?_
  · constructor <;> simp
  · intro unscheduled
    exact absurd rfl (unscheduled _ _)

/-- A session that may make no attempt fails at once. -/
theorem Orderly.spent (others : ∀ t ∈ rest, t.current c.session.generation = false)
    (consistent : Consistent c)
    (connected : c.session.lifecycle = .ready ∨ c.session.lifecycle = .initializing)
    (spent : c.config.reconnection.maxAttempts ≤ c.budget.attempts) :
    Orderly ((c.loseConnection c.session.generation).givenUp c.session.generation .failed)
      ([] ++ rest) := by
  refine .rests ?_ (by simpa using others)
  constructor
  · simp
  · simp
  · intro _
    rw [Client.givenUp_config,
      show (c.loseConnection c.session.generation).config = c.config from rfl]
    rcases connected with ready | initializing
    · have unspent := consistent.unspent (Or.inr (Or.inr ready))
      exact Or.inr (by omega)
    · exact Or.inl (by simpa using consistent.unopened (Or.inr initializing))
  · simp

theorem Client.Advance.orderly (orderly : Orderly c (s :: rest)) (wants : s.purpose? = some p)
    (current : c.Current p) (advance : c.Advance s received d progress) :
    Orderly d (progress.stages ++ rest) := by
  have mem : s ∈ s :: rest := List.mem_cons_self
  have shows : c.session.lifecycle = p.lifecycle :=
    orderly.busy s mem p wants current.generation.symm
  have mine : s.current c.session.generation = true :=
    Stage.current_iff.mpr ⟨p, wants, current.generation.symm⟩
  have others := orderly.others mine
  have vacant := orderly.vacant s mem mine
  have consistent := orderly.toConsistent
  have goes (s' : Stage) (same : s'.purpose? = some p) (vacant : c.session.subscription = none) :
      Orderly c ([s'] ++ rest) :=
    .runs consistent others same shows fun _ => vacant
  cases advance with
  | pauses q failed | asks q failed => exact goes _ wants (vacant (by simp))
  | asksAtOnce h duration none => exact goes _ wants none
  | asksAnew h id => exact goes _ wants (vacant (by simp))
  | takes h duration id owned =>
    obtain rfl := Option.some.inj wants
    have reconnecting : c.session.lifecycle = .reconnecting := shows
    refine .runs (d := c.disowned) ?_ others rfl shows fun _ => rfl
    constructor <;> simp [reconnecting]
  | retries h failed duration left =>
    obtain rfl := Option.some.inj wants
    have reconnecting : c.session.lifecycle = .reconnecting := shows
    refine .runs (d := (c.withAttempts (c.budget.attempts + 1)).delayed) ?_ others rfl shows ?_
    · constructor <;> simp [reconnecting]
    · intro unscheduled
      exact absurd rfl (unscheduled _ _)
  | opens generation failed id =>
    obtain rfl := Option.some.inj wants
    have initializing : c.session.lifecycle = .initializing := shows
    refine .rests ?_ (by simpa using others)
    have unspent := consistent.unspent (by simp [initializing])
    constructor <;> simp [unspent]
  | refused generation failed e =>
    obtain rfl := Option.some.inj wants
    have initializing : c.session.lifecycle = .initializing := shows
    refine .rests ?_ others
    have unspent := consistent.unspent (by simp [initializing])
    constructor <;> simp [unspent, vacant (by simp)]
  | handsOff generation failed handed =>
    obtain rfl := Option.some.inj wants
    obtain rfl : c.session.generation = generation := current.generation
    have initializing : c.session.lifecycle = .initializing := shows
    have unspent := consistent.unspent (by simp [initializing])
    cases handed with
    | joins up result =>
      refine .rests ?_ (by simpa using others)
      constructor <;> simp [initializing, unspent, vacant (by simp)]
    | skips _ e down idle => exact absurd initializing idle.2
    | begins _ duration down connected left => exact .begins others .opening duration
    | spent _ e down connected spent => exact .spent others consistent connected spent
  | recovers h failed id =>
    refine .rests ?_ (by simpa using others)
    constructor <;> simp
  | exhausted h failed e spent =>
    refine .rests ?_ (by simpa using others)
    constructor <;> simp [vacant (by simp)]
  | aborts h failed e =>
    refine .rests ?_ (by simpa using others)
    constructor <;> simp [vacant (by simp)]

/-- A lost call is handed to reconnection by a session that is ready, or by none. -/
theorem Client.HandOff.orderly (orderly : Orderly c rest)
    (apart : c.session.lifecycle ≠ .initializing)
    (handed : c.HandOff c.session.generation .lostCall d progress) :
    Orderly d (progress.stages ++ rest) := by
  have idle (connected : c.session.lifecycle = .ready ∨ c.session.lifecycle = .initializing) :
      ∀ t ∈ rest, t.current c.session.generation = false := by
    rcases connected with ready | initializing
    · exact orderly.idle (by simp [ready]) (by simp [ready])
    · exact absurd initializing apart
  cases handed with
  | busy | skips => exact orderly
  | begins _ duration down connected left => exact .begins (idle connected) .lostCall duration
  | spent _ e down connected spent =>
    exact .spent (idle connected) orderly.toConsistent connected spent

/-- A new session has no operation under way. -/
theorem Orderly.reset {s? : Option Stage} (aligned : Aligned c (s?.toList ++ rest))
    (ids : List SubscriptionId) : Orderly c.reset (ids.map .closing ++ rest) := by
  rw [← List.nil_append (ids.map Stage.closing ++ rest)]
  refine .rests ?_ ?_
  · constructor <;> simp [Client.reset, Client.recordPending, Budget.reset]
  · intro t mem
    by_contra current
    obtain ⟨p, wants, same⟩ := Stage.current_iff.mp (Bool.not_eq_false _ ▸ current)
    exact Nat.ne_of_lt (aligned.outdated _ t mem p wants).2 same

/-- Every course keeps the operations in order, as long as no lost call is handed to reconnection
while the session is initializing. -/
theorem Course.orderly {event : Event} {new : List Stage}
    (aligned : Aligned c (event.stage?.toList ++ rest))
    (orderly : Orderly c (event.stage?.toList ++ rest)) (course : Course c event d new)
    (apart : event = .recoverSession c.session.generation →
      c.session.lifecycle ≠ .initializing) : Orderly d (new ++ rest) := by
  have congr {b : Client} {stages : List Stage} (orderly : Orderly b stages)
      (after : d.core = b.core) : Orderly d stages :=
    Orderly.quiet none [] orderly (Client.standing_of_core after) (by simp)
  cases course with
  | opens idle after =>
    have vacant := orderly.unopened (Or.inl idle)
    have unspent := orderly.unspent (Or.inl idle)
    have others := orderly.idle (by simp [idle]) (by simp [idle])
    refine congr (.runs (d := c.setLifecycle .initializing) ?_ others rfl rfl fun _ => vacant) after
    constructor <;> simp [vacant, unspent]
  | declines after | passes other after => exact congr orderly after
  | serves same => exact orderly.quiet _ [] same (by simp)
  | closed after | breaks panicked after =>
    exact orderly.quiet _ [] (Client.standing_of_core after) (by simp)
  | closes after => exact congr (.reset aligned _) after
  | hands handed after => exact congr (handed.orderly orderly (apart rfl)) after
  | advances wants current advance after =>
    exact congr (advance.orderly orderly wants current) after
  | fades wants stale fade after =>
    refine orderly.quiet _ _ (Client.standing_of_core after) ?_
    intro t mem
    simp [Stage.current, (fade.late t mem).1, Ne.symm stale.generation]

end Courses

/-- Whether a turn hands a lost call to reconnection while the session is initializing. -/
def Work.intrudes {π : Type} (w : World π) : Work π → Bool
  | .recovery generation =>
    w.client.session.generation = generation ∧ w.client.session.lifecycle = .initializing
  | _ => false

/-- Surroundings in which no lost call intrudes on an opening. -/
def Surroundings.Apart {π : Type} (e : Surroundings π) : Prop :=
  ∀ w work, e.permits w work → work.intrudes w = false

namespace World.Timeline

theorem orderly_fresh {π : Type} (config : Config) (factors : Nat → Binary64) (provider : π)
    (suffixes : Nat → Suffix) :
    Orderly (fresh config factors provider suffixes).client
      (fresh config factors provider suffixes).stages := by
  refine ⟨⟨?_, ?_, ?_, ?_⟩, Nat.zero_le 1, ?_, ?_⟩
  · exact fun _ => rfl
  · rintro ⟨⟩
  · rintro ⟨⟩
  · exact fun _ => rfl
  · rintro s ⟨⟩
  · rintro s ⟨⟩

variable {π : Type} [Provider π] {e : Surroundings π} {s t : Timeline π}

theorem Step.orderly (apart : e.Apart) (step : Step e s t) (numbered : s.Numbered)
    (aligned : Aligned s.client s.stages) (orderly : Orderly s.client s.stages) :
    Orderly t.client t.stages := by
  obtain ⟨event, new, rest, before, after, course, origin⟩ := step.course numbered aligned
  refine (course.orderly (aligned.perm before) (orderly.perm before) ?_).perm after.symm
  intro recovers initializing
  rcases origin with none | ⟨task, _, permitted, same⟩
  · rw [none] at recovers
    cases recovers
  · have permitted := apart _ _ permitted
    rw [Work.of_event_recoverSession (same.symm.trans recovers)] at permitted
    have now : s.state.client.session.lifecycle = .initializing := initializing
    simp [Work.intrudes, client, now] at permitted

theorem Reachable.orderly (apart : e.Apart) (run : Reachable e s t) (numbered : s.Numbered)
    (aligned : Aligned s.client s.stages) (orderly : Orderly s.client s.stages) :
    Orderly t.client t.stages := by
  induction run with
  | start => exact orderly
  | next run step ih =>
    exact step.orderly apart (run.numbered numbered) (run.aligned numbered aligned) ih

end World.Timeline

end RandomBeacon
