import RandomBeacon.Proofs.Client.Resume
import RandomBeacon.Proofs.Turns

/-!
Every event of a session takes one of a few courses. The operations under way are aligned with the
session (`Aligned`): what began in it is of its generation and of the budget's epoch, and all else
is stale. So an operation either advances or fades (`Move.course`), and each course keeps the
operations aligned (`Course.aligned`).
-/

namespace RandomBeacon

/-- The operations that wait in these stages began no later than the session and agree with its
counters; only those of a closed session give back a subscription that came too late. -/
structure Aligned (c : Client) (stages : List Stage) : Prop where
  epoch : c.budget.epoch = c.session.generation
  guard : ∀ generation, c.session.reconnecting = some generation → generation = c.session.generation
  begun : ∀ s ∈ stages, ∀ p, s.purpose? = some p → p.generation ≤ c.session.generation
  handoffs : ∀ s ∈ stages, ∀ h, s.purpose? = some (.recovering h) → h.epoch = h.generation
  late : ∀ p id, .releasing p id ∈ stages → p.generation ≠ c.session.generation

namespace Aligned

variable {c d : Client} {stages : List Stage}

theorem perm {others : List Stage} (aligned : Aligned c stages) (perm : stages.Perm others) :
    Aligned c others := by
  obtain ⟨epoch, guard, begun, handoffs, late⟩ := aligned
  exact ⟨epoch, guard, fun s mem => begun s (perm.mem_iff.mpr mem),
    fun s mem => handoffs s (perm.mem_iff.mpr mem),
    fun p id mem => late p id (perm.mem_iff.mpr mem)⟩

theorem congr (aligned : Aligned c stages) (same : d.standing = c.standing) : Aligned d stages := by
  obtain ⟨epoch, guard, begun, handoffs, late⟩ := aligned
  simp only [Client.standing, Prod.mk.injEq] at same
  obtain ⟨_, session, budget⟩ := same
  constructor <;> simpa only [session, budget]

/-- An operation under way is of the session at hand or stale. -/
theorem current_or_stale {s : Stage} {p : Purpose} (aligned : Aligned c stages) (mem : s ∈ stages)
    (wants : s.purpose? = some p) :
    (c.Current p ∧ ∀ id, s ≠ .releasing p id) ∨
    (c.Stale p ∧ p.generation < c.session.generation) := by
  by_cases generation : c.session.generation = p.generation
  · refine Or.inl ⟨⟨generation, ?_⟩, ?_⟩
    · rintro h rfl
      rw [aligned.epoch, generation, aligned.handoffs s mem h wants]
      rfl
    · rintro id rfl
      exact aligned.late p id mem generation.symm
  · refine Or.inr ⟨⟨generation, ?_, ?_⟩, ?_⟩
    · exact fun up => generation (aligned.guard _ up).symm
    · rintro h rfl
      rw [aligned.epoch, aligned.handoffs s mem h wants]
      exact generation
    · exact Nat.lt_of_le_of_ne (aligned.begun s mem p wants) (Ne.symm generation)

end Aligned

/-- The course that an event takes, one case for each. -/
inductive Course (c : Client) : Event → Client → List Stage → Prop
  | opens {d : Client} (idle : c.session.lifecycle = .uninitialized)
      (after : d.core = (c.setLifecycle .initializing).core) :
      Course c .openSession d [.subscribing (.opening c.session.generation) 0]
  | declines {d : Client} (after : d.core = c.core) : Course c .openSession d []
  | closes {d : Client} (after : d.core = c.reset.core) :
      Course c .closeSession d (c.session.subscription.toList.map .closing)
  | hands {b d : Client} {progress : Progress}
      (handed : c.HandOff c.session.generation .lostCall b progress) (after : d.core = b.core) :
      Course c (.recoverSession c.session.generation) d progress.stages
  | passes {generation : Nat} {d : Client} (other : c.session.generation ≠ generation)
      (after : d.core = c.core) : Course c (.recoverSession generation) d []
  | advances {s : Stage} {signal : s.Signal} {p : Purpose} {b d : Client} {progress : Progress}
      (wants : s.purpose? = some p) (current : c.Current p)
      (advance : c.Advance s (s.received? signal) b progress) (after : d.core = b.core) :
      Course c (.resume s signal) d progress.stages
  | fades {s : Stage} {signal : s.Signal} {p : Purpose} {d : Client} {progress : Progress}
      (wants : s.purpose? = some p) (stale : c.Stale p)
      (fade : Client.Fades p (s.received? signal) progress) (after : d.core = c.core) :
      Course c (.resume s signal) d progress.stages
  | closed {id : SubscriptionId} {signal : Outcome Unit} {d : Client} (after : d.core = c.core) :
      Course c (.resume (.closing id) signal) d []
  | breaks {s : Stage} {signal : s.Signal} {d : Client} (panicked : s.panicked signal = true)
      (after : d.core = c.core) : Course c (.resume s signal) d []
  | serves {d : Client} (same : d.standing = c.standing) : Course c .serve d []

theorem openSession_course (c : Client) {d : Client} (after : d.core = c.openSession.1.core) :
    Course c .openSession d c.openSession.2.stages := by
  unfold Client.openSession at after ⊢
  cases l : c.session.lifecycle with
  | uninitialized =>
    have begun := Client.beginSubscribing_current
      (c := (c.setLifecycle .initializing).note (.initializing c.config.beaconAddress))
      (p := .opening c.session.generation) ⟨rfl, by simp⟩ 0
    simp only [l, begun] at after ⊢
    exact .opens l after
  | ready | initializing | reconnecting | failed =>
    simp only [l] at after ⊢
    exact .declines after

theorem closeSession_course (c : Client) {d : Client} (after : d.core = c.closeSession.1.core) :
    Course c .closeSession d c.closeSession.2.stages := by
  have stages : c.closeSession.2.stages = c.session.subscription.toList.map .closing := by
    unfold Client.closeSession
    cases c.session.subscription <;> rfl
  have core : c.closeSession.1.core = c.reset.core := by
    unfold Client.closeSession
    cases c.session.subscription <;> rfl
  rw [stages]
  exact .closes (after.trans core)

theorem Move.course {c d : Client} {event : Event} {new rest : List Stage}
    (aligned : Aligned c (event.stage?.toList ++ rest)) (move : Move c event d new) :
    Course c event d new := by
  cases move with
  | openSession after => exact openSession_course c after
  | closeSession after => exact closeSession_course c after
  | serve same => exact .serves same
  | recoverSession generation after =>
    by_cases current : c.session.generation = generation
    · subst current
      obtain ⟨b, handed, core⟩ := Client.handOff_begins (c := c) rfl .lostCall
      exact .hands handed (after.trans core)
    · obtain ⟨core, ended⟩ := Client.handOff_stale current
      rw [Client.recoverSession, ended]
      exact .passes current (after.trans core)
  | resume s signal same after =>
    cases panics : s.panicked signal with
    | true =>
      rw [Client.resume_panicked panics] at after ⊢
      exact .breaks panics (after.trans same)
    | false =>
      have mem : s ∈ (Event.resume s signal).stage?.toList ++ rest := by simp [Event.stage?]
      cases wants : s.purpose? with
      | none =>
        cases s with
        | closing id =>
          obtain ⟨core, ended⟩ := Client.resume_closing _ id signal
          rw [ended]
          exact .closed (after.trans (core.trans same))
        | subscribing | pausing | releasing | scheduled | dropping => cases wants
      | some p =>
        rcases aligned.current_or_stale mem wants with ⟨current, timely⟩ | ⟨stale, _⟩
        · obtain ⟨b, advance, core⟩ :=
            Client.resume_advance wants (current.congr same.symm) timely signal panics
          obtain ⟨b', advance', core'⟩ := advance.congr same
          exact .advances wants current advance' (after.trans (core.trans core'))
        · obtain ⟨core, fade⟩ := Client.resume_stale wants (stale.congr same) signal panics
          exact .fades wants stale fade (after.trans (core.trans same))

theorem Client.HandOff.config {c d : Client} {generation : Nat} {starter : Starter}
    {progress : Progress} (handed : c.HandOff generation starter d progress) :
    d.config = c.config := by
  cases handed with
  | busy | skips | begins => rfl
  | joins => exact Client.transition_config _ _ _ _
  | spent => exact Client.givenUp_config _ _ _

theorem Client.Advance.config {c d : Client} {s : Stage} {received : Option SubscriptionId}
    {progress : Progress} (advance : c.Advance s received d progress) : d.config = c.config := by
  cases advance with
  | pauses | asks | refused | takes | asksAtOnce | asksAnew | retries => rfl
  | opens generation failed id => exact Client.install_config id c
  | recovers h failed id =>
    exact (Client.clearReconnecting_config _ _).trans (Client.install_config id c)
  | exhausted | aborts => exact Client.givenUp_config _ _ _
  | handsOff generation failed handed => exact handed.config

/-- No event changes the configuration. -/
theorem Course.config {c d : Client} {event : Event} {new : List Stage}
    (course : Course c event d new) : d.config = c.config := by
  have kept {b : Client} (after : d.core = b.core) (same : b.config = c.config) :
      d.config = c.config :=
    (Client.core_eq_iff.mp after).1.trans same
  cases course with
  | opens idle after | declines after | closes after | passes other after | closed after
  | breaks panicked after | fades wants stale fade after => exact kept after rfl
  | hands handed after => exact kept after handed.config
  | advances wants current advance after => exact kept after advance.config
  | serves same => exact congrArg Prod.fst same

/-- What the session at hand keeps while its operations go on: its counters, and a guard that is
up for no other generation. -/
structure Client.Continues (c d : Client) : Prop where
  epoch : d.budget.epoch = c.budget.epoch
  generation : d.session.generation = c.session.generation
  guard : d.session.reconnecting = c.session.reconnecting ∨ d.session.reconnecting = none ∨
    d.session.reconnecting = some c.session.generation

theorem Client.Continues.of_standing {c d : Client} (same : d.standing = c.standing) :
    c.Continues d := by
  simp only [Client.standing, Prod.mk.injEq] at same
  obtain ⟨_, session, budget⟩ := same
  constructor
  · rw [budget]
  · rw [session]
  · rw [session]
    exact Or.inl rfl

/-- The guard stays as it is or is taken down. -/
theorem Client.guard_cleared (c : Client) (generation : Nat) :
    (c.clearReconnecting generation).session.reconnecting = c.session.reconnecting ∨
    (c.clearReconnecting generation).session.reconnecting = none := by
  unfold Client.clearReconnecting
  split
  · exact Or.inr rfl
  · exact Or.inl rfl

/-- A stage of an operation of the session at hand. -/
structure Stage.Fresh (c : Client) (s : Stage) : Prop where
  purpose : ∀ p, s.purpose? = some p → p.generation = c.session.generation
  epoch : ∀ h, s.purpose? = some (.recovering h) → h.epoch = h.generation
  timely : ∀ p id, s ≠ .releasing p id

theorem Client.HandOff.continues {c d : Client} {starter : Starter} {progress : Progress}
    (handed : c.HandOff c.session.generation starter d progress) : c.Continues d := by
  cases handed with
  | busy | skips => exact .of_standing rfl
  | joins => exact ⟨by simp, by simp, by simp⟩
  | begins => exact ⟨by simp, by simp, by simp⟩
  | spent => exact ⟨by simp, by simp, by simp⟩

theorem Client.HandOff.fresh {c d : Client} {starter : Starter} {progress : Progress}
    (handed : c.HandOff c.session.generation starter d progress)
    (epoch : c.budget.epoch = c.session.generation) : ∀ s ∈ progress.stages, s.Fresh c := by
  intro s mem
  cases handed with
  | busy | joins | skips | spent => cases mem
  | begins starter duration down connected left =>
    obtain rfl := List.mem_singleton.mp mem
    refine ⟨?_, ?_, by simp⟩
    · rintro p ⟨⟩
      rfl
    · rintro h ⟨⟩
      exact epoch

theorem Client.Advance.continues {c d : Client} {s : Stage} {p : Purpose}
    {received : Option SubscriptionId} {progress : Progress} (wants : s.purpose? = some p)
    (current : c.Current p) (advance : c.Advance s received d progress) : c.Continues d := by
  have cleared (b : Client) (same : b.session.reconnecting = c.session.reconnecting)
      (generation : Nat) :
      (b.clearReconnecting generation).session.reconnecting = c.session.reconnecting ∨
      (b.clearReconnecting generation).session.reconnecting = none ∨
      (b.clearReconnecting generation).session.reconnecting = some c.session.generation := by
    rw [← same]
    exact (b.guard_cleared generation).imp_right Or.inl
  cases advance with
  | pauses | asks | asksAtOnce | asksAnew => exact .of_standing rfl
  | opens | refused | takes | retries => exact ⟨by simp, by simp, by simp⟩
  | recovers h failed id =>
    exact ⟨by simp, by simp, cleared ((c.install id).withAttempts 0) (by simp) h.generation⟩
  | exhausted h failed e spent =>
    exact ⟨by simp, by simp, cleared (c.withAttempts (c.budget.attempts + 1)) rfl h.generation⟩
  | aborts h failed e => exact ⟨by simp, by simp, cleared (c.withAttempts 0) rfl h.generation⟩
  | handsOff generation failed handed =>
    obtain rfl := Option.some.inj wants
    obtain rfl : c.session.generation = generation := current.generation
    exact handed.continues

/-- An operation goes on for the same purpose, save that a hand-off counts its attempts. -/
theorem Client.Advance.fresh {c d : Client} {s : Stage} {p : Purpose}
    {received : Option SubscriptionId} {progress : Progress} (wants : s.purpose? = some p)
    (current : c.Current p) (epoch : c.budget.epoch = c.session.generation)
    (advance : c.Advance s received d progress) : ∀ s' ∈ progress.stages, s'.Fresh c := by
  have own (h : Handoff) (same : p = .recovering h) : h.epoch = h.generation := by
    rw [← current.epoch h same, epoch, current.generation, same]
    rfl
  intro s' mem
  cases advance with
  | opens | refused | recovers | exhausted | aborts => cases mem
  | handsOff generation failed handed =>
    obtain rfl := Option.some.inj wants
    obtain rfl : c.session.generation = generation := current.generation
    exact handed.fresh epoch s' mem
  | pauses | asks =>
    obtain rfl := Option.some.inj wants
    obtain rfl := List.mem_singleton.mp mem
    refine ⟨?_, ?_, by simp⟩
    · rintro q ⟨⟩
      exact current.generation.symm
    · rintro h ⟨⟩
      exact own h rfl
  | takes h | asksAtOnce h | asksAnew h | retries h =>
    obtain rfl := Option.some.inj wants
    obtain rfl := List.mem_singleton.mp mem
    refine ⟨?_, ?_, by simp⟩
    · rintro q ⟨⟩
      exact current.generation.symm
    · rintro h' ⟨⟩
      exact own h rfl

/-- Only a cleanup begins a new generation. -/
theorem Course.generation {c d : Client} {event : Event} {new : List Stage}
    (course : Course c event d new) :
    d.session.generation = c.session.generation ∨
    event = .closeSession ∧ d.session.generation = c.session.generation + 1 := by
  have kept {b : Client} (after : d.core = b.core)
      (same : b.session.generation = c.session.generation) :
      d.session.generation = c.session.generation := by
    rw [(Client.core_eq_iff.mp after).2.2.1, same]
  cases course with
  | opens idle after | declines after | passes other after | closed after | breaks panicked after
  | fades wants stale fade after => exact Or.inl (kept after rfl)
  | closes after =>
    refine Or.inr ⟨rfl, ?_⟩
    rw [(Client.core_eq_iff.mp after).2.2.1]
    rfl
  | hands handed after => exact Or.inl (kept after handed.continues.generation)
  | advances wants current advance after =>
    exact Or.inl (kept after (advance.continues wants current).generation)
  | serves same =>
    have session : d.session = c.session := congrArg (·.2.1) same
    exact Or.inl (congrArg Session.generation session)

theorem Course.closed_core {c d : Client} {new : List Stage}
    (course : Course c .closeSession d new) : d.core = c.reset.core := by
  cases course with
  | closes after => exact after

/-- A cleanup does begin one. -/
theorem Course.closed_generation {c d : Client} {new : List Stage}
    (course : Course c .closeSession d new) :
    d.session.generation = c.session.generation + 1 :=
  congrArg Session.generation (Client.core_eq_iff.mp course.closed_core).2.2.1

/-- A stale operation that winds down stays stale. -/
theorem Client.Fades.late {p : Purpose} {received : Option SubscriptionId}
    {progress : Progress} (fade : Client.Fades p received progress) :
    ∀ s ∈ progress.stages, s.purpose? = some p ∧
      ∀ q id, s = .releasing q id → q = p := by
  intro s mem
  cases fade with
  | ends => cases mem
  | pauses failed =>
    obtain rfl := List.mem_singleton.mp mem
    exact ⟨rfl, by simp⟩
  | releases id =>
    obtain rfl := List.mem_singleton.mp mem
    refine ⟨rfl, ?_⟩
    rintro q id' ⟨⟩
    rfl

namespace Aligned

variable {c d : Client} {s? : Option Stage} {new rest : List Stage}

/-- Operations of the session at hand may go on and begin. -/
theorem continued (new : List Stage) (aligned : Aligned c (s?.toList ++ rest))
    (continues : c.Continues d)
    (fresh : ∀ s ∈ new, s.Fresh c) : Aligned d (new ++ rest) := by
  constructor
  · rw [continues.epoch, continues.generation]
    exact aligned.epoch
  · intro g up
    rw [continues.generation]
    rcases continues.guard with same | down | raised
    · exact aligned.guard g (same ▸ up)
    · rw [down] at up
      cases up
    · rw [raised] at up
      exact (Option.some.inj up).symm
  · intro s mem p wants
    rw [continues.generation]
    rcases List.mem_append.mp mem with begun | old
    · exact Nat.le_of_eq ((fresh s begun).purpose p wants)
    · exact aligned.begun s (List.mem_append_right _ old) p wants
  · intro s mem h wants
    rcases List.mem_append.mp mem with begun | old
    · exact (fresh s begun).epoch h wants
    · exact aligned.handoffs s (List.mem_append_right _ old) h wants
  · intro p id mem
    rw [continues.generation]
    rcases List.mem_append.mp mem with begun | old
    · exact absurd rfl ((fresh _ begun).timely p id)
    · exact aligned.late p id (List.mem_append_right _ old)

theorem faded {s : Stage} {p : Purpose} {received : Option SubscriptionId} {progress : Progress}
    (aligned : Aligned c (s :: rest)) (wants : s.purpose? = some p) (stale : c.Stale p)
    (fade : Client.Fades p received progress) : Aligned c (progress.stages ++ rest) := by
  obtain ⟨epoch, guard, begun, handoffs, late⟩ := aligned
  refine ⟨epoch, guard, ?_, ?_, ?_⟩
  · intro s' mem q wants'
    rcases List.mem_append.mp mem with new | old
    · obtain rfl := Option.some.inj ((fade.late s' new).1.symm.trans wants')
      exact begun s List.mem_cons_self p wants
    · exact begun s' (List.mem_cons_of_mem _ old) q wants'
  · intro s' mem h wants'
    rcases List.mem_append.mp mem with new | old
    · obtain rfl := Option.some.inj ((fade.late s' new).1.symm.trans wants')
      exact handoffs s List.mem_cons_self h wants
    · exact handoffs s' (List.mem_cons_of_mem _ old) h wants'
  · intro q id mem
    rcases List.mem_append.mp mem with new | old
    · obtain rfl := (fade.late _ new).2 q id rfl
      exact stale.generation.symm
    · exact late q id (List.mem_cons_of_mem _ old)

/-- What is under way when a session is closed began before the next one. -/
theorem outdated (aligned : Aligned c (s?.toList ++ rest)) (ids : List SubscriptionId) :
    ∀ s ∈ ids.map Stage.closing ++ rest, ∀ p, s.purpose? = some p →
      s ∈ rest ∧ p.generation < c.reset.session.generation := by
  intro s mem p wants
  rcases List.mem_append.mp mem with new | old
  · obtain ⟨id, _, rfl⟩ := List.mem_map.mp new
    cases wants
  · exact ⟨old, Nat.lt_succ_of_le (aligned.begun s (List.mem_append_right _ old) p wants)⟩

/-- A closed session makes all its operations stale. -/
theorem reset (aligned : Aligned c (s?.toList ++ rest)) (ids : List SubscriptionId) :
    Aligned c.reset (ids.map .closing ++ rest) := by
  have outdated := aligned.outdated ids
  constructor
  · exact congrArg (· + 1) aligned.epoch
  · rintro g ⟨⟩
  · exact fun s mem p wants => Nat.le_of_lt (outdated s mem p wants).2
  · intro s mem h wants
    exact aligned.handoffs s (List.mem_append_right _ (outdated s mem _ wants).1) h wants
  · exact fun p id mem => Nat.ne_of_lt (outdated _ mem p rfl).2

end Aligned

/-- Every course keeps the operations under way aligned with the session. -/
theorem Course.aligned {c d : Client} {event : Event} {new rest : List Stage}
    (aligned : Aligned c (event.stage?.toList ++ rest)) (course : Course c event d new) :
    Aligned d (new ++ rest) := by
  have quiet {b : Client} (after : d.core = b.core) : d.standing = b.standing :=
    Client.standing_of_core after
  have left : Aligned c rest :=
    aligned.continued [] (.of_standing rfl) (fun s mem => absurd mem List.not_mem_nil)
  cases course with
  | opens idle after =>
    refine (aligned.continued _ (d := c.setLifecycle .initializing) ⟨rfl, rfl, Or.inl rfl⟩ ?_).congr
      (quiet after)
    intro s mem
    obtain rfl := List.mem_singleton.mp mem
    exact ⟨by simp [Stage.purpose?, Purpose.generation], by simp [Stage.purpose?], by simp⟩
  | declines after | passes other after | closed after | breaks panicked after =>
    exact left.congr (quiet after)
  | serves same => exact left.congr same
  | closes after => exact (aligned.reset _).congr (quiet after)
  | hands handed after =>
    exact (aligned.continued _ handed.continues (handed.fresh aligned.epoch)).congr (quiet after)
  | advances wants current advance after =>
    exact (aligned.continued _ (advance.continues wants current)
      (advance.fresh wants current aligned.epoch)).congr (quiet after)
  | fades wants stale fade after => exact (aligned.faded wants stale fade).congr (quiet after)

end RandomBeacon
