import RandomBeacon.Proofs.Handoffs

/-!
The budget of attempts. While a hand-off of the session at hand is under way, its guard is up and
the budget is not yet spent (`Budgeted`). Every event spends the budget in one of a few ways
(`Spends`, `Course.spends`), whichever of its calls panic: a hand-off that a panic takes leaves its
guard up, so that no other begins in its generation.
-/

namespace RandomBeacon

/-- The attempts that a client may make in a hand-off. -/
def Client.limit (c : Client) : Nat := c.config.reconnection.maxAttempts

/-- What the hand-offs of the session at hand have left of the budget. -/
structure Budgeted (c : Client) (stages : List Stage) : Prop where
  single : c.handoffs stages ≤ c.guards
  bounded : c.budget.attempts ≤ c.limit
  left : c.guards = 1 → c.budget.attempts < c.limit

/-- How an event within a session spends the budget: `s?` is the stage that it ends, `new` are those
that it begins. -/
inductive Spends (c : Client) (s? : Option Stage) (d : Client) (new : List Stage) : Prop
  | nothing (attempts : d.budget.attempts = c.budget.attempts) (guards : d.guards = c.guards)
      (handoffs : c.handoffs new ≤ c.handoffs s?.toList)
  | begins (attempts : d.budget.attempts = c.budget.attempts) (down : c.guards = 0)
      (up : d.guards = 1) (left : c.budget.attempts < c.limit) (one : c.handoffs new ≤ 1)
  | retries (attempts : d.budget.attempts = c.budget.attempts + 1) (own : c.handoffs s?.toList = 1)
      (guards : d.guards = c.guards) (left : c.budget.attempts + 1 < c.limit)
      (one : c.handoffs new ≤ 1)
  | settles (attempts : d.budget.attempts = 0) (own : c.handoffs s?.toList = 1)
      (down : d.guards = 0) (none : c.handoffs new = 0)
  | exhausts (attempts : d.budget.attempts = c.budget.attempts + 1)
      (own : c.handoffs s?.toList = 1) (down : d.guards = 0) (none : c.handoffs new = 0)
      (spent : c.limit ≤ c.budget.attempts + 1)

namespace Spends

variable {b c d : Client} {s? : Option Stage} {new : List Stage}

theorem congr (spends : Spends c s? b new) (after : d.core = b.core) : Spends c s? d new := by
  obtain ⟨_, _, session, _, budget, _⟩ := Client.core_eq_iff.mp after
  have guards : d.guards = b.guards :=
    Client.guards_congr (congrArg Session.generation session)
      (congrArg Session.reconnecting session)
  cases spends with
  | nothing attempts same handoffs =>
    exact .nothing (budget ▸ attempts) (guards.trans same) handoffs
  | begins attempts down up left one =>
    exact .begins (budget ▸ attempts) down (guards.trans up) left one
  | retries attempts own same left one =>
    exact .retries (budget ▸ attempts) own (guards.trans same) left one
  | settles attempts own down none =>
    exact .settles (budget ▸ attempts) own (guards.trans down) none
  | exhausts attempts own down none spent =>
    exact .exhausts (budget ▸ attempts) own (guards.trans down) none spent

end Spends

namespace Client

variable {c d : Client} {progress : Progress}

/-- A hand-off that is declined, or spent as soon as it has begun, leaves the budget alone. -/
theorem HandOff.spends {starter : Starter} (s? : Option Stage)
    (handed : c.HandOff c.session.generation starter d progress) :
    Spends c s? d progress.stages := by
  cases handed with
  | busy | skips => exact .nothing rfl rfl (Nat.zero_le _)
  | joins => exact .nothing (by simp) (guards_congr (by simp) (by simp)) (Nat.zero_le _)
  | begins _ duration down connected left =>
    have one : c.handoffs [Stage.scheduled
        ⟨starter, c.session.generation, c.budget.epoch, c.budget.attempts⟩ duration] ≤ 1 :=
      List.countP_le_length
    exact .begins (by simp) (guards_down rfl down) (guards_up rfl) left one
  | spent _ e down connected spent =>
    have cleared : ((c.loseConnection c.session.generation).givenUp c.session.generation
        .failed).guards = 0 :=
      guards_down (by simp) (clearReconnecting_down c.session.generation _)
    exact .nothing (by simp) (cleared.trans (guards_down rfl down).symm) (Nat.zero_le _)

theorem Advance.spends {s : Stage} {p : Purpose} {received : Option SubscriptionId}
    (wants : s.purpose? = some p) (current : c.Current p)
    (advance : c.Advance s received d progress) : Spends c (some s) d progress.stages := by
  have like (s' : Stage) (same : s'.purpose? = some p) : c.handoffs [s'] ≤ c.handoffs [s] := by
    have recovers : s'.recovers c.session.generation = s.recovers c.session.generation := by
      simp only [Stage.recovers, wants, same]
    simp [handoffs, List.countP_cons, recovers]
  have own (h : Handoff) (same : p = .recovering h) :
      h.generation = c.session.generation ∧ c.handoffs [s] = 1 := by
    have generation : h.generation = c.session.generation := by
      rw [current.generation, same]
      rfl
    exact ⟨generation, by simp [handoffs, Stage.recovers_of (same ▸ wants) generation]⟩
  have down (h : Handoff) (same : p = .recovering h) {b : Client}
      (kept : b.session.generation = c.session.generation) :
      (b.clearReconnecting h.generation).guards = 0 := by
    refine guards_down ?_ (clearReconnecting_down h.generation b)
    simpa [(own h same).1] using kept
  cases advance with
  | pauses | asks | asksAtOnce | asksAnew => exact .nothing rfl rfl (like _ wants)
  | takes h duration id owned => exact .nothing rfl rfl (like _ wants)
  | opens generation failed id =>
    exact .nothing (by simp) (guards_congr (by simp) (by simp)) (Nat.zero_le _)
  | refused => exact .nothing rfl rfl (Nat.zero_le _)
  | handsOff generation failed handed =>
    obtain rfl := Option.some.inj wants
    obtain rfl : c.session.generation = generation := current.generation
    exact handed.spends _
  | retries h failed duration left =>
    obtain rfl := Option.some.inj wants
    exact .retries rfl (own h rfl).2 rfl left List.countP_le_length
  | recovers h failed id =>
    obtain rfl := Option.some.inj wants
    exact .settles (by simp) (own h rfl).2 (down h rfl (by simp)) rfl
  | aborts h failed e =>
    obtain rfl := Option.some.inj wants
    exact .settles (by simp) (own h rfl).2 (down h rfl rfl) rfl
  | exhausted h failed e spent =>
    obtain rfl := Option.some.inj wants
    exact .exhausts (by simp) (own h rfl).2 (down h rfl rfl) rfl spent

end Client

/-- Every event but a cleanup spends the budget in one of the ways of `Spends`. -/
theorem Course.spends {c d : Client} {event : Event} {new : List Stage}
    (course : Course c event d new) (lasts : event ≠ .closeSession) :
    Spends c event.stage? d new := by
  cases course with
  | opens idle after =>
    have vacant : c.handoffs [.subscribing (.opening c.session.generation) 0] = 0 := by
      simp [Client.handoffs, Stage.recovers, Stage.purpose?, Purpose.recovers]
    have spends : Spends c none (c.setLifecycle .initializing)
        [.subscribing (.opening c.session.generation) 0] :=
      .nothing rfl rfl (vacant ▸ Nat.zero_le _)
    exact spends.congr after
  | declines after | passes other after | closed after | breaks panicked after =>
    exact (Spends.nothing rfl rfl (Nat.zero_le _)).congr after
  | closes after => exact absurd rfl lasts
  | hands handed after => exact (handed.spends none).congr after
  | advances wants current advance after => exact (advance.spends wants current).congr after
  | @fades s signal p d progress wants stale fade after =>
    refine (Spends.nothing rfl rfl ?_).congr after
    have none : c.handoffs progress.stages = 0 := by
      apply List.countP_eq_zero.mpr
      intro s' mem
      simp [Stage.not_recovers (fade.late s' mem).1 (Ne.symm stale.generation)]
    exact none ▸ Nat.zero_le _
  | serves same =>
    simp only [Client.standing, Prod.mk.injEq] at same
    obtain ⟨_, session, budget⟩ := same
    exact .nothing (congrArg Budget.attempts budget)
      (Client.guards_congr (congrArg Session.generation session)
        (congrArg Session.reconnecting session)) (Nat.zero_le _)

theorem Client.handoffs_congr {c d : Client}
    (generation : d.session.generation = c.session.generation) (stages : List Stage) :
    d.handoffs stages = c.handoffs stages := by
  rw [handoffs, generation, handoffs]

namespace Budgeted

variable {c d : Client} {s? : Option Stage} {stages new rest : List Stage}

theorem perm {others : List Stage} (budgeted : Budgeted c stages) (perm : stages.Perm others) :
    Budgeted c others := by
  obtain ⟨single, bounded, left⟩ := budgeted
  refine ⟨?_, bounded, left⟩
  have same : c.handoffs stages = c.handoffs others := perm.countP_eq _
  rwa [← same]

theorem congr (budgeted : Budgeted c stages) (same : d.standing = c.standing) :
    Budgeted d stages := by
  simp only [Client.standing, Prod.mk.injEq] at same
  obtain ⟨config, session, budget⟩ := same
  obtain ⟨single, bounded, left⟩ := budgeted
  constructor <;> simpa only [Client.handoffs, Client.guards, Client.limit, config, session, budget]

/-- Within a session nobody overspends. -/
theorem next (budgeted : Budgeted c (s?.toList ++ rest)) (spends : Spends c s? d new)
    (config : d.config = c.config)
    (generation : d.session.generation = c.session.generation) : Budgeted d (new ++ rest) := by
  obtain ⟨single, bounded, left⟩ := budgeted
  have limit : d.limit = c.limit := by rw [Client.limit, config, Client.limit]
  have guarded := c.guards_le
  rw [Client.handoffs_append] at single
  have books : d.handoffs (new ++ rest) = c.handoffs new + c.handoffs rest := by
    rw [Client.handoffs_congr generation, Client.handoffs_append]
  cases spends with
  | nothing attempts guards handoffs =>
    refine ⟨by omega, by omega, fun up => ?_⟩
    have := left (guards ▸ up)
    omega
  | begins attempts down up room one => exact ⟨by omega, by omega, fun _ => by omega⟩
  | retries attempts own guards room one => exact ⟨by omega, by omega, fun _ => by omega⟩
  | settles attempts own down none => exact ⟨by omega, by omega, fun up => by omega⟩
  | exhausts attempts own down none spent =>
    have := left (by omega)
    exact ⟨by omega, by omega, fun up => by omega⟩

/-- A new session has its budget in full. -/
theorem reset (aligned : Aligned c (s?.toList ++ rest)) (ids : List SubscriptionId) :
    Budgeted c.reset (ids.map .closing ++ rest) := by
  have idle : c.reset.handoffs (ids.map .closing ++ rest) = 0 := by
    apply List.countP_eq_zero.mpr
    intro s mem
    cases wants : s.purpose? with
    | none => simp [Stage.recovers, wants]
    | some p =>
      have begun := (aligned.outdated ids s mem p wants).2
      simp [Stage.not_recovers wants (Nat.ne_of_lt begun)]
  refine ⟨idle ▸ Nat.zero_le _, Nat.zero_le _, ?_⟩
  intro up
  have down : c.reset.guards = 0 := rfl
  omega

end Budgeted

/-- Every course keeps the budget. -/
theorem Course.budgeted {c d : Client} {event : Event} {new rest : List Stage}
    (aligned : Aligned c (event.stage?.toList ++ rest))
    (budgeted : Budgeted c (event.stage?.toList ++ rest)) (course : Course c event d new) :
    Budgeted d (new ++ rest) := by
  by_cases closes : event = .closeSession
  · subst closes
    cases course with
    | closes after => exact (Budgeted.reset aligned _).congr (Client.standing_of_core after)
  · have generation := course.generation.resolve_right fun closed => closes closed.1
    exact budgeted.next (course.spends closes) course.config generation

end RandomBeacon
