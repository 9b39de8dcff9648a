import RandomBeacon.Proofs.Course

/-!
The guard of a session is up exactly while a hand-off of it is under way, and nothing is left in a
state of transition: a session that is reconnecting has a hand-off under way, one that is
initializing an opening (`Guarded`). Operations of one generation may overlap and overwrite each
other's lifecycle; what carries the invariant through every course (`Course.guarded`) is that each
end of an operation moves the lifecycle out of the states of transition, or leaves it to a hand-off
that is still under way.
-/

namespace RandomBeacon

/-- Whether a subscription is wanted for a hand-off of `generation`. -/
def Purpose.recovers (generation : Nat) : Purpose → Bool
  | opening _ => false
  | recovering h => h.generation = generation

/-- Whether a subscription is wanted for an opening of `generation`, which may have handed its
lost connection to reconnection. -/
def Purpose.initializes (generation : Nat) : Purpose → Bool
  | opening g => g = generation
  | recovering h => h.generation = generation ∧ h.starter = .opening

def Stage.recovers (generation : Nat) (s : Stage) : Bool :=
  s.purpose?.any (·.recovers generation)

def Stage.initializes (generation : Nat) (s : Stage) : Bool :=
  s.purpose?.any (·.initializes generation)

/-- How many guards of the session at hand are up. -/
def Client.guards (c : Client) : Nat :=
  if c.session.reconnecting = some c.session.generation then 1 else 0

/-- How many hand-offs of the session at hand are under way. -/
def Client.handoffs (c : Client) (stages : List Stage) : Nat :=
  stages.countP (·.recovers c.session.generation)

/-- The guard and the lifecycle of a session agree with the operations that are under way. -/
structure Guarded (c : Client) (stages : List Stage) : Prop where
  exact : c.handoffs stages = c.guards
  reconnecting : c.session.lifecycle = .reconnecting → c.guards = 1
  initializing : c.session.lifecycle = .initializing →
    ∃ s ∈ stages, s.initializes c.session.generation

theorem Client.handoffs_append (c : Client) (a b : List Stage) :
    c.handoffs (a ++ b) = c.handoffs a + c.handoffs b :=
  List.countP_append

theorem Client.guards_le (c : Client) : c.guards ≤ 1 := by
  unfold guards
  split <;> omega

theorem Client.guards_up {c : Client} (up : c.session.reconnecting = some c.session.generation) :
    c.guards = 1 :=
  if_pos up

theorem Client.guards_down {c : Client} {generation : Nat}
    (same : c.session.generation = generation)
    (down : c.session.reconnecting ≠ some generation) : c.guards = 0 :=
  if_neg (same ▸ down)

theorem Client.guards_congr {c d : Client}
    (generation : d.session.generation = c.session.generation)
    (guard : d.session.reconnecting = c.session.reconnecting) : d.guards = c.guards := by
  simp only [guards, generation, guard]

/-- A hand-off that has ended has taken its guard down. -/
theorem Client.clearReconnecting_down (generation : Nat) (c : Client) :
    (c.clearReconnecting generation).session.reconnecting ≠ some generation := by
  unfold clearReconnecting
  split
  · simp
  · assumption

theorem Stage.not_recovers {s : Stage} {p : Purpose} (wants : s.purpose? = some p) {g : Nat}
    (other : p.generation ≠ g) : s.recovers g = false := by
  cases p with
  | opening => simp [recovers, wants, Purpose.recovers]
  | recovering h =>
    have : h.generation ≠ g := other
    simp [recovers, wants, Purpose.recovers, this]

theorem Stage.not_initializes {s : Stage} {p : Purpose} (wants : s.purpose? = some p) {g : Nat}
    (other : p.generation ≠ g) : s.initializes g = false := by
  cases p with
  | opening generation =>
    have : generation ≠ g := other
    simp [initializes, wants, Purpose.initializes, this]
  | recovering h =>
    have : h.generation ≠ g := other
    simp [initializes, wants, Purpose.initializes, this]

namespace Guarded

variable {c d : Client} {s? : Option Stage} {s : Stage} {p : Purpose} {stages new rest : List Stage}

theorem perm {others : List Stage} (guarded : Guarded c stages) (perm : stages.Perm others) :
    Guarded c others := by
  obtain ⟨exact, reconnecting, initializing⟩ := guarded
  refine ⟨?_, reconnecting, ?_⟩
  · exact (perm.countP_eq _).symm.trans exact
  · intro l
    obtain ⟨s, mem, opening⟩ := initializing l
    exact ⟨s, perm.mem_iff.mp mem, opening⟩

theorem congr (guarded : Guarded c stages) (same : d.standing = c.standing) :
    Guarded d stages := by
  simp only [Client.standing, Prod.mk.injEq] at same
  obtain ⟨_, session, _⟩ := same
  obtain ⟨exact, reconnecting, initializing⟩ := guarded
  constructor <;> simpa only [Client.handoffs, Client.guards, session]

/-- The books of hand-offs and guards balance, and no state of transition is left behind. -/
theorem next (s? : Option Stage) (new : List Stage) (guarded : Guarded c (s?.toList ++ rest))
    (generation : d.session.generation = c.session.generation)
    (balance : c.handoffs new + c.guards = c.handoffs s?.toList + d.guards)
    (reconnecting : d.session.lifecycle = .reconnecting → d.guards = 1)
    (initializing : d.session.lifecycle = .initializing →
      ∃ s ∈ new ++ rest, s.initializes c.session.generation) : Guarded d (new ++ rest) := by
  have books := guarded.exact
  rw [Client.handoffs_append] at books
  refine ⟨?_, reconnecting, ?_⟩
  · have same : d.handoffs (new ++ rest) = c.handoffs (new ++ rest) := by
      rw [Client.handoffs, generation, Client.handoffs]
    rw [same, Client.handoffs_append]
    omega
  · rwa [generation]

/-- An operation goes on in another stage, for the same purpose or nearly so. -/
theorem moved {s' : Stage} (guarded : Guarded c (s :: rest))
    (generation : d.session.generation = c.session.generation)
    (recovers : s'.recovers c.session.generation = s.recovers c.session.generation)
    (initializes : s'.initializes c.session.generation = s.initializes c.session.generation)
    (guards : d.guards = c.guards)
    (lifecycle : d.session.lifecycle = c.session.lifecycle) : Guarded d (s' :: rest) := by
  refine guarded.next (some s) [s'] generation ?_ ?_ ?_
  · have same : c.handoffs [s'] = c.handoffs [s] := by
      simp [Client.handoffs, List.countP_cons, recovers]
    rw [guards, same]
    rfl
  · rw [guards, lifecycle]
    exact guarded.reconnecting
  · intro l
    obtain ⟨t, mem, opening⟩ := guarded.initializing (lifecycle ▸ l)
    rcases List.mem_cons.mp mem with rfl | old
    · exact ⟨s', by simp, initializes.trans opening⟩
    · exact ⟨t, List.mem_cons_of_mem _ old, opening⟩

/-- A hand-off begins, or is declined. -/
theorem handsOff (s? : Option Stage) {starter : Starter} {progress : Progress}
    (guarded : Guarded c (s?.toList ++ rest)) (opens : c.handoffs s?.toList = 0)
    (opening : starter = .lostCall → s? = none)
    (handed : c.HandOff c.session.generation starter d progress) :
    Guarded d (progress.stages ++ rest) := by
  cases handed with
  | busy up =>
    obtain rfl := opening rfl
    exact guarded
  | joins up result =>
    have guards : (c.transition c.session.generation .initializing .uninitialized).guards =
        c.guards :=
      Client.guards_congr (by simp) (by simp)
    refine guarded.next _ [] (by simp) ?_ ?_ ?_
    · rw [opens, guards]
      rfl
    · intro _
      rw [guards, Client.guards_up up]
    · intro l
      simp only [Client.transition_session, true_and] at l
      split at l
      · cases l
      · rename_i idle
        exact absurd l idle
  | skips _ e down idle =>
    refine guarded.next _ [] rfl ?_ guarded.reconnecting (fun l => absurd l idle.2)
    rw [opens]
    rfl
  | begins _ duration down connected left =>
    have up : (c.loseConnection c.session.generation).delayed.guards = 1 := Client.guards_up rfl
    refine guarded.next _ _ (by simp) ?_ (fun _ => up) (by simp)
    rw [opens, up, Client.guards_down rfl down]
    simp [Client.handoffs, Progress.stages, Stage.recovers, Stage.purpose?, Purpose.recovers]
  | spent _ e down connected spent =>
    have cleared : ((c.loseConnection c.session.generation).givenUp c.session.generation
        .failed).guards = 0 :=
      Client.guards_down (by simp) (Client.clearReconnecting_down c.session.generation _)
    refine guarded.next _ [] (by simp) ?_ (by simp) (by simp)
    rw [opens, cleared, Client.guards_down rfl down]
    rfl

/-- An opening ends without a hand-off. -/
theorem opened (guarded : Guarded c (s :: rest)) (opens : c.handoffs [s] = 0)
    (generation : d.session.generation = c.session.generation)
    (guard : d.session.reconnecting = c.session.reconnecting)
    (settled : d.session.lifecycle ≠ .reconnecting ∧ d.session.lifecycle ≠ .initializing) :
    Guarded d rest := by
  refine guarded.next (some s) [] generation ?_ (fun l => absurd l settled.1)
    (fun l => absurd l settled.2)
  rw [Client.guards_congr generation guard, Option.toList_some, opens]
  rfl

/-- A hand-off ends: its guard comes down, and the session is in no state of transition. -/
theorem ends (guarded : Guarded c (s :: rest))
    (recovers : s.recovers c.session.generation = true)
    (generation : d.session.generation = c.session.generation)
    (down : d.session.reconnecting ≠ some c.session.generation)
    (settled : d.session.lifecycle ≠ .reconnecting ∧ d.session.lifecycle ≠ .initializing) :
    Guarded d rest := by
  have books := guarded.exact
  have one : c.handoffs [s] = 1 := by simp [Client.handoffs, recovers]
  rw [← List.singleton_append, Client.handoffs_append, one] at books
  have up := c.guards_le
  refine guarded.next (some s) [] generation ?_ (fun l => absurd l settled.1)
    (fun l => absurd l settled.2)
  rw [Option.toList_some, one, Client.guards_down generation down]
  simp only [Client.handoffs, List.countP_nil] at books ⊢
  omega

/-- The guard is up exactly while a hand-off of the session at hand is under way. -/
theorem up_iff (guarded : Guarded c stages) :
    c.session.reconnecting = some c.session.generation ↔
      ∃ s ∈ stages, s.recovers c.session.generation := by
  have exact : stages.countP (·.recovers c.session.generation) = c.guards := guarded.exact
  constructor
  · intro up
    apply List.countP_pos_iff.mp
    rw [exact, Client.guards_up up]
    exact Nat.one_pos
  · intro some
    by_contra down
    have positive := List.countP_pos_iff.mpr some
    rw [exact, Client.guards_down rfl down] at positive
    exact Nat.lt_irrefl 0 positive

theorem reconnects (guarded : Guarded c stages) (l : c.session.lifecycle = .reconnecting) :
    ∃ s ∈ stages, s.recovers c.session.generation := by
  apply List.countP_pos_iff.mp
  have exact : stages.countP (·.recovers c.session.generation) = c.guards := guarded.exact
  rw [exact, guarded.reconnecting l]
  exact Nat.one_pos

/-- Where no operation of the session is under way, it is in no state of transition. -/
theorem settled (guarded : Guarded c stages)
    (idle : ∀ s ∈ stages, s.recovers c.session.generation = false ∧
      s.initializes c.session.generation = false) :
    c.session.lifecycle = .uninitialized ∨ c.session.lifecycle = .ready ∨
      c.session.lifecycle = .failed := by
  cases l : c.session.lifecycle with
  | uninitialized | ready | failed => simp
  | reconnecting =>
    obtain ⟨s, mem, recovers⟩ := guarded.reconnects l
    rw [(idle s mem).1] at recovers
    cases recovers
  | initializing =>
    obtain ⟨s, mem, opening⟩ := guarded.initializing l
    rw [(idle s mem).2] at opening
    cases opening

end Guarded

theorem Stage.recovers_of {s : Stage} {h : Handoff} (wants : s.purpose? = some (.recovering h))
    {g : Nat} (same : h.generation = g) : s.recovers g = true := by
  simp [recovers, wants, Purpose.recovers, same]

theorem Stage.recovers_opening {s : Stage} {generation : Nat}
    (wants : s.purpose? = some (.opening generation)) (g : Nat) : s.recovers g = false := by
  simp [recovers, wants, Purpose.recovers]

theorem Client.Advance.guarded {c d : Client} {s : Stage} {p : Purpose}
    {received : Option SubscriptionId} {progress : Progress} {rest : List Stage}
    (guarded : Guarded c (s :: rest)) (wants : s.purpose? = some p) (current : c.Current p)
    (advance : c.Advance s received d progress) : Guarded d (progress.stages ++ rest) := by
  have like (s' : Stage) (same : s'.purpose? = some p) : Guarded c (s' :: rest) :=
    guarded.moved rfl (by simp only [Stage.recovers, wants, same])
      (by simp only [Stage.initializes, wants, same]) rfl rfl
  have idle (generation : Nat) (same : p = .opening generation) : c.handoffs [s] = 0 := by
    simp [handoffs, Stage.recovers_opening (same ▸ wants)]
  have own (h : Handoff) (same : p = .recovering h) : h.generation = c.session.generation := by
    rw [current.generation, same]
    rfl
  have closes (h : Handoff) (same : p = .recovering h) : s.recovers c.session.generation = true :=
    Stage.recovers_of (same ▸ wants) (own h same)
  have down (h : Handoff) (same : p = .recovering h) (b : Client) :
      (b.clearReconnecting h.generation).session.reconnecting ≠ some c.session.generation :=
    own h same ▸ clearReconnecting_down h.generation b
  cases advance with
  | pauses | asks | asksAtOnce | asksAnew => exact like _ wants
  | takes h duration id owned =>
    exact (like (.dropping h id) wants).moved (d := c.disowned) rfl rfl rfl rfl rfl
  | retries h failed duration left =>
    exact guarded.moved (d := (c.withAttempts (c.budget.attempts + 1)).delayed) rfl rfl rfl rfl rfl
  | opens generation failed id =>
    obtain rfl := Option.some.inj wants
    exact guarded.opened (idle generation rfl) (by simp) (by simp) (by simp)
  | refused generation failed e =>
    obtain rfl := Option.some.inj wants
    exact guarded.opened (idle generation rfl) rfl rfl (by simp)
  | handsOff generation failed handed =>
    obtain rfl := Option.some.inj wants
    obtain rfl : c.session.generation = generation := current.generation
    exact Guarded.handsOff (some _) guarded (idle _ rfl) (by simp) handed
  | recovers h | exhausted h | aborts h =>
    obtain rfl := Option.some.inj wants
    exact guarded.ends (closes h rfl) (by simp) (down h rfl _) (by simp)

/-- Operations of closed sessions count for nothing. -/
theorem Guarded.faded {c : Client} {s : Stage} {p : Purpose} {received : Option SubscriptionId}
    {progress : Progress} {rest : List Stage} (guarded : Guarded c (s :: rest))
    (wants : s.purpose? = some p) (other : p.generation ≠ c.session.generation)
    (fade : Client.Fades p received progress) : Guarded c (progress.stages ++ rest) := by
  have none : c.handoffs [s] = 0 := by
    simp [Client.handoffs, Stage.not_recovers wants other]
  refine guarded.next (some s) _ rfl ?_ guarded.reconnecting ?_
  · have faded : c.handoffs progress.stages = 0 := by
      apply List.countP_eq_zero.mpr
      intro s' mem
      simp [Stage.not_recovers (fade.late s' mem).1 other]
    rw [Option.toList_some, none, faded]
  · intro l
    obtain ⟨t, mem, opening⟩ := guarded.initializing l
    rcases List.mem_cons.mp mem with rfl | old
    · rw [Stage.not_initializes wants other] at opening
      cases opening
    · exact ⟨t, List.mem_append_right _ old, opening⟩

/-- A new session has no hand-offs. -/
theorem Guarded.reset {c : Client} {s? : Option Stage} {rest : List Stage}
    (aligned : Aligned c (s?.toList ++ rest)) (ids : List SubscriptionId) :
    Guarded c.reset (ids.map .closing ++ rest) := by
  refine ⟨?_, ?_, ?_⟩
  · rw [Client.guards_down rfl (by simp [Client.reset, Client.recordPending])]
    apply List.countP_eq_zero.mpr
    intro s mem
    cases wants : s.purpose? with
    | none => simp [Stage.recovers, wants]
    | some p =>
      have earlier := (aligned.outdated ids s mem p wants).2
      simp [Stage.not_recovers wants (Nat.ne_of_lt earlier)]
  · rintro ⟨⟩
  · rintro ⟨⟩

/-- Every course keeps the guard exact, as long as the provider does not panic. -/
theorem Course.guarded {c d : Client} {event : Event} {new rest : List Stage}
    (aligned : Aligned c (event.stage?.toList ++ rest))
    (guarded : Guarded c (event.stage?.toList ++ rest)) (course : Course c event d new)
    (steady : ∀ s signal, event = .resume s signal → s.panicked signal = false) :
    Guarded d (new ++ rest) := by
  cases course with
  | opens idle after =>
    refine (guarded.next none _ (d := c.setLifecycle .initializing) rfl ?_ (by simp) ?_).congr
      (Client.standing_of_core after)
    · rfl
    · intro _
      exact ⟨_, List.mem_cons_self, by
        simp [Stage.initializes, Stage.purpose?, Purpose.initializes]⟩
  | declines after | passes other after => exact guarded.congr (Client.standing_of_core after)
  | serves same => exact guarded.congr same
  | breaks panicked after =>
    rw [steady _ _ rfl] at panicked
    cases panicked
  | closed after =>
    refine (guarded.next (some _) [] (d := c) rfl rfl guarded.reconnecting ?_).congr
      (Client.standing_of_core after)
    intro l
    obtain ⟨t, mem, opening⟩ := guarded.initializing l
    rcases List.mem_cons.mp mem with rfl | old
    · cases opening
    · exact ⟨t, old, opening⟩
  | closes after => exact (Guarded.reset aligned _).congr (Client.standing_of_core after)
  | hands handed after =>
    exact (guarded.handsOff none rfl (fun _ => rfl) handed).congr
      (Client.standing_of_core after)
  | advances wants current advance after =>
    exact (advance.guarded guarded wants current).congr (Client.standing_of_core after)
  | fades wants stale fade after =>
    exact (guarded.faded wants (Ne.symm stale.generation) fade).congr
      (Client.standing_of_core after)

end RandomBeacon
