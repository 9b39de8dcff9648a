import RandomBeacon.Config.Validation

/-!
What the checks of a configuration report (`Config.report_problems`): every problem that the
configuration has, each once, in the order of the checks.
-/

namespace RandomBeacon

namespace ConfigProblem

/-- Whether a configuration has a problem, with the values that the problem tells of. -/
def Afflicts (c : Config) : ConfigProblem → Prop
  | emptyBeaconAddress => isBlank c.beaconAddress = true
  | zeroRequestTimeout => c.requestTimeout = 0
  | zeroMaxAttempts => c.reconnection.maxAttempts = 0
  | zeroBaseDelay => c.reconnection.baseDelay = 0
  | maxDelayBelowBase base cap =>
    base = c.reconnection.baseDelay ∧ cap = c.reconnection.maxDelay ∧ cap < base
  | invalidMultiplier x => x = c.reconnection.multiplier ∧ (x.isFinite = false ∨ x.lt .one = true)

/-- The place of a problem's check among the checks. -/
def place : ConfigProblem → Nat
  | emptyBeaconAddress => 0
  | zeroRequestTimeout => 1
  | zeroMaxAttempts => 2
  | zeroBaseDelay => 3
  | maxDelayBelowBase _ _ => 4
  | invalidMultiplier _ => 5

/-- Problems in the order of their checks, all of them of the first `n` checks. -/
structure Ordered (n : Nat) (ps : List ConfigProblem) : Prop where
  pairwise : ps.Pairwise fun p q => p.place < q.place
  within : ∀ p ∈ ps, p.place < n

theorem Ordered.nil : Ordered 0 [] where
  pairwise := .nil
  within := nofun

/-- The next check may add its problem. -/
theorem Ordered.check {ps : List ConfigProblem} (p : ConfigProblem) (ordered : Ordered p.place ps)
    (found : Prop) [Decidable found] : Ordered (p.place + 1) (ps ++ if found then [p] else []) := by
  split
  next =>
    refine ⟨List.pairwise_append.mpr ⟨ordered.pairwise, List.pairwise_singleton _ _, ?_⟩, ?_⟩
    · intro q earlier r last
      rw [List.mem_singleton.mp last]
      exact ordered.within q earlier
    · intro q member
      rcases List.mem_append.mp member with earlier | last
      · exact Nat.lt_succ_of_lt (ordered.within q earlier)
      · rw [List.mem_singleton.mp last]
        exact Nat.lt_succ_self _
  next =>
    rw [List.append_nil]
    exact ⟨ordered.pairwise, fun q member => Nat.lt_succ_of_lt (ordered.within q member)⟩

end ConfigProblem

namespace Config

open ConfigProblem

variable {c : Config}

theorem mem_problems (c : Config) (p : ConfigProblem) : p ∈ c.problems ↔ p.Afflicts c := by
  simp only [problems, List.mem_append, List.mem_ite_nil_right, List.mem_singleton]
  cases p with
  | emptyBeaconAddress => simp [Afflicts]
  | zeroRequestTimeout => simp [Afflicts]
  | zeroMaxAttempts => simp [Afflicts]
  | zeroBaseDelay => simp [Afflicts]
  | maxDelayBelowBase base cap =>
    simp only [Afflicts, reduceCtorEq, and_false, or_false, false_or, maxDelayBelowBase.injEq]
    constructor
    · rintro ⟨below, rfl, rfl⟩
      exact ⟨rfl, rfl, below⟩
    · rintro ⟨rfl, rfl, below⟩
      exact ⟨below, rfl, rfl⟩
  | invalidMultiplier x =>
    simp only [Afflicts, reduceCtorEq, and_false, or_false, false_or, invalidMultiplier.injEq,
      Bool.or_eq_true, Bool.not_eq_true']
    constructor
    · rintro ⟨wrong, rfl⟩
      exact ⟨rfl, wrong⟩
    · rintro ⟨rfl, wrong⟩
      exact ⟨wrong, rfl⟩

theorem problems_ordered (c : Config) : Ordered 6 c.problems := by
  have address := Ordered.nil.check emptyBeaconAddress (isBlank c.beaconAddress = true)
  have timeout := address.check zeroRequestTimeout (c.requestTimeout = 0)
  have attempts := timeout.check zeroMaxAttempts (c.reconnection.maxAttempts = 0)
  have base := attempts.check zeroBaseDelay (c.reconnection.baseDelay = 0)
  have cap := base.check (maxDelayBelowBase c.reconnection.baseDelay c.reconnection.maxDelay)
    (c.reconnection.maxDelay < c.reconnection.baseDelay)
  exact cap.check (invalidMultiplier _) _

/-- A list of problems is the report on a configuration: it has every problem of the
configuration and no others, each once and in the order of the checks. -/
structure Report (c : Config) (ps : List ConfigProblem) : Prop where
  mem_iff : ∀ p, p ∈ ps ↔ p.Afflicts c
  ordered : ps.Pairwise fun p q => p.place < q.place

theorem report_problems (c : Config) : c.Report c.problems :=
  ⟨c.mem_problems, c.problems_ordered.pairwise⟩

/-- A configuration that passes every check. -/
def Acceptable (c : Config) : Prop := c.validate = .ok c

theorem acceptable_iff : c.Acceptable ↔ c.problems = [] := by
  rw [Acceptable, validate]
  split
  next none => exact iff_of_true rfl (List.isEmpty_iff.mp none)
  next some => exact iff_of_false nofun fun none => some (List.isEmpty_iff.mpr none)

theorem validate_of_not_acceptable (refused : ¬c.Acceptable) :
    c.validate = .error (.invalid c.problems) := by
  rw [acceptable_iff, ← List.isEmpty_iff] at refused
  exact if_neg refused

theorem Acceptable.not_afflicts (accepted : c.Acceptable) (p : ConfigProblem) : ¬p.Afflicts c := by
  intro afflicted
  have reported := (c.mem_problems p).mpr afflicted
  rw [acceptable_iff.mp accepted] at reported
  cases reported

end Config

end RandomBeacon
