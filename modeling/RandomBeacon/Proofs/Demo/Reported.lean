import Mathlib.Tactic.SplitIfs
import RandomBeacon.Proofs.Demo.InOrder
import RandomBeacon.Proofs.Resolution
import RandomBeacon.Proofs.Wire.RoundTrip

/-!
What the demonstration reports (`rounds_reported_once`). The number of requests is read as a word,
so there is a number for each round, and an accepted configuration leaves the session some patience;
nothing else is asked of them. What is printed of a result is its JSON text, and tells all of it
(`read?_printed`).
-/

namespace RandomBeacon

theorem Config.acceptable_of_validate {c d : Config} (accepted : c.validate = .ok d) :
    d.Acceptable := by
  by_cases acceptable : c.Acceptable
  · have passes : c.validate = .ok c := acceptable
    obtain rfl := Except.ok.inj (passes.symm.trans accepted)
    exact acceptable
  · rw [validate_of_not_acceptable acceptable] at accepted
    cases accepted

namespace Demo

/-- The configuration that the demonstration runs with has passed every check. -/
theorem acceptable_of_resolve {file : Option Config.File} {address : Option String}
    {config : Config} (accepted : resolve file address = .ok config) : config.Acceptable := by
  cases file with
  | none =>
    simp only [resolve, bind, Except.bind] at accepted
    exact Config.acceptable_of_validate accepted
  | some file =>
    simp only [resolve, bind, Except.bind] at accepted
    cases own : Config.load file with
    | error e =>
      rw [own] at accepted
      cases accepted
    | ok c =>
      rw [own] at accepted
      exact Config.acceptable_of_validate accepted

section Arguments

variable {s value : String} {n : Nat} {o o' : Options} {key : Key} {seen : List Key}
  {arguments : List String}

theorem number?_lt (read : number? s = some n) : n < UInt64.size := by
  simp only [number?] at read
  split_ifs at read with empty small
  obtain rfl := Option.some.inj read
  exact small

/-- No value asks for more requests than there are numbers for rounds. -/
theorem Options.set?_requests (few : o.requests < UInt64.size) (read : o.set? key value = some o') :
    o'.requests < UInt64.size := by
  cases key with
  | config =>
    rw [set?] at read
    split at read
    · cases read
    · obtain rfl := Option.some.inj read
      exact few
  | beaconAddress =>
    obtain rfl := Option.some.inj read
    exact few
  | requests =>
    obtain ⟨n, number, rfl⟩ := Option.map_eq_some_iff.mp read
    exact number?_lt number
  | publishDelay =>
    obtain ⟨n, _, rfl⟩ := Option.map_eq_some_iff.mp read
    exact few
  | metrics => cases read
  | help => cases read

theorem readFrom_requests (few : o.requests < UInt64.size)
    (read : readFrom seen o arguments = .run o') : o'.requests < UInt64.size := by
  fun_induction readFrom seen o arguments with
  | case1 | case2 =>
    obtain rfl := Demand.run.inj read
    exact few
  | case9 _ _ _ _ _ _ _ _ ih => exact ih few read
  | case11 _ _ _ _ _ _ _ _ _ _ _ set ih => exact ih (Options.set?_requests few set) read
  | case16 _ _ _ _ _ _ _ _ _ _ _ _ set ih => exact ih (Options.set?_requests few set) read
  | _ => cases read

/-- No command line asks for more requests than there are numbers for rounds. -/
theorem requests_lt (read : readArguments arguments = .run o) : o.requests < UInt64.size :=
  readFrom_requests (by decide) read

end Arguments

/-- A printed result tells the result. -/
theorem read?_printed (r : Randomness) : Wire.read? (printed r) = some r :=
  r.faithful.read?_pretty

/-- What is reported of so many requests, given what the callbacks have heard: one result for each
of the rounds, in the order of their numbers, which is what was delivered for that round; and what
the beacon knows of the last one is the same. -/
structure Reported (requests : Nat) (heard : List (String × Randomness)) (c : Collection) :
    Prop where
  numbers : c.rounds.map (·.number.toNat) = (List.range requests).map (· + 1)
  delivered : ∀ r, r ∈ c.rounds ↔ ∃ name, (name, r) ∈ heard
  verified : c.verified = c.rounds.getLast?

/-- What a session is given whose command line has these options. -/
def Options.plan (o : Options) (config : Config) (chance : Chance) : Plan :=
  ⟨config, o.requests, o.publishDelay, chance⟩

section Sessions

variable {p : Plan} (feasible : p.Feasible) (patient : 0 < p.config.requestTimeout)
include feasible

theorem At.reported {turns : Nat} {result : Except Failure Collection} {t : Timeline}
    {inbox : List Randomness} (here : At p ⟨.ended result, t, inbox⟩ turns) :
    result = .ok p.collection ∧
    Reported p.requests t.state.scene.host.heard p.collection := by
  obtain ⟨is, all⟩ := here.ended_all
  exact ⟨is, Plan.results_numbers feasible, fun r => Plan.mem_results.trans (all.results r).symm,
    rfl⟩

include patient

/-- A session goes on until it has ended with its report, and that is soon. -/
theorem Path.reports {k : Nat} {s : State} (path : Path p p.start k s) :
    k ≤ (p.requests + 1) * (5 * p.requests + 10) + p.requests + 6 ∧
    ((∃ t, Step p s t) ∨ s.standing = .ended (.ok p.collection) ∧
      Reported p.requests s.timeline.state.scene.host.heard p.collection) := by
  obtain ⟨standing, t, inbox⟩ := s
  obtain ⟨turns, here, bound⟩ := path.bounded feasible patient
  refine ⟨Nat.le_trans (Nat.le_add_right _ _) bound, ?_⟩
  rcases here.progress feasible with goes | rfl
  · exact .inl goes
  · exact .inr ⟨rfl, (here.reported feasible).2⟩

end Sessions

/-- A run of the demonstration whose command line is read and whose configuration is accepted ends
with exit code 0 and prints one result for each request, and each is read back from what is printed
for it. However its callbacks run and its results overtake one another, a session makes so many
steps at most, goes on until it has ended, and ends with the same report. The listener for metrics
is no part of a run, so this says nothing of one that cannot be started. -/
theorem rounds_reported_once {files : String → Config.File} {chance : Chance}
    {arguments : List String} {o : Options} {config : Config}
    (asked : readArguments arguments = .run o)
    (accepted : resolve (o.config.map files) o.beaconAddress = .ok config) :
    ∃ c, run files chance arguments = .finished c ∧ (run files chance arguments).code = 0 ∧
      (run files chance arguments).output =
        String.join (c.rounds.map fun r => printed r ++ "\n") ∧
      (∀ r ∈ c.rounds, Wire.read? (printed r) = some r) ∧
      (∃ k s, Path (o.plan config chance) (o.plan config chance).start k s ∧
        s.standing = .ended (.ok c) ∧
        Reported o.requests s.timeline.state.scene.host.heard c) ∧
      ∀ k s, Path (o.plan config chance) (o.plan config chance).start k s →
        k ≤ (o.requests + 1) * (5 * o.requests + 10) + o.requests + 6 ∧
        ((∃ t, Step (o.plan config chance) s t) ∨
          s.standing = .ended (.ok c) ∧
          Reported o.requests s.timeline.state.scene.host.heard c) := by
  have feasible : (o.plan config chance).Feasible := requests_lt asked
  have patient : 0 < (o.plan config chance).config.requestTimeout :=
    Nat.pos_of_ne_zero ((acceptable_of_resolve accepted).not_afflicts .zeroRequestTimeout)
  obtain ⟨k, ⟨_, t, inbox⟩, c, path, rfl, completed⟩ := session_path feasible patient
  obtain ⟨turns, here, _⟩ := path.bounded feasible patient
  obtain ⟨is, report⟩ := here.reported feasible
  obtain rfl := Except.ok.inj is
  have same : session config o.requests o.publishDelay chance = _ := completed
  have runs : run files chance arguments = .finished (o.plan config chance).collection := by
    simp only [run, asked, accepted, same]
  rw [runs]
  exact ⟨_, rfl, rfl, rfl, fun r _ => read?_printed r, ⟨k, _, path, rfl, report⟩,
    fun k s path => path.reports feasible patient⟩

/-- Nothing is left to chance. -/
def Chance.still : Chance where
  contents _ := ⟨.replicate 32 0, .replicate 16 0, .replicate 64 0⟩
  suffixes _ := .replicate 9 (Suffix.pick 0)
  factors _ := .one

theorem rounds_reported_once_two :
    ∃ c, run (fun _ => .missing) .still ["-n", "2", "--publish-delay-ms", "5"] = .finished c ∧
      (run (fun _ => .missing) .still ["-n", "2", "--publish-delay-ms", "5"]).code = 0 ∧
      c.rounds.map (·.number.toNat) = [1, 2] ∧ c.verified = c.rounds.getLast? ∧
      ∀ r ∈ c.rounds, Wire.read? (printed r) = some r := by
  have asked : readArguments ["-n", "2", "--publish-delay-ms", "5"] =
      .run { requests := 2, publishDelay := 5 } := by decide +kernel
  have accepted : resolve none none = .ok { beaconAddress := defaultAddress } :=
    (resolve_of_acceptable rfl default_acceptable none).trans default_acceptable
  obtain ⟨c, finished, code, _, told, ⟨_, _, _, _, numbers, _, verified⟩, _⟩ :=
    rounds_reported_once asked accepted
  exact ⟨c, finished, code, numbers, verified, told⟩

end Demo

end RandomBeacon
