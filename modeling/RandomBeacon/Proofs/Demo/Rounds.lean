import Mathlib.Data.List.Nodup
import Mathlib.Data.List.Perm.Subperm
import RandomBeacon.Proofs.Demo.Interleaving

/-!
The rounds that a session of the demonstration is about. What it has taken up together with what is
on its way are copies of the results drawn so far, at least one of each (`Told`). So it has as many
results as requests only when it has one for every round (`Told.report_eq`).
-/

namespace RandomBeacon.Demo

namespace Plan

variable (p : Plan)

/-- The round that the beacon draws after `k` others. -/
def round (k : Nat) : Round :=
  ⟨UInt64.ofNat (k + 1), (p.chance.contents k).value, (p.chance.contents k).nonce,
    (p.chance.contents k).attestation.toList⟩

/-- What is delivered for that round. -/
def result (k : Nat) : Randomness := (p.round k).result

/-- The results of all rounds, in the order of their numbers. -/
def results : List Randomness := (List.range p.requests).map p.result

/-- A request for each of the rounds is possible. -/
def Feasible : Prop := p.requests < UInt64.size

variable {p} {j k : Nat}

theorem mem_results {r : Randomness} : r ∈ p.results ↔ ∃ k < p.requests, p.result k = r := by
  simp [results]

/-- The last of the results is that of the last round. -/
theorem getLast?_results (p : Plan) : p.requests = 0 ∧ p.results.getLast? = none ∨
    ∃ k, p.requests = k + 1 ∧ p.results.getLast? = some (p.result k) := by
  cases many : p.requests with
  | zero =>
    left
    simp [results, many]
  | succ k =>
    right
    refine ⟨k, rfl, ?_⟩
    rw [results, many, List.range_succ, List.map_append]
    exact List.getLast?_concat

section Numbers

variable (feasible : p.Feasible)
include feasible

theorem number_toNat (within : k < p.requests) : (p.round k).number.toNat = k + 1 :=
  UInt64.toNat_ofNat_of_lt' (Nat.lt_of_le_of_lt within feasible)

theorem number_inj (first : j < p.requests) (second : k < p.requests)
    (same : (p.round j).number = (p.round k).number) : j = k := by
  have numbers := congrArg UInt64.toNat same
  rw [number_toNat feasible first, number_toNat feasible second] at numbers
  exact Nat.succ.inj numbers

theorem results_pairwise : p.results.Pairwise fun a b => a.number < b.number := by
  rw [results, List.pairwise_map]
  refine List.pairwise_lt_range.imp_of_mem ?_
  intro j k first second less
  have numbers : (p.round j).number.toNat < (p.round k).number.toNat := by
    rw [number_toNat feasible (List.mem_range.mp first),
      number_toNat feasible (List.mem_range.mp second)]
    exact Nat.succ_lt_succ less
  exact UInt64.lt_iff_toNat_lt.mpr numbers

theorem results_numbers : p.results.map (·.number.toNat) = (List.range p.requests).map (· + 1) := by
  rw [results, List.map_map]
  exact List.map_congr_left fun k mem => number_toNat feasible (List.mem_range.mp mem)

end Numbers

end Plan

/-- What the session has taken up, and what is on its way to it, when so many rounds have been
drawn. -/
structure Told (p : Plan) (drawn : Nat) (rounds inbox : List Randomness) : Prop where
  known : ∀ r ∈ rounds ++ inbox, ∃ k < drawn, r = p.result k
  all : ∀ k < drawn, p.result k ∈ rounds ++ inbox
  once : (rounds.map (·.number)).Nodup

namespace Told

variable {p : Plan} {drawn : Nat} {rounds inbox rest : List Randomness} {r : Randomness}

theorem nothing (p : Plan) : Told p 0 [] [] := ⟨nofun, nofun, .nil⟩

theorem perm (told : Told p drawn rounds inbox) {others : List Randomness}
    (perm : others.Perm inbox) : Told p drawn rounds others := by
  have same := perm.append_left rounds
  exact ⟨fun r mem => told.known r (same.mem_iff.mp mem),
    fun k less => same.mem_iff.mpr (told.all k less), told.once⟩

/-- Copies of the next result are on their way. -/
theorem publish (told : Told p drawn rounds inbox) {copies : Nat} (some : copies ≠ 0) :
    Told p (drawn + 1) rounds (inbox ++ .replicate copies (p.result drawn)) := by
  refine ⟨?_, ?_, told.once⟩
  · intro r mem
    rw [← List.append_assoc] at mem
    rcases List.mem_append.mp mem with old | new
    · obtain ⟨k, less, is⟩ := told.known r old
      exact ⟨k, Nat.lt_succ_of_lt less, is⟩
    · exact ⟨drawn, Nat.lt_succ_self _, (List.mem_replicate.mp new).2⟩
  · intro k less
    rw [← List.append_assoc]
    rcases Nat.lt_succ_iff_lt_or_eq.mp less with earlier | rfl
    · exact List.mem_append_left _ (told.all k earlier)
    · exact List.mem_append_right _ (List.mem_replicate.mpr ⟨some, rfl⟩)

/-- What has been taken up are results of rounds drawn so far. -/
theorem subperm (told : Told p drawn rounds inbox) :
    rounds.Subperm ((List.range drawn).map p.result) := by
  refine List.subperm_of_subset (List.Nodup.of_map _ told.once) ?_
  intro r mem
  obtain ⟨k, less, rfl⟩ := told.known r (List.mem_append_left _ mem)
  exact List.mem_map.mpr ⟨k, List.mem_range.mpr less, rfl⟩

theorem length_le (told : Told p drawn rounds inbox) : rounds.length ≤ drawn := by
  simpa using told.subperm.length_le

section Rounds

variable (feasible : p.Feasible) (within : drawn ≤ p.requests)
include feasible within

/-- Results with one number are the same. -/
theorem unique (told : Told p drawn rounds inbox) {a b : Randomness} (first : a ∈ rounds ++ inbox)
    (second : b ∈ rounds ++ inbox) (same : a.number = b.number) : a = b := by
  obtain ⟨j, less, rfl⟩ := told.known a first
  obtain ⟨k, less', rfl⟩ := told.known b second
  rw [Plan.number_inj feasible (Nat.lt_of_lt_of_le less within) (Nat.lt_of_lt_of_le less' within)
    same]

/-- The next result is taken up, if it is not a copy. -/
theorem take (told : Told p drawn rounds (r :: rest)) (wants : ¬p.requests ≤ rounds.length) :
    Told p drawn (gather p.requests rounds [r]) rest := by
  have here : r ∈ rounds ++ r :: rest := List.mem_append_right _ List.mem_cons_self
  rw [gather, if_neg wants]
  split
  next copy =>
    obtain ⟨old, mem, same⟩ := List.any_eq_true.mp copy
    obtain rfl : old = r :=
      told.unique feasible within (List.mem_append_left _ mem) here (of_decide_eq_true same)
    refine ⟨fun x mem' => told.known x ?_, fun k less => ?_, told.once⟩
    · rcases List.mem_append.mp mem' with taken | waits
      · exact List.mem_append_left _ taken
      · exact List.mem_append_right _ (List.mem_cons_of_mem _ waits)
    · rcases List.mem_append.mp (told.all k less) with taken | waits
      · exact List.mem_append_left _ taken
      · rcases List.mem_cons.mp waits with is | later
        · exact List.mem_append_left _ (is ▸ mem)
        · exact List.mem_append_right _ later
  next new =>
    rw [gather]
    have moved : (rounds ++ r :: rest).Perm (r :: rounds ++ rest) := List.perm_middle
    refine ⟨fun x mem => told.known x (moved.mem_iff.mpr mem),
      fun k less => moved.mem_iff.mp (told.all k less), ?_⟩
    rw [List.map_cons, List.nodup_cons]
    refine ⟨?_, told.once⟩
    intro before
    obtain ⟨old, mem, same⟩ := List.mem_map.mp before
    exact new (List.any_eq_true.mpr ⟨old, mem, decide_eq_true same⟩)

/-- While nothing is on its way, there is a result for each round that has been drawn. -/
theorem drawn_le (told : Told p drawn rounds []) : drawn ≤ rounds.length := by
  have inside : ((List.range drawn).map p.result).Subperm rounds := by
    refine List.subperm_of_subset ?_ ?_
    · refine List.Nodup.map_on ?_ List.nodup_range
      intro j first k second same
      exact Plan.number_inj feasible
        (Nat.lt_of_lt_of_le (List.mem_range.mp first) within)
        (Nat.lt_of_lt_of_le (List.mem_range.mp second) within)
        (congrArg Randomness.number same)
    · intro r mem
      obtain ⟨k, less, rfl⟩ := List.mem_map.mp mem
      simpa using told.all k (List.mem_range.mp less)
  simpa using inside.length_le

/-- As many results as requests are the results of all rounds. -/
theorem report_eq (told : Told p drawn rounds inbox) (enough : p.requests ≤ rounds.length) :
    drawn = p.requests ∧
    rounds.mergeSort (fun a b => a.number ≤ b.number) = p.results := by
  obtain rfl : drawn = p.requests := Nat.le_antisymm within (Nat.le_trans enough told.length_le)
  refine ⟨rfl, ?_⟩
  have all : rounds.Perm p.results := told.subperm.perm_of_length_le (by simpa using enough)
  have same := (List.mergeSort_perm rounds fun a b => a.number ≤ b.number).trans all
  refine @List.Perm.eq_of_pairwise _ (fun a b => a.number ≤ b.number) _ _ ?_ ?_ ?_ same
  · intro a b first second le ge
    have inside : a ∈ p.results := same.mem_iff.mp first
    obtain ⟨j, less, rfl⟩ := Plan.mem_results.mp inside
    obtain ⟨k, less', rfl⟩ := Plan.mem_results.mp second
    rw [Plan.number_inj feasible less less' (UInt64.le_antisymm le ge)]
  · refine (List.pairwise_mergeSort ?_ ?_ rounds).imp of_decide_eq_true
    · intro a b c first second
      exact decide_eq_true (UInt64.le_trans (of_decide_eq_true first) (of_decide_eq_true second))
    · intro a b
      simpa using UInt64.le_total a.number b.number
  · exact (Plan.results_pairwise feasible).imp UInt64.le_of_lt

end Rounds

end Told

end RandomBeacon.Demo
