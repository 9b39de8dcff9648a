import Mathlib.Data.List.Nodup
import RandomBeacon.Registry.Basic

/-!
Numbers of handlers. In a numbered registry each number names one handler at most, and none that is
there will be given again; whatever handlers change leaves it so (`Numbered.amend`).
-/

namespace RandomBeacon

variable {η : Type}

section Entries

variable {entries : List (Registration η)} {entry : Registration η}

theorem numbers_snoc (numbers : (entries.map (·.number)).Nodup)
    (given : ∀ other ∈ entries, other.number < entry.number) :
    ((entries ++ [entry]).map (·.number)).Nodup := by
  rw [List.map_append, List.nodup_append]
  refine ⟨numbers, by simp, ?_⟩
  intro number old other new
  obtain ⟨earlier, mem, rfl⟩ := List.mem_map.mp old
  rw [List.map_singleton, List.mem_singleton] at new
  exact new ▸ Nat.ne_of_lt (given earlier mem)

theorem given_snoc (given : ∀ other ∈ entries, other.number < entry.number) :
    ∀ other ∈ entries ++ [entry], other.number < entry.number + 1 := by
  intro other mem
  rcases List.mem_append.mp mem with old | new
  · exact Nat.lt_succ_of_lt (given other old)
  · rw [List.mem_singleton.mp new]
    exact Nat.lt_succ_self _

end Entries

/-- A change that a handler can make of the registry in which it stands. -/
inductive Amendment (η : Type) where
  | subscribes (handler : η)
  | removes (number : Nat)
  | clears

namespace Registry

variable {r : Registry η}

def amend (r : Registry η) : Amendment η → Registry η
  | .subscribes handler => r.subscribe .randomnessPublished handler
  | .removes number => r.unsubscribe number
  | .clears => r.clear

/-- The registry after these changes, one after the other. -/
def amended (r : Registry η) (changes : List (Amendment η)) : Registry η := changes.foldl amend r

theorem amended_append (changes more : List (Amendment η)) :
    r.amended (changes ++ more) = (r.amended changes).amended more :=
  List.foldl_append

structure Numbered (r : Registry η) : Prop where
  distinct : (r.entries.map (·.number)).Nodup
  given : ∀ entry ∈ r.entries, entry.number < r.issued

theorem Numbered.amend (numbered : r.Numbered) (change : Amendment η) :
    (r.amend change).Numbered := by
  cases change with
  | subscribes handler =>
    exact ⟨numbers_snoc numbered.distinct numbered.given, given_snoc numbered.given⟩
  | removes number =>
    exact ⟨numbered.distinct.sublist (List.filter_sublist.map _),
      fun entry mem => numbered.given entry (List.mem_of_mem_filter mem)⟩
  | clears => exact ⟨List.nodup_nil, by rintro entry ⟨⟩⟩

theorem Numbered.amended (numbered : r.Numbered) (changes : List (Amendment η)) :
    (r.amended changes).Numbered := by
  induction changes generalizing r with
  | nil => exact numbered
  | cons change rest ih => exact ih (numbered.amend change)

theorem contains_iff {number : Nat} :
    r.contains number = true ↔ number ∈ r.entries.map (·.number) := by
  simp [contains]

/-- To remove what is not there changes nothing. -/
theorem unsubscribe_absent {number : Nat} (absent : r.contains number = false) :
    r.unsubscribe number = r := by
  have kept : r.entries.filter (·.number ≠ number) = r.entries := by
    refine List.filter_eq_self.mpr fun entry mem => ?_
    simpa using List.any_eq_false.mp absent entry mem
  rw [unsubscribe, kept]

end Registry

end RandomBeacon
