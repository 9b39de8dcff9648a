import RandomBeacon.Scenario.Log
import RandomBeacon.Schedule

/-!
What the tasks with names have come to.
-/

namespace RandomBeacon.Scenario

/-- The end of a task with a name. -/
structure Completion (ρ : Type) where
  name : String
  instant : Nat
  reply : ρ

/-- The named tasks that ended since `before`, in the order of their ends. -/
def completions {σ τ ρ : Type} (names : List (Nat × String))
    (before after : Schedule.Timeline σ τ ρ) : List (Completion ρ) :=
  let ended := (newest before.ended after.ended).filterMap fun e =>
    (names.lookup e.id).map fun name => (⟨name, e.instant, e.result⟩ : Completion ρ)
  ended.mergeSort fun a b => inOrder (a.instant, a.name) (b.instant, b.name)

end RandomBeacon.Scenario
