import RandomBeacon.Notice

/-!
The log of a scenario: notices with their instants, as lines in a fixed order.
-/

namespace RandomBeacon.Scenario

/-- What has come to the head of a list since it was `before`, the oldest first. -/
def newest {α : Type} (before after : List α) : List α :=
  (after.take (after.length - before.length)).reverse

/-- The fields whose values differ from run to run. -/
def variableFields : List String := ["request_id", "subscription", "registration"]

/-- One line of the log; generated names are left out. -/
def logLine (instant : Nat) (n : Notice) : String :=
  let field : String × String → String := fun (key, value) =>
    " " ++ key ++ "=" ++ (if variableFields.contains key then "<id>" else value)
  toString instant ++ " " ++ n.level.label ++ " " ++ n.message ++ String.join (n.fields.map field)

/-- Puts earlier entries first, and of one instant the lesser text. -/
def inOrder (a b : Nat × String) : Bool :=
  a.1 < b.1 || (a.1 = b.1 && (a.2 < b.2 || a.2 = b.2))

/-- The lines of the notices that are at least as grave as `level`. -/
def logLines (level : Option Level) (notices : List (Nat × Notice)) : List String :=
  match level with
  | none => []
  | some level =>
    (notices.filter fun (_, n) => n.level.rank ≤ level.rank)
      |>.map (fun (instant, n) => (instant, logLine instant n))
      |>.mergeSort inOrder |>.map (·.2)

end RandomBeacon.Scenario
