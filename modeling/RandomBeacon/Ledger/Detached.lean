import RandomBeacon.Ledger.Call

/-!
Calls that run apart from whoever waits for them, and the answers they leave.
-/

namespace RandomBeacon

inductive Detached where
  | submit (op : Operation)
  | query (q : Query)
  deriving DecidableEq, Repr

/-- What a detached call returns when it succeeds. -/
abbrev Detached.Reply : Detached → Type
  | submit _ => Receipt
  | query _ => Lookup

/-- How a detached call ended. -/
inductive Answer where
  | submitted (outcome : Outcome Receipt)
  | looked (outcome : Outcome Lookup)
  deriving DecidableEq, Repr

namespace Detached

def answer : (d : Detached) → Outcome d.Reply → Answer
  | submit _, outcome => .submitted outcome
  | query _, outcome => .looked outcome

end Detached

end RandomBeacon
