/-!
How a provider call fails.
-/

namespace RandomBeacon

inductive Fault where
  /-- The transport broke before the ledger saw the call. -/
  | transport (detail : String)
  /-- The ledger refused the call. -/
  | rejected (detail : String)
  /-- The provider itself is at fault. -/
  | internal (detail : String)
  deriving DecidableEq, Repr

namespace Fault

def message : Fault → String
  | transport detail => "transport failure: " ++ detail
  | rejected detail => "rejected by ledger: " ++ detail
  | internal detail => "provider internal error: " ++ detail

/-- Only a broken transport is worth reconnecting over. -/
def isTransport : Fault → Bool
  | transport _ => true
  | _ => false

end Fault

end RandomBeacon
