import RandomBeacon.Failure
import RandomBeacon.Ledger.Call
import RandomBeacon.Text.Quoted

/-!
A provider call against a deadline. The call runs on its own; whoever waits for it gets its end or,
if the deadline comes first, nothing, and then the call goes on unheard.
-/

namespace RandomBeacon

/-- What the one who waits for a call gets. -/
inductive Raced (α : Type) where
  | ended (outcome : Outcome α)
  | expired
  deriving DecidableEq, Repr

/-- Why a call that panicked gave no answer. -/
def abortReason (detail : Option String) : String :=
  "task # panicked" ++ detail.elim "" fun text => " with message " ++ quoted text

namespace Raced

/-- The answer of a call, which may be a fault, unless it panicked or came too late. -/
def answer {α : Type} (deadline : Nat) : Raced α → Except Failure (Except Fault α)
  | ended (.returned a) => .ok (.ok a)
  | ended (.failed fault) => .ok (.error fault)
  | ended (.panicked detail) =>
    .error (.network (some (.internal ("provider call aborted: " ++ abortReason detail))))
  | expired => .error (.timeout (1000 * deadline))

/-- What the end of the wait gives notice of. -/
def notices {α : Type} : Raced α → List Notice
  | ended (.panicked detail) => [.callAborted (abortReason detail)]
  | _ => []

end Raced

end RandomBeacon
