/-!
Handlers: what a registered handler does when it is invoked, and how the invocation ends.
-/

namespace RandomBeacon

/-- How an invocation of a handler ends. -/
inductive Ending where
  | completed
  | failed (detail : String)
  /-- A panic; its value may be no text. -/
  | panicked (detail : Option String)
  deriving DecidableEq, Repr

/-- Why an invocation counts as failed, if it does. -/
def Ending.failure? : Ending → Option String
  | completed => none
  | failed detail => some detail
  | panicked detail => some ("panic: " ++ detail.getD "handler panicked")

mutual

/-- A handler of events `ε`, known by a name. At each invocation, which are numbered across all
handlers, it first acts and then ends. -/
inductive Handler (ε κ : Type) where
  | mk (name : String) (acts : Nat → ε → List (Act ε κ)) (ends : Nat → ε → Ending)

/-- An act of a handler: it registers another handler, or gives a command. -/
inductive Act (ε κ : Type) where
  | register (handler : Handler ε κ)
  | command (order : κ)

end

namespace Handler

variable {ε κ : Type}

def name : Handler ε κ → String
  | mk name _ _ => name

def acts : Handler ε κ → Nat → ε → List (Act ε κ)
  | mk _ acts _ => acts

def ends : Handler ε κ → Nat → ε → Ending
  | mk _ _ ends => ends

/-- A handler that does the same at every invocation. -/
def steady (name : String) (acts : List (Act ε κ)) (ending : Ending) : Handler ε κ :=
  .mk name (fun _ _ => acts) (fun _ _ => ending)

/-- A handler that only listens. -/
def plain (name : String) : Handler ε κ := steady name [] .completed

end Handler

/-- Runs handlers one after the other. A failed one is reported and passed over; the result
counts the others. -/
def invokeAll {m : Type → Type} [Monad m] {η σ : Type} (invoke : η → σ → m (Ending × σ))
    (report : η → String → σ → σ) : List η → σ → m (Nat × σ)
  | [], s => pure (0, s)
  | h :: rest, s => do
    let (ending, s) ← invoke h s
    match ending.failure? with
    | none =>
      let (completed, s) ← invokeAll invoke report rest s
      pure (completed + 1, s)
    | some reason => invokeAll invoke report rest (report h reason s)

end RandomBeacon
