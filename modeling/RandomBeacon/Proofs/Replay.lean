import RandomBeacon.Proofs.Ledger.Custody
import RandomBeacon.Proofs.Order

/-!
Replays. A list of cues tells the surroundings what to do and when tasks take their turns, and the
oldest task that is ready and permitted is always the next. A replay is a run (`reachable_replay`),
so what the kernel finds in its last state is reachable.
-/

namespace RandomBeacon

variable {π : Type}

/-- What happens next in a replay. -/
inductive Cue (adjusts : π → π → Prop) where
  /-- At most so many turns are taken. -/
  | turns (limit : Nat)
  | pass (duration : Nat)
  | ask (errand : Errand)
  | listen (handler : ClientHandler)
  | adjust (f : π → π) (fits : ∀ p, adjusts p (f p))

/-- Surroundings in which a turn is taken if it passes a check. -/
def Surroundings.limited (adjusts : π → π → Prop) (permits : World π → Work π → Bool) :
    Surroundings π where
  adjusts := adjusts
  permits w work := permits w work = true

theorem Surroundings.apart_limited (adjusts : π → π → Prop) :
    (Surroundings.limited adjusts fun w work => !work.intrudes w).Apart := by
  intro w work permitted
  simpa [limited] using permitted

namespace World.Timeline

variable [Provider π]

/-- The oldest task that is ready and permitted. -/
def upNext? (permits : World π → Work π → Bool) (t : Timeline π) :
    Option (Schedule.Task (Work π)) :=
  t.tasks.find? fun task => t.isReady rules task && permits t.state task.work

/-- Turns of whatever is ready and permitted, so many at most. -/
def takeTurns (permits : World π → Work π → Bool) : Nat → Timeline π → Timeline π
  | 0, t => t
  | limit + 1, t =>
    match t.upNext? permits with
    | none => t
    | some task => takeTurns permits limit (t.fire rules task)

def follow {adjusts : π → π → Prop} (permits : World π → Work π → Bool) (t : Timeline π) :
    Cue adjusts → Timeline π
  | .turns limit => t.takeTurns permits limit
  | .pass duration => { t with now := t.now + duration }
  | .ask errand => t.start errand
  | .listen handler => t.alter fun w => { w with scene := w.scene.listen handler }
  | .adjust f _ => t.alter fun w => { w with provider := f w.provider }

def replay {adjusts : π → π → Prop} (permits : World π → Work π → Bool) (cues : List (Cue adjusts))
    (t : Timeline π) : Timeline π :=
  cues.foldl (follow permits) t

variable {adjusts : π → π → Prop} {permits : World π → Work π → Bool}

theorem reachable_takeTurns (limit : Nat) (t : Timeline π) :
    Reachable (.limited adjusts permits) t (t.takeTurns permits limit) := by
  induction limit generalizing t with
  | zero => exact .start
  | succ limit ih =>
    unfold takeTurns
    cases found : t.upNext? permits with
    | none => exact .start
    | some task =>
      have mem : task ∈ t.tasks := List.mem_of_find?_eq_some found
      have up : (t.isReady rules task && permits t.state task.work) = true := by
        simpa using List.find?_some found
      obtain ⟨ready, permitted⟩ := Bool.and_eq_true_iff.mp up
      exact (Reachable.start.next (.turn task mem ready permitted)).trans (ih _)

theorem reachable_follow (t : Timeline π) (cue : Cue adjusts) :
    Reachable (.limited adjusts permits) t (t.follow permits cue) := by
  cases cue with
  | turns limit => exact reachable_takeTurns limit t
  | pass duration => exact .next .start (.pass _ (Nat.le_add_right _ _))
  | ask errand => exact .next .start (.ask errand)
  | listen handler => exact .next .start (.listen handler)
  | adjust f fits => exact .next .start (.adjust _ (fits _))

/-- A replay is a run. -/
theorem reachable_replay (cues : List (Cue adjusts)) (t : Timeline π) :
    Reachable (.limited adjusts permits) t (t.replay permits cues) := by
  induction cues generalizing t with
  | nil => exact .start
  | cons cue rest ih => exact (reachable_follow t cue).trans (ih _)

end World.Timeline

section Trials

/-- A configuration for replays: every delay is a tenth of a second. -/
def Config.trial (maxAttempts : Nat) : Config where
  requestTimeout := 5000
  reconnection := { maxAttempts, baseDelay := 100, maxDelay := 100, jitter := false }

/-- A client for replays that has done nothing yet. -/
def World.Timeline.trial (maxAttempts : Nat) (provider : π) : World.Timeline π :=
  fresh (.trial maxAttempts) (fun _ => .one) provider fun _ => .replicate 9 (Suffix.pick 0)

/-- A ledger for replays whose rounds are blank. -/
def Simulated.trial (behavior : Behavior) : Simulated where
  behavior := behavior
  contents _ := ⟨.replicate 32 0, .replicate 16 0, .replicate 64 0⟩

def Cue.behave (behavior : Behavior) : Cue Simulated.Adjusts :=
  .adjust (fun l => { l with behavior }) fun _ => ⟨behavior, rfl⟩

def Cue.script (script : Script) : Cue Scripted.Adjusts :=
  .adjust (fun p => { p with script }) fun _ => ⟨script, rfl⟩

end Trials

end RandomBeacon
