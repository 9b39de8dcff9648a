import RandomBeacon.Ledger.Call

/-!
A provider that follows a script: per method a queue of entries, each with a delay and an outcome.
Every call takes the first entry of its queue; the last one stays.
-/

namespace RandomBeacon

structure ScriptEntry (α : Type) where
  delay : Nat := 0
  outcome : Outcome α

structure Script where
  submit : List (ScriptEntry Receipt) := []
  query : List (ScriptEntry Lookup) := []
  subscribe : List (ScriptEntry Unit) := []
  unsubscribe : List (ScriptEntry Unit) := []
  chain : List (ScriptEntry ChainId) := []
  account : List (ScriptEntry Account) := []

structure Scripted where
  script : Script := {}
  /-- The subscriptions held. -/
  subscriptions : List SubscriptionId := []
  /-- How many subscriptions have been granted. -/
  granted : Nat := 0

namespace Scripted

/-- The entry that a call takes from its queue, and the queue after it. -/
def take {α : Type} (fallback : α) : List (ScriptEntry α) → ScriptEntry α × List (ScriptEntry α)
  | [] => (⟨0, .returned fallback⟩, [])
  | [last] => (last, [last])
  | entry :: rest => (entry, rest)

/-- The name of the subscription granted after `n` others. -/
def subscriptionName (n : Nat) : SubscriptionId := ⟨"sub" ++ toString (n + 1)⟩

/-- A wait for an outcome that leaves the provider as it is. -/
def pending {α : Type} (entry : ScriptEntry α) : Pending Scripted (Outcome α) :=
  ⟨entry.delay, fun p => { provider := p, result := entry.outcome }⟩

def settleSubscription (outcome : Outcome Unit) (p : Scripted) :
    Settlement Scripted (Outcome SubscriptionId) :=
  match outcome with
  | .returned () =>
    let id := subscriptionName p.granted
    { provider := { p with subscriptions := p.subscriptions ++ [id], granted := p.granted + 1 }
      result := .returned id }
  | .failed fault => { provider := p, result := .failed fault }
  | .panicked detail => { provider := p, result := .panicked detail }

/-- A failed release leaves the subscription in place. -/
def settleRelease (id : SubscriptionId) (outcome : Outcome Unit) (p : Scripted) :
    Settlement Scripted (Outcome Unit) where
  provider := match outcome with
    | .returned () => { p with subscriptions := p.subscriptions.filter (· ≠ id) }
    | _ => p
  result := outcome

def start : (c : Call) → Scripted → Pending Scripted (Outcome c.Reply) × Scripted
  | .submit _ _, p =>
    let (entry, rest) := take { success := true } p.script.submit
    (pending entry, { p with script := { p.script with submit := rest } })
  | .query _ _, p =>
    let (entry, rest) := take {} p.script.query
    (pending entry, { p with script := { p.script with query := rest } })
  | .subscribe _ _, p =>
    let (entry, rest) := take () p.script.subscribe
    (⟨entry.delay, settleSubscription entry.outcome⟩,
      { p with script := { p.script with subscribe := rest } })
  | .unsubscribe id, p =>
    let (entry, rest) := take () p.script.unsubscribe
    (⟨entry.delay, settleRelease id entry.outcome⟩,
      { p with script := { p.script with unsubscribe := rest } })
  | .chain, p =>
    let (entry, rest) := take ⟨"script-chain"⟩ p.script.chain
    (pending entry, { p with script := { p.script with chain := rest } })
  | .account, p =>
    let (entry, rest) := take ⟨"", 0⟩ p.script.account
    (pending entry, { p with script := { p.script with account := rest } })

instance : Provider Scripted where
  start := start
  store _ p := ([], p)
  held := Scripted.subscriptions

end Scripted

end RandomBeacon
