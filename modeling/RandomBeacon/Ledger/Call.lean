import RandomBeacon.Ledger.Fault
import RandomBeacon.Notice

/-!
Calls to a ledger provider, and what a provider is: something that takes up a call, spends some
time on it and then settles it.
-/

namespace RandomBeacon

inductive Call where
  | submit (op : Operation) (address : String)
  | query (q : Query) (address : String)
  | subscribe (topic : Topic) (address : String)
  | unsubscribe (id : SubscriptionId)
  | chain
  | account
  deriving DecidableEq, Repr

/-- What a call returns when it succeeds. -/
abbrev Call.Reply : Call → Type
  | submit _ _ => Receipt
  | query _ _ => Lookup
  | subscribe _ _ => SubscriptionId
  | unsubscribe _ => Unit
  | chain => ChainId
  | account => Account

/-- How a call ends. -/
inductive Outcome (α : Type) where
  | returned (value : α)
  | failed (fault : Fault)
  /-- The provider panicked; the value of the panic may be no text. -/
  | panicked (detail : Option String)
  deriving DecidableEq, Repr

/-- A round that a provider will draw and publish by itself. -/
structure Publication (π : Type) where
  delay : Nat
  draw : π → Round × π

/-- The end of a wait: its result, the provider after it, and what it leaves behind. -/
structure Settlement (π β : Type) where
  provider : π
  result : β
  notices : List Notice := []
  publication : Option (Publication π) := none

/-- A wait: how long it takes, and its end. -/
structure Pending (π β : Type) where
  delay : Nat
  finish : π → Settlement π β

namespace Pending

variable {σ π β : Type}

/-- A wait for the clock alone. -/
def timer (π : Type) (delay : Nat) : Pending π Unit :=
  ⟨delay, fun p => { provider := p, result := () }⟩

/-- A wait at a part of a larger provider. -/
def within (part : π → σ) (replace : σ → π → π) (p : Pending σ β) : Pending π β where
  delay := p.delay
  finish whole :=
    let s := p.finish (part whole)
    { provider := replace s.provider whole
      result := s.result
      notices := s.notices
      publication := s.publication.map fun publication =>
        { delay := publication.delay
          draw := fun whole =>
            let (round, rest) := publication.draw (part whole)
            (round, replace rest whole) } }

end Pending

class Provider (π : Type) where
  /-- Takes up a call. -/
  start : (c : Call) → π → Pending π (Outcome c.Reply) × π
  /-- Takes note of a round that is published. -/
  store : Round → π → List Notice × π
  /-- The subscriptions to which a published round is delivered. -/
  held : π → List SubscriptionId

end RandomBeacon
