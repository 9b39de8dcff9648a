import Mathlib.Data.List.Perm.Basic
import RandomBeacon.Ledger.Call

/-!
What is asked of a provider: that its calls return (`Steady`), and that it keeps faith with the
subscriptions it holds (`Custodian`). A subscription may be granted when the call is taken up or
when it ends, and released at either time; a call that fails leaves things as they are, and nothing
else that a provider does touches a subscription.
-/

namespace RandomBeacon

/-- Whether a call may change which subscriptions are held. -/
def Call.isSession : Call → Bool
  | .subscribe _ _ | .unsubscribe _ => true
  | _ => false

namespace Provider

variable {π : Type} [Provider π]

/-- A wait that the provider gave for a call. -/
def Gave (c : Call) (pending : Pending π (Outcome c.Reply)) : Prop :=
  ∃ p : π, pending = (start c p).1

/-- A round that a call left to be published. -/
def Left (draw : π → Round × π) : Prop :=
  ∃ (c : Call) (p q : π) (publication : Publication π),
    ((start c p).1.finish q).publication = some publication ∧ draw = publication.draw

/-- A provider whose subscribe and unsubscribe calls return, with a result or a fault, after
whatever delay. -/
structure Steady (π : Type) [Provider π] : Prop where
  subscribe : ∀ (topic : Topic) (address : String) (p q : π) (detail : Option String),
    ((start (.subscribe topic address) p).1.finish q).result ≠ .panicked detail
  unsubscribe : ∀ (id : SubscriptionId) (p q : π) (detail : Option String),
    ((start (.unsubscribe id) p).1.finish q).result ≠ .panicked detail

variable (given : π → SubscriptionId → Prop)

/-- The same subscriptions are held, and no name is forgotten. -/
structure Keeps (p q : π) : Prop where
  held : held q = held p
  names : ∀ id, given p id → given q id

/-- One more subscription is held, under a name that was never given before. -/
structure Grants (id : SubscriptionId) (p q : π) : Prop where
  fresh : ¬given p id
  held : (held q).Perm (id :: held p)
  names : ∀ other, given p other → given q other
  named : given q id

/-- A subscription may be held no longer; the others are. -/
structure Parts (id : SubscriptionId) (p q : π) : Prop where
  held : held q = held p ∨ held q = (held p).filter (· ≠ id)
  names : ∀ other, given p other → given q other

/-- A subscribe call that has been granted already. -/
def Prompt (id : SubscriptionId) (pending : Pending π (Outcome SubscriptionId)) : Prop :=
  ∀ q, (pending.finish q).result = .returned id ∧ Keeps given q (pending.finish q).provider

/-- A subscribe call that is granted when it ends, if at all. -/
def Late (pending : Pending π (Outcome SubscriptionId)) : Prop :=
  ∀ q, (∃ id, (pending.finish q).result = .returned id ∧
      Grants given id q (pending.finish q).provider) ∨
    ((∀ id, (pending.finish q).result ≠ .returned id) ∧
      Keeps given q (pending.finish q).provider)

/-- What a provider promises about the subscriptions that it holds, whatever names it has `given`
out. A `reliable` one never refuses to release a subscription. -/
structure Custodian (adjusts : π → π → Prop) (reliable : Prop) : Prop where
  adjusts : ∀ p q, adjusts p q → Keeps given p q
  stores : ∀ r p, Keeps given p (store r p).2
  draws : ∀ draw, Left draw → ∀ p, Keeps given p (draw p).2
  serves : ∀ c : Call, c.isSession = false → ∀ p,
    Keeps given p (start c p).2 ∧ ∀ q, Keeps given q ((start c p).1.finish q).provider
  subscribes : ∀ topic address p,
    (∃ id, Grants given id p (start (.subscribe topic address) p).2 ∧
      Prompt given id (start (.subscribe topic address) p).1) ∨
    (Keeps given p (start (.subscribe topic address) p).2 ∧
      Late given (start (.subscribe topic address) p).1)
  unsubscribes : ∀ id (p : π),
    Parts given id p (start (.unsubscribe id) p).2 ∧
    ∀ q, Parts given id q ((start (.unsubscribe id) p).1.finish q).provider
  releases : ∀ id (p : π),
    id ∉ held (start (.unsubscribe id) p).2 ∨
    ∀ q, ((start (.unsubscribe id) p).1.finish q).result = .returned () →
      id ∉ held ((start (.unsubscribe id) p).1.finish q).provider
  complies : reliable → ∀ id (p : π), id ∈ held p →
    ∀ q, ((start (.unsubscribe id) p).1.finish q).result = .returned ()

end Provider

end RandomBeacon
