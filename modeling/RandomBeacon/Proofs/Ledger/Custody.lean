import RandomBeacon.Ledger.Scripted
import RandomBeacon.Ledger.Simulated
import RandomBeacon.Proofs.Ledger.Promise

/-!
The simulated ledger and the scripted provider keep their promises. Both name each subscription
once. The ledger grants and releases when a call is taken up, and it releases every subscription
that it holds when asked to, whatever its behavior; the script grants and releases when a call
ends, and may refuse.
-/

namespace RandomBeacon

open Provider

/-- A name made of a stem and a number tells the number. -/
theorem numbered_injective (stem : String) {m n : Nat}
    (same : stem ++ toString m = stem ++ toString n) : m = n := by
  have digits : (toString m).toList = (toString n).toList :=
    congrArg String.toList ((String.append_right_inj stem).mp same)
  simp only [Nat.toString_eq_repr, Nat.toList_repr] at digits
  have value := congrArg (Nat.ofDigitChars 10 · 0) digits
  simpa only [Nat.ofDigitChars_ten_toDigits] using value

namespace Simulated

/-- The names that a ledger has given out. -/
def Given (l : Simulated) (id : SubscriptionId) : Prop := ∃ n < l.granted, id = subscriptionName n

/-- The behavior of a ledger may be changed at any time. -/
def Adjusts (l m : Simulated) : Prop := ∃ behavior, m = { l with behavior }

theorem not_given (l : Simulated) : ¬l.Given (subscriptionName l.granted) := by
  rintro ⟨n, less, same⟩
  have := numbered_injective _ (congrArg SubscriptionId.text same)
  omega

theorem audience_unsubscribe (id : SubscriptionId) (l : Simulated) :
    audience (l.unsubscribe id).2 = l.audience ∨
    audience (l.unsubscribe id).2 = l.audience.filter (· ≠ id) := by
  unfold unsubscribe
  simp only
  split
  · right
    simp [audience, List.filter_map, List.filter_filter, Function.comp_def]
  · exact Or.inl rfl

theorem not_mem_audience_unsubscribe (id : SubscriptionId) (l : Simulated) :
    id ∉ audience (l.unsubscribe id).2 := by
  unfold unsubscribe
  simp only
  split
  · simp [audience]
  · rename_i unknown
    simp only [audience, List.mem_map, List.mem_filter]
    rintro ⟨entry, ⟨mem, _⟩, rfl⟩
    exact unknown (List.any_eq_true.mpr ⟨entry, mem, by simp⟩)

theorem unsubscribe_returns {id : SubscriptionId} {l : Simulated} (mem : id ∈ l.audience) :
    (l.unsubscribe id).1 = .returned () := by
  obtain ⟨entry, inside, rfl⟩ := List.mem_map.mp mem
  have known : l.subscriptions.any (·.1 = entry.1) = true :=
    List.any_eq_true.mpr ⟨entry, List.mem_of_mem_filter inside, by simp⟩
  simp [unsubscribe, known]

theorem unsubscribe_granted (id : SubscriptionId) (l : Simulated) :
    (l.unsubscribe id).2.granted = l.granted := by
  unfold unsubscribe
  simp only
  split <;> rfl

/-- The calls of a ledger return. -/
theorem steady : Steady Simulated := by
  constructor
  · intro topic address p q detail
    simp only [Provider.start, start, atOnce, subscribe]
    split <;> simp
  · intro id p q detail
    simp only [Provider.start, start, atOnce, unsubscribe]
    split <;> simp

theorem keeps_of_eq {l m : Simulated} (subscriptions : m.subscriptions = l.subscriptions)
    (granted : m.granted = l.granted) : Keeps Given l m := by
  constructor
  · simp only [Provider.held, audience, subscriptions]
  · intro id named
    simpa only [Given, granted] using named

theorem subscribe_keeps {topic : Topic} {address : String} {l : Simulated} {fault : Fault}
    (refuses : (SubscribeFailure.next l.behavior.subscribeFailure).1 = some fault) :
    Keeps Given l (Provider.start (.subscribe topic address) l).2 ∧
    Late Given (Provider.start (.subscribe topic address) l).1 := by
  simp only [Provider.start, start, subscribe, refuses]
  exact ⟨keeps_of_eq rfl rfl, fun q => Or.inr ⟨by simp [atOnce], keeps_of_eq rfl rfl⟩⟩

theorem subscribe_grants {topic : Topic} {address : String} {l : Simulated}
    (accepts : (SubscribeFailure.next l.behavior.subscribeFailure).1 = none) :
    Grants Given (subscriptionName l.granted) l (Provider.start (.subscribe topic address) l).2 ∧
    Prompt Given (subscriptionName l.granted) (Provider.start (.subscribe topic address) l).1 := by
  simp only [Provider.start, start, subscribe, accepts]
  refine ⟨⟨l.not_given, ?_, ?_, ?_⟩, fun q => ⟨rfl, keeps_of_eq rfl rfl⟩⟩
  · have topics (t : Topic) : t = .randomnessPublished := by cases t; rfl
    simp only [Provider.held, audience, topics, decide_true, List.filter_true, List.map_append]
    exact List.perm_append_comm
  · rintro id ⟨n, less, same⟩
    exact ⟨n, Nat.lt_succ_of_lt less, same⟩
  · exact ⟨l.granted, Nat.lt_succ_self _, rfl⟩

/-- A call of a ledger that leaves a round to be published leaves the next draw. -/
theorem left_draw {draw : Simulated → Round × Simulated} (left : Left draw) :
    draw = Simulated.draw := by
  obtain ⟨c, p, q, publication, leaves, rfl⟩ := left
  cases c with
  | submit op address =>
    obtain ⟨requestId, timestamp⟩ := op
    simp only [Provider.start, start, settleSubmission] at leaves
    split at leaves
    · cases leaves
    · split at leaves
      · cases leaves
      · obtain ⟨delay, _, rfl⟩ := Option.map_eq_some_iff.mp leaves
        rfl
  | query q address => cases q; cases leaves
  | subscribe | unsubscribe | chain | account => cases leaves

/-- A ledger keeps faith with its subscriptions, and never refuses to release one. -/
theorem custodian : Custodian Given Adjusts True where
  adjusts := by
    rintro l _ ⟨behavior, rfl⟩
    exact keeps_of_eq rfl rfl
  stores r l := keeps_of_eq rfl rfl
  draws := by
    intro draw left l
    rw [left_draw left]
    exact keeps_of_eq rfl rfl
  serves := by
    intro c other l
    cases c with
    | submit op address =>
      obtain ⟨requestId, timestamp⟩ := op
      refine ⟨keeps_of_eq rfl rfl, fun q => ?_⟩
      simp only [Provider.start, start, settleSubmission]
      split
      · exact keeps_of_eq rfl rfl
      · split <;> exact keeps_of_eq rfl rfl
    | query q address =>
      cases q
      exact ⟨keeps_of_eq rfl rfl, fun q => keeps_of_eq rfl rfl⟩
    | chain | account => exact ⟨keeps_of_eq rfl rfl, fun q => keeps_of_eq rfl rfl⟩
    | subscribe | unsubscribe => cases other
  subscribes := by
    intro topic address l
    cases fault : (SubscribeFailure.next l.behavior.subscribeFailure).1 with
    | some fault' => exact Or.inr (subscribe_keeps fault)
    | none => exact Or.inl ⟨_, subscribe_grants fault⟩
  unsubscribes := by
    intro id l
    refine ⟨⟨audience_unsubscribe id l, ?_⟩, fun q => ⟨Or.inl rfl, fun _ named => named⟩⟩
    intro other named
    have granted : (Provider.start (.unsubscribe id) l).2.granted = l.granted :=
      unsubscribe_granted id l
    simpa only [Given, granted] using named
  releases id l := Or.inl (not_mem_audience_unsubscribe id l)
  complies _ id l mem q := unsubscribe_returns mem

end Simulated

namespace Scripted

/-- The names that a scripted provider has given out. -/
def Given (p : Scripted) (id : SubscriptionId) : Prop := ∃ n < p.granted, id = subscriptionName n

/-- The script may be changed at any time. -/
def Adjusts (p q : Scripted) : Prop := ∃ script, q = { p with script }

theorem not_given (p : Scripted) : ¬p.Given (subscriptionName p.granted) := by
  rintro ⟨n, less, same⟩
  have := numbered_injective _ (congrArg SubscriptionId.text same)
  omega

theorem keeps_of_eq {p q : Scripted} (subscriptions : q.subscriptions = p.subscriptions)
    (granted : q.granted = p.granted) : Keeps Given p q := by
  constructor
  · exact subscriptions
  · intro id named
    simpa only [Given, granted] using named

theorem settleSubscription_late (outcome : Outcome Unit) (delay : Nat) :
    Late Given
      (⟨delay, settleSubscription outcome⟩ : Pending Scripted (Outcome SubscriptionId)) := by
  intro p
  cases outcome with
  | returned =>
    refine Or.inl ⟨_, rfl, p.not_given, List.perm_append_comm, ?_, ?_⟩
    · rintro id ⟨n, less, same⟩
      exact ⟨n, Nat.lt_succ_of_lt less, same⟩
    · exact ⟨p.granted, Nat.lt_succ_self _, rfl⟩
  | failed fault => exact Or.inr ⟨by simp [settleSubscription], keeps_of_eq rfl rfl⟩
  | panicked detail => exact Or.inr ⟨by simp [settleSubscription], keeps_of_eq rfl rfl⟩

/-- A scripted provider keeps faith with its subscriptions, though it may refuse to release one. -/
theorem custodian : Custodian Given Adjusts False where
  adjusts := by
    rintro p _ ⟨script, rfl⟩
    exact keeps_of_eq rfl rfl
  stores r p := keeps_of_eq rfl rfl
  draws := by
    rintro draw ⟨c, p, q, publication, leaves, rfl⟩
    cases c with
    | subscribe topic address =>
      simp only [Provider.start, start, settleSubscription] at leaves
      split at leaves <;> cases leaves
    | submit | query | unsubscribe | chain | account => cases leaves
  serves := by
    intro c other p
    cases c with
    | submit | query | chain | account =>
      exact ⟨keeps_of_eq rfl rfl, fun q => keeps_of_eq rfl rfl⟩
    | subscribe | unsubscribe => cases other
  subscribes topic address p := Or.inr ⟨keeps_of_eq rfl rfl, settleSubscription_late _ _⟩
  unsubscribes := by
    intro id p
    refine ⟨⟨Or.inl rfl, fun _ named => named⟩, fun q => ?_⟩
    simp only [Provider.start, start, settleRelease]
    split
    · exact ⟨Or.inr rfl, fun _ named => named⟩
    · exact ⟨Or.inl rfl, fun _ named => named⟩
  releases := by
    intro id p
    refine Or.inr fun q returned => ?_
    simp only [Provider.start, start, settleRelease] at returned ⊢
    rw [returned]
    simp [Provider.held]
  complies := False.elim

end Scripted

end RandomBeacon
