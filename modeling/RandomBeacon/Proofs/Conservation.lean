import RandomBeacon.Proofs.Calls
import RandomBeacon.Proofs.Course

/-!
No operation loses a subscription but one that it overwrites: a subscription that an event brings,
or that the session had, is the session's afterwards, is being released, or has been overwritten
by the one that the event brings (`Course.conserves`).
-/

namespace RandomBeacon

/-- The subscription of the session that an event puts another one in the place of. -/
def Event.overwritten? (c : Client) : Event → Option SubscriptionId
  | resume s signal =>
    if s.current c.session.generation ∧ (s.received? signal).isSome then c.session.subscription
    else none
  | _ => none

theorem Event.overwritten?_none {c : Client} {event : Event} (nothing : event.received? = none) :
    event.overwritten? c = none := by
  cases event with
  | resume s signal =>
    have nothing : s.received? signal = none := nothing
    simp [overwritten?, nothing]
  | openSession | closeSession | recoverSession | serve => rfl

section Conservation

variable {c d : Client} {s : Stage} {p : Purpose} {progress : Progress}

theorem Client.HandOff.subscription {generation : Nat} {starter : Starter}
    (handed : c.HandOff generation starter d progress) :
    d.session.subscription = c.session.subscription ∧
    progress.stages.filterMap Stage.released? = [] := by
  cases handed with
  | busy | skips => exact ⟨rfl, rfl⟩
  | joins | begins | spent => exact ⟨by simp, rfl⟩

theorem Client.Advance.conserves {received : Option SubscriptionId}
    (advance : c.Advance s received d progress) :
    (received.toList ++ c.session.subscription.toList).Perm
      (progress.stages.filterMap Stage.released? ++ (d.session.subscription.toList ++
        if received.isSome then c.session.subscription.toList else [])) := by
  cases advance with
  | pauses | asks | asksAtOnce | asksAnew | retries =>
    exact .of_eq (List.append_nil _).symm
  | opens | recovers => simp [Progress.stages]
  | refused | exhausted | aborts => simp [Progress.stages]
  | takes h duration id owned => simp [owned, Progress.stages, Stage.released?]
  | handsOff generation failed handed =>
    obtain ⟨same, none⟩ := handed.subscription
    simp [same, none]

/-- A subscription that an event brings, or that the session had, is the session's afterwards, is
being released, or has been overwritten. -/
theorem Course.conserves {event : Event} {new : List Stage} (course : Course c event d new) :
    (event.received?.toList ++ c.session.subscription.toList).Perm
      (new.filterMap Stage.released? ++ (d.session.subscription.toList ++
        (event.overwritten? c).toList)) := by
  have kept {b : Client} (after : d.core = b.core) :
      d.session.subscription = b.session.subscription := by
    rw [(Client.core_eq_iff.mp after).2.2.1]
  cases course with
  | opens idle after =>
    rw [kept after]
    exact .of_eq (List.append_nil _).symm
  | declines after | passes other after => simp [kept after, Event.received?, Event.overwritten?]
  | closed after => simp [kept after, Event.received?, Event.overwritten?, Stage.received?]
  | closes after =>
    rw [kept after]
    cases c.session.subscription <;> exact .refl _
  | hands handed after =>
    obtain ⟨same, none⟩ := handed.subscription
    simp [kept after, same, none, Event.received?, Event.overwritten?]
  | @advances s signal p b _ _ wants current advance after =>
    have mine : s.current c.session.generation = true :=
      Stage.current_iff.mpr ⟨p, wants, current.generation.symm⟩
    have conserves := advance.conserves
    rw [kept after, Event.received?, Event.overwritten?]
    cases received : s.received? signal <;> simpa [received, mine] using conserves
  | @fades s signal p _ _ wants stale fade after =>
    have other : s.current c.session.generation = false := by
      simp [Stage.current, wants, Ne.symm stale.generation]
    rw [kept after, Event.received?, Event.overwritten?, if_neg (by simp [other])]
    generalize s.received? signal = received at fade
    cases fade with
    | ends | pauses | releases => exact .of_eq (by simp [Progress.stages, Stage.released?])
  | @breaks s signal _ panicked after =>
    have nothing : Event.received? (.resume s signal) = none := by
      cases s with
      | subscribing =>
        cases signal with
        | panicked => rfl
        | returned | failed => cases panicked
      | pausing | releasing | scheduled | dropping | closing => rfl
    simp [kept after, nothing, Event.overwritten?_none nothing]
  | serves same =>
    simp only [Client.standing, Prod.mk.injEq] at same
    simp [same.2.1, Event.received?, Event.overwritten?]

end Conservation

end RandomBeacon
