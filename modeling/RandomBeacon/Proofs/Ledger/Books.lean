import RandomBeacon.Proofs.Ledger.Promise

/-!
The books of subscriptions: those that a provider holds and whose release nobody has asked for are
owned by someone (`Balanced`). Each promise of a provider is an entry that keeps the books in
balance.
-/

namespace RandomBeacon

namespace Provider

variable {π : Type} [Provider π]

/-- The subscriptions held, without those whose release was `asked` for, are the `owned` ones. Each
is held once, under a name that was given out, and none was asked for before it was given. -/
structure Balanced (given : π → SubscriptionId → Prop) (p : π) (asked : SubscriptionId → Bool)
    (owned : List SubscriptionId) : Prop where
  nodup : (held p).Nodup
  named : ∀ id ∈ held p, given p id
  known : ∀ id, asked id = true → given p id
  books : ((held p).filter fun id => !asked id).Perm owned

namespace Balanced

variable {given : π → SubscriptionId → Prop} {p q : π} {asked : SubscriptionId → Bool}
  {owned : List SubscriptionId} {id : SubscriptionId}

theorem perm {others : List SubscriptionId} (balanced : Balanced given p asked owned)
    (perm : owned.Perm others) : Balanced given p asked others :=
  ⟨balanced.nodup, balanced.named, balanced.known, balanced.books.trans perm⟩

theorem owned_nodup (balanced : Balanced given p asked owned) : owned.Nodup :=
  balanced.books.nodup_iff.mp (balanced.nodup.filter _)

theorem mem_owned (balanced : Balanced given p asked owned) :
    id ∈ owned ↔ id ∈ held p ∧ asked id = false := by
  rw [← balanced.books.mem_iff]
  simp

theorem keeps (balanced : Balanced given p asked owned) (keeps : Keeps given p q) :
    Balanced given q asked owned := by
  obtain ⟨nodup, named, known, books⟩ := balanced
  obtain ⟨held, names⟩ := keeps
  exact ⟨held ▸ nodup, fun id mem => names id (named id (held ▸ mem)),
    fun id was => names id (known id was), held ▸ books⟩

/-- A subscription that is granted is owned. -/
theorem grants (balanced : Balanced given p asked owned) (grants : Grants given id p q) :
    Balanced given q asked (id :: owned) := by
  obtain ⟨nodup, named, known, books⟩ := balanced
  obtain ⟨fresh, held, names, own⟩ := grants
  have unasked : asked id = false := by
    cases was : asked id with
    | false => rfl
    | true => exact absurd (known id was) fresh
  refine ⟨?_, ?_, fun other was => names other (known other was), ?_⟩
  · exact held.nodup_iff.mpr (List.nodup_cons.mpr ⟨fun mem => fresh (named id mem), nodup⟩)
  · intro other mem
    rcases List.mem_cons.mp (held.mem_iff.mp mem) with rfl | old
    · exact own
    · exact names other (named other old)
  · refine (held.filter _).trans ?_
    rw [List.filter_cons_of_pos (by simp [unasked])]
    exact books.cons id

/-- A subscription whose release was asked for is owned no longer, so the books stay in balance
when the provider parts with it. -/
theorem parts (balanced : Balanced given p asked owned) (was : asked id = true)
    (parts : Parts given id p q) : Balanced given q asked owned := by
  obtain ⟨nodup, named, known, books⟩ := balanced
  obtain ⟨held | held, names⟩ := parts
  · exact keeps ⟨nodup, named, known, books⟩ ⟨held, names⟩
  · refine ⟨?_, ?_, fun other was => names other (known other was), ?_⟩
    · rw [held]
      exact nodup.filter _
    · intro other mem
      rw [held] at mem
      exact names other (named other (List.mem_of_mem_filter mem))
    · rw [held, List.filter_filter]
      have same (other : SubscriptionId) :
          (!asked other && decide (other ≠ id)) = !asked other := by
        by_cases eq : other = id
        · simp [eq, was]
        · simp [eq]
      simpa only [same] using books

/-- To ask for the release of a subscription is to give it up. -/
theorem asks (balanced : Balanced given p asked (id :: owned)) :
    Balanced given p (fun other => decide (other = id) || asked other) owned := by
  have nodup := List.nodup_cons.mp balanced.owned_nodup
  have mine := balanced.mem_owned.mp List.mem_cons_self
  refine ⟨balanced.nodup, balanced.named, ?_, ?_⟩
  · intro other was
    rcases Bool.or_eq_true_iff.mp was with same | was
    · exact of_decide_eq_true same ▸ balanced.named id mine.1
    · exact balanced.known other was
  · have given_up : ((held p).filter fun other => !(decide (other = id) || asked other)) =
        ((held p).filter fun other => !asked other).filter (· ≠ id) := by
      rw [List.filter_filter]
      simp [Bool.and_comm]
    rw [given_up]
    refine (balanced.books.filter _).trans ?_
    rw [List.filter_cons_of_neg (by simp), List.filter_eq_self.mpr]
    intro other mem
    have : other ≠ id := fun same => nodup.1 (same ▸ mem)
    simpa using this

end Balanced

/-- The subscription that a call in flight is sure to bring. -/
noncomputable def promised (pending : Pending π (Outcome SubscriptionId)) :
    Option SubscriptionId :=
  open Classical in
  if sure : ∃ id, ∀ q, (pending.finish q).result = .returned id then some sure.choose else none

variable {given : π → SubscriptionId → Prop} {pending : Pending π (Outcome SubscriptionId)}

theorem promised_prompt {id : SubscriptionId} (prompt : Prompt given id pending) (p : π) :
    promised pending = some id := by
  have sure : ∃ id, ∀ q, (pending.finish q).result = .returned id := ⟨id, fun q => (prompt q).1⟩
  unfold promised
  rw [dif_pos sure]
  have same := (sure.choose_spec p).symm.trans (prompt p).1
  exact congrArg some (Outcome.returned.inj same)

/-- A call that is granted when it ends promises nothing before: no name is given twice. -/
theorem promised_late (late : Late given pending) (p : π) : promised pending = none := by
  unfold promised
  rw [dif_neg]
  rintro ⟨id, sure⟩
  have grants (q : π) : Grants given id q (pending.finish q).provider := by
    rcases late q with ⟨other, returned, grants⟩ | ⟨never, _⟩
    · obtain rfl := Outcome.returned.inj ((sure q).symm.trans returned)
      exact grants
    · exact absurd (sure q) (never id)
  exact (grants (pending.finish p).provider).fresh (grants p).named

end Provider

end RandomBeacon
