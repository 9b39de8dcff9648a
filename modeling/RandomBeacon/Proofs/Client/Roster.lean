import Mathlib.Data.List.Nodup
import RandomBeacon.Proofs.Client.Wiring

/-!
The roster of a client: the callbacks of its requests and its listeners. A roster changes in a few
ways (`Change`), and after a list of changes those stand on it that have come and have not gone
since (`Becomes.callback_iff`, `Becomes.listener_iff`).
-/

namespace RandomBeacon

structure Roster where
  callbacks : List (RequestId × ClientHandler) := []
  listeners : List (Nat × ClientHandler) := []

/-- A change of a roster. -/
inductive Change where
  | admits (id : RequestId) (handler : ClientHandler)
  /-- The callback of a request is cancelled, if it is `found`. -/
  | cancels (id : RequestId) (found : Bool)
  | adds (number : Nat) (handler : ClientHandler)
  /-- A listener is removed, if it is `found`. -/
  | removes (number : Nat) (found : Bool)
  | closes

namespace Change

/-- The request whose callback comes in with a change. -/
def admitted? : Change → Option RequestId
  | admits id _ => some id
  | _ => none

/-- The request whose callback a change cancels. -/
def cancelled? : Change → Option RequestId
  | cancels id true => some id
  | _ => none

/-- The number of the listener that comes in with a change. -/
def added? : Change → Option Nat
  | adds number _ => some number
  | _ => none

/-- The number of the listener that a change removes. -/
def removed? : Change → Option Nat
  | removes number true => some number
  | _ => none

/-- Whether a change takes the callback of a request out, or puts another in its place. -/
def DropsCallback (id : RequestId) : Change → Prop
  | admits other _ | cancels other _ => id = other
  | closes => True
  | adds _ _ | removes _ _ => False

/-- Whether a change takes a listener out. -/
def DropsListener (number : Nat) : Change → Prop
  | removes other _ => number = other
  | closes => True
  | admits _ _ | cancels _ _ | adds _ _ => False

end Change

/-- What has come with a change and not gone with a later one. -/
def Stands (history : List Change) (comes : Change) (goes : Change → Prop) : Prop :=
  ∃ before after, history = before ++ comes :: after ∧ ∀ change ∈ after, ¬goes change

theorem stands_cons {change comes : Change} {goes : Change → Prop} {rest : List Change} :
    Stands (change :: rest) comes goes ↔
      Stands rest comes goes ∨ (change = comes ∧ ∀ later ∈ rest, ¬goes later) := by
  constructor
  · rintro ⟨before, after, split, stays⟩
    cases before with
    | nil =>
      obtain ⟨rfl, rfl⟩ := List.cons.inj split
      exact Or.inr ⟨rfl, stays⟩
    | cons first before =>
      obtain ⟨_, rfl⟩ := List.cons.inj split
      exact Or.inl ⟨before, after, rfl, stays⟩
  · rintro (⟨before, after, rfl, stays⟩ | ⟨rfl, stays⟩)
    · exact ⟨change :: before, after, rfl, stays⟩
    · exact ⟨[], rest, rfl, stays⟩

namespace Roster

/-- The roster after a change. -/
def next (r : Roster) : Change → Roster
  | .admits id handler => { r with callbacks := r.callbacks.filter (·.1 ≠ id) ++ [(id, handler)] }
  | .cancels id _ => { r with callbacks := r.callbacks.filter (·.1 ≠ id) }
  | .adds number handler => { r with listeners := r.listeners ++ [(number, handler)] }
  | .removes number _ => { r with listeners := r.listeners.filter (·.1 ≠ number) }
  | .closes => {}

/-- What is cancelled or removed is found if it stands on the roster. -/
def Truthful (r : Roster) : Change → Prop
  | .cancels id found => found = r.callbacks.any (·.1 = id)
  | .removes number found => found = r.listeners.any (·.1 = number)
  | .admits _ _ | .adds _ _ | .closes => True

/-- A roster becomes another with these changes, one after the other. -/
inductive Becomes : Roster → List Change → Roster → Prop
  | same (r : Roster) : Becomes r [] r
  | change {r t : Roster} {change : Change} {rest : List Change} (truthful : r.Truthful change)
      (later : Becomes (r.next change) rest t) : Becomes r (change :: rest) t

variable {r s t : Roster} {changes more : List Change} {id : RequestId} {number : Nat}
  {handler : ClientHandler}

theorem Becomes.single {change : Change} (truthful : r.Truthful change) :
    r.Becomes [change] (r.next change) :=
  .change truthful (.same _)

theorem Becomes.of_nil (becomes : r.Becomes [] t) : t = r := by
  cases becomes
  rfl

theorem Becomes.trans (before : r.Becomes changes s) (after : s.Becomes more t) :
    r.Becomes (changes ++ more) t := by
  induction before with
  | same => exact after
  | change truthful _ ih => exact .change truthful (ih after)

/-- What comes with one change only, and goes with others, stands on a roster if it has come and
not gone since. -/
theorem Becomes.stands (on : Roster → Prop) {comes : Change} {goes : Change → Prop}
    (moves : ∀ r change, on (r.next change) ↔ change = comes ∨ (on r ∧ ¬goes change))
    (becomes : r.Becomes changes t) :
    on t ↔ Stands changes comes goes ∨ (on r ∧ ∀ change ∈ changes, ¬goes change) := by
  induction becomes with
  | same r =>
    have nothing : ¬Stands [] comes goes := by rintro ⟨_ | _, _, split, _⟩ <;> cases split
    simp [nothing]
  | @change r t first rest _ _ ih =>
    rw [ih, moves, stands_cons, List.forall_mem_cons]
    constructor
    · rintro (later | ⟨rfl | ⟨was, stays⟩, kept⟩)
      · exact Or.inl (Or.inl later)
      · exact Or.inl (Or.inr ⟨rfl, kept⟩)
      · exact Or.inr ⟨was, stays, kept⟩
    · rintro ((later | ⟨rfl, kept⟩) | ⟨was, stays, kept⟩)
      · exact Or.inl later
      · exact Or.inr ⟨Or.inl rfl, kept⟩
      · exact Or.inr ⟨Or.inr ⟨was, stays⟩, kept⟩

theorem mem_callbacks_next (r : Roster) (change : Change) :
    (id, handler) ∈ (r.next change).callbacks ↔ change = .admits id handler ∨
      ((id, handler) ∈ r.callbacks ∧ ¬change.DropsCallback id) := by
  cases change with
  | admits other handler' =>
    simp only [next, Change.DropsCallback, List.mem_append, List.mem_filter, List.mem_singleton,
      Prod.mk.injEq, decide_eq_true_eq, Change.admits.injEq]
    constructor
    · rintro (⟨was, differs⟩ | ⟨rfl, rfl⟩)
      · exact Or.inr ⟨was, differs⟩
      · exact Or.inl ⟨rfl, rfl⟩
    · rintro (⟨rfl, rfl⟩ | ⟨was, differs⟩)
      · exact Or.inr ⟨rfl, rfl⟩
      · exact Or.inl ⟨was, differs⟩
  | cancels other found => simp [next, Change.DropsCallback]
  | adds | removes => simp [next, Change.DropsCallback]
  | closes => simp [next, Change.DropsCallback]

theorem mem_listeners_next (r : Roster) (change : Change) :
    (number, handler) ∈ (r.next change).listeners ↔ change = .adds number handler ∨
      ((number, handler) ∈ r.listeners ∧ ¬change.DropsListener number) := by
  cases change with
  | adds other handler' =>
    simp only [next, Change.DropsListener, List.mem_append, List.mem_singleton, Prod.mk.injEq,
      Change.adds.injEq, not_false_eq_true, and_true]
    constructor
    · rintro (was | ⟨rfl, rfl⟩)
      · exact Or.inr was
      · exact Or.inl ⟨rfl, rfl⟩
    · rintro (⟨rfl, rfl⟩ | was)
      · exact Or.inr ⟨rfl, rfl⟩
      · exact Or.inl was
  | removes other found => simp [next, Change.DropsListener]
  | admits | cancels => simp [next, Change.DropsListener]
  | closes => simp [next, Change.DropsListener]

/-- A callback stands on the roster if its request has been admitted and, since then, neither
admitted anew nor cancelled, nor has the session been closed. -/
theorem Becomes.callback_iff (becomes : Becomes {} changes t) : (id, handler) ∈ t.callbacks ↔
    Stands changes (.admits id handler) (·.DropsCallback id) := by
  rw [becomes.stands (fun r => (id, handler) ∈ r.callbacks) mem_callbacks_next]
  simp

/-- A listener stands on the roster if it has been added and, since then, not removed, nor has the
session been closed. -/
theorem Becomes.listener_iff (becomes : Becomes {} changes t) : (number, handler) ∈ t.listeners ↔
    Stands changes (.adds number handler) (·.DropsListener number) := by
  rw [becomes.stands (fun r => (number, handler) ∈ r.listeners) mem_listeners_next]
  simp

/-- What goes from a roster has come. -/
theorem Becomes.count_le {κ : Type} [DecidableEq κ] (on : Roster → Bool)
    (came gone : Change → Option κ) (k : κ)
    (moves : ∀ r change, r.Truthful change →
      (gone change == some k).toNat + (on (r.next change)).toNat ≤
        (came change == some k).toNat + (on r).toNat) (becomes : r.Becomes changes t) :
    (changes.filterMap gone).count k + (on t).toNat ≤
      (changes.filterMap came).count k + (on r).toNat := by
  have count (f : Change → Option κ) (change : Change) (rest : List Change) :
      ((change :: rest).filterMap f).count k =
        (f change == some k).toNat + (rest.filterMap f).count k := by
    rw [List.count_filterMap, List.count_filterMap, List.countP_cons, Nat.add_comm]
    cases f change == some k <;> rfl
  induction becomes with
  | same => exact Nat.le_refl _
  | @change r t first rest truthful _ ih =>
    have first := moves r first truthful
    rw [count, count]
    omega

/-- A callback stays on the roster while no other comes in its place, the session is not closed and
it is not cancelled. -/
theorem Becomes.stays_or_cancelled (becomes : r.Becomes changes t)
    (kept : ∀ change ∈ changes, (∀ handler, change ≠ .admits id handler) ∧ change ≠ .closes)
    (pending : (id, handler) ∈ r.callbacks) :
    (id, handler) ∈ t.callbacks ∨ .cancels id true ∈ changes := by
  induction becomes with
  | same => exact Or.inl pending
  | @change r t first rest truthful _ ih =>
    obtain ⟨unreplaced, open_still⟩ := kept first List.mem_cons_self
    by_cases drops : first.DropsCallback id
    · right
      cases first with
      | admits other handler' =>
        obtain rfl : id = other := drops
        exact absurd rfl (unreplaced handler')
      | cancels other found =>
        obtain rfl : id = other := drops
        have there : found = r.callbacks.any (·.1 = id) := truthful
        have present : r.callbacks.any (·.1 = id) = true :=
          List.any_eq_true.mpr ⟨(id, handler), pending, by simp⟩
        rw [there, present]
        exact List.mem_cons_self
      | closes => exact absurd rfl open_still
      | adds | removes => cases drops
    · have stays := (mem_callbacks_next r first).mpr (Or.inr ⟨pending, drops⟩)
      exact (ih (fun change mem => kept change (List.mem_cons_of_mem _ mem)) stays).imp_right
        (List.mem_cons_of_mem _)

/-- Whether a key is left when another is taken out. -/
theorem any_filter_ne {κ β : Type} [DecidableEq κ] (entries : List (κ × β)) (a b : κ) :
    (entries.filter (·.1 ≠ a)).any (·.1 = b) = (entries.any (·.1 = b) && a ≠ b) := by
  induction entries with
  | nil => rfl
  | cons entry rest ih =>
    rw [List.filter_cons]
    by_cases same : entry.1 = a
    · by_cases other : a = b <;> simp_all
    · by_cases other : a = b <;> simp_all

/-- Where every request is admitted once, none is cancelled twice. -/
theorem Becomes.cancelled_nodup (becomes : Becomes {} changes t)
    (fresh : (changes.filterMap Change.admitted?).Nodup) :
    (changes.filterMap Change.cancelled?).Nodup := by
  apply List.nodup_iff_count_le_one.mpr
  intro id
  have once := List.nodup_iff_count_le_one.mp fresh id
  have settled := becomes.count_le (fun r => r.callbacks.any (·.1 = id)) Change.admitted?
    Change.cancelled? id ?_
  · simp only [List.any_nil, Bool.toNat_false] at settled
    omega
  · intro r change truthful
    cases change with
    | admits other handler =>
      simp only [next, List.any_append, any_filter_ne]
      by_cases same : other = id <;> simp [Change.admitted?, Change.cancelled?, same]
    | cancels other found =>
      obtain rfl : found = r.callbacks.any (·.1 = other) := truthful
      simp only [next, any_filter_ne]
      by_cases same : other = id
      · subst same
        cases r.callbacks.any (·.1 = other) <;> simp [Change.cancelled?]
      · have differs : (other == id) = false := by simpa using same
        cases r.callbacks.any (·.1 = other) <;>
          simp [Change.cancelled?, Change.admitted?, same, differs]
    | adds | removes | closes => simp [next, Change.admitted?, Change.cancelled?]

/-- Where no number is given twice, no listener is removed twice. -/
theorem Becomes.removed_nodup (becomes : Becomes {} changes t)
    (fresh : (changes.filterMap Change.added?).Nodup) :
    (changes.filterMap Change.removed?).Nodup := by
  apply List.nodup_iff_count_le_one.mpr
  intro number
  have once := List.nodup_iff_count_le_one.mp fresh number
  have settled := becomes.count_le (fun r => r.listeners.any (·.1 = number)) Change.added?
    Change.removed? number ?_
  · simp only [List.any_nil, Bool.toNat_false] at settled
    omega
  · intro r change truthful
    cases change with
    | adds other handler =>
      simp only [next, List.any_append]
      by_cases same : other = number <;> simp [Change.added?, Change.removed?, same]
    | removes other found =>
      obtain rfl : found = r.listeners.any (·.1 = other) := truthful
      simp only [next, any_filter_ne]
      by_cases same : other = number
      · subst same
        cases r.listeners.any (·.1 = other) <;> simp [Change.removed?]
      · have differs : (other == number) = false := by simpa using same
        cases r.listeners.any (·.1 = other) <;>
          simp [Change.removed?, Change.added?, same, differs]
    | admits | cancels | closes => simp [next, Change.added?, Change.removed?]

end Roster

end RandomBeacon
