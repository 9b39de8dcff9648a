import RandomBeacon.Proofs.Demo.Errands

/-!
What holds of an open session whatever it waits for: what is scheduled, what the ledger has drawn
and what the callbacks have heard (`Holds`). The turn of a publication sends one copy of the next
result for each callback on its way to the session (`Holds.publish`).
-/

namespace RandomBeacon.Demo

open World (rules)

variable {p : Plan} {drawn : Nat}

section Heard

/-- What callbacks have heard when so many rounds have been drawn. -/
structure Heard (p : Plan) (drawn : Nat) (heard : List (String × Randomness) × Nat) : Prop where
  count : heard.2 = heard.1.length
  results : ∀ r, (∃ name, (name, r) ∈ heard.1) ↔ ∃ k < drawn, p.result k = r

variable {heard : List (String × Randomness) × Nat} {w v : World Simulated}

theorem Heard.nothing (p : Plan) : Heard p 0 ([], 0) :=
  ⟨rfl, fun _ => ⟨nofun, nofun⟩⟩

/-- Copies of the next result have been heard. -/
theorem Heard.publish (before : Heard p drawn heard) {copies : Nat} (some : copies ≠ 0)
    (name : String) :
    Heard p (drawn + 1)
      (List.replicate copies (name, p.result drawn) ++ heard.1, heard.2 + copies) := by
  constructor
  · rw [List.length_append, List.length_replicate, before.count, Nat.add_comm]
  · intro r
    constructor
    · rintro ⟨listener, mem⟩
      rcases List.mem_append.mp mem with new | old
      · obtain ⟨_, rfl⟩ := Prod.mk.inj (List.mem_replicate.mp new).2
        exact ⟨drawn, Nat.lt_succ_self _, rfl⟩
      · obtain ⟨k, less, is⟩ := (before.results r).mp ⟨listener, old⟩
        exact ⟨k, Nat.lt_succ_of_lt less, is⟩
    · rintro ⟨k, less, rfl⟩
      rcases Nat.lt_succ_iff_lt_or_eq.mp less with earlier | rfl
      · obtain ⟨listener, old⟩ := (before.results _).mpr ⟨k, earlier, rfl⟩
        exact ⟨listener, List.mem_append_right _ old⟩
      · exact ⟨name, List.mem_append_left _ (List.mem_replicate.mpr ⟨some, rfl⟩)⟩

/-- Between two worlds more has been heard, and nothing forgotten. -/
def Grows (w v : World Simulated) : Prop :=
  ∃ new, hears v = (new ++ (hears w).1, (hears w).2 + new.length)

theorem Grows.same (same : hears v = hears w) : Grows w v := ⟨[], same⟩

theorem arrivals_same (same : hears v = hears w) : arrivals w v = [] := by
  obtain ⟨_, count⟩ := Prod.mk.inj same
  rw [arrivals, count, Nat.sub_self]
  rfl

theorem arrivals_grown {new : List (String × Randomness)}
    (grown : hears v = (new ++ (hears w).1, (hears w).2 + new.length)) :
    arrivals w v = new.map (·.2) := by
  obtain ⟨heard, count⟩ := Prod.mk.inj grown
  rw [arrivals, heard, count]
  have many : (hears w).2 + new.length - w.scene.host.invocations = new.length :=
    Nat.add_sub_cancel_left _ _
  rw [many, List.take_left]

end Heard

/-- An open session with so many rounds drawn, whose tasks are its `own` and publications. -/
structure Holds (p : Plan) (own : List Task) (numbers : List Nat) (drawn : Nat) (t : Timeline) :
    Prop where
  scheduled : Scheduled p own numbers t
  serves : Serves p drawn t.state
  heard : Heard p drawn (hears t.state)
  clock : t.now = 0 ∨ t.now = p.publishDelay
  past : drawn ≠ 0 → t.now = p.publishDelay

namespace Holds

variable {own : List Task} {numbers : List Nat} {t : Timeline} {number : Nat}

theorem reordered (holds : Holds p own numbers drawn t)
    {callbacks : List (RequestId × ClientHandler)}
    (order : callbacks.Perm t.state.client.callbacks) :
    Holds p own numbers drawn { t with state := t.state.reordered callbacks } :=
  ⟨holds.scheduled.within _ _, holds.serves.reordered order, holds.heard, holds.clock, holds.past⟩

theorem start (holds : Holds p [] numbers drawn t) (e : Errand) :
    Holds p [⟨t.issued, some t.now, .errand e⟩] numbers drawn (t.start e) :=
  ⟨holds.scheduled.start e, holds.serves, holds.heard, holds.clock, holds.past⟩

/-- A turn that publishes nothing. -/
theorem joined (holds : Holds p own numbers drawn t) {u : Timeline} {own' : List Task}
    {numbers' : List Nat} {admits : Nat} (scheduled : Scheduled p own' numbers' u)
    (joined : Joined p drawn admits t.state u.state) (now : u.now = t.now) :
    Holds p own' numbers' drawn u := by
  obtain ⟨_, _, heard, clock, past⟩ := holds
  refine ⟨scheduled, joined.serves, ?_, ?_, ?_⟩
  · rwa [joined.hears]
  · rwa [now]
  · rwa [now]

/-- The turn of a publication: copies of the next result are on their way to the session. -/
theorem publish (holds : Holds p own numbers drawn t) (feasible : p.Feasible)
    (more : drawn < p.requests) (listen : t.state.client.callbacks ≠ []) (due : number ∈ numbers)
    (ready : t.isReady rules (p.publication number) = true) {rounds before inbox : List Randomness}
    (told : Told p drawn rounds before)
    (arrive : inbox.Perm
      (before ++ arrivals t.state (t.fire rules (p.publication number)).state)) :
    Holds p own (numbers.erase number) (drawn + 1) (t.fire rules (p.publication number)) ∧
    (t.fire rules (p.publication number)).state.exchanged = t.state.exchanged ∧
    (t.fire rules (p.publication number)).state.client.callbacks = t.state.client.callbacks ∧
    Grows t.state (t.fire rules (p.publication number)).state ∧
    Told p (drawn + 1) rounds inbox ∧
    inbox.length = before.length + t.state.client.callbacks.length := by
  obtain ⟨scheduled, serves, heard, clock, past⟩ := holds
  obtain ⟨exchanged, serves', callbacks, grown⟩ := serves.publishes feasible more t.now
  have state : (t.fire rules (p.publication number)).state =
      (t.state.run t.now (.publishing Simulated.draw)).state.journalAt t.now :=
    Schedule.Timeline.state_fire _ _ _
  have now : (t.fire rules (p.publication number)).now = t.now := Schedule.Timeline.now_fire _ _ _
  have reached : t.now = p.publishDelay := by
    have late : p.publishDelay ≤ t.now :=
      of_decide_eq_true ((p.isReady_publication number t).symm.trans ready)
    omega
  have some : t.state.client.callbacks.length ≠ 0 := fun none =>
    listen (List.eq_nil_of_length_eq_zero none)
  have delivered := (congrArg hears state).trans grown
  obtain ⟨new, copies⟩ : ∃ new, new =
    List.replicate t.state.client.callbacks.length (handler.name, p.result drawn) := ⟨_, rfl⟩
  have many : new.length = t.state.client.callbacks.length := by rw [copies, List.length_replicate]
  have grows : hears (t.fire rules (p.publication number)).state =
      (new ++ (hears t.state).1, (hears t.state).2 + new.length) := by
    rw [delivered, many, copies]
    rfl
  rw [arrivals_grown grows, copies, List.map_replicate] at arrive
  refine ⟨⟨scheduled.publish due, ?_, ?_, .inr (now.trans reached), fun _ => now.trans reached⟩,
    ?_, ?_, ⟨new, grows⟩, (told.publish some).perm arrive, ?_⟩
  · rw [state]
    exact serves'.journalAt t.now
  · rw [delivered]
    exact heard.publish some _
  · rw [state]
    exact exchanged
  · rw [state]
    exact callbacks
  · rw [arrive.length_eq, List.length_append, List.length_replicate]

end Holds

end RandomBeacon.Demo
