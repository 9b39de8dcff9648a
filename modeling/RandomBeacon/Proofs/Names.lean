import RandomBeacon.Proofs.History

/-!
The names of requests in a run. A name tells its stamp, whatever its random tail
(`RequestId.stamp_eq`), and the stamps of a client rise with every request, so no two requests of
a run have the same name (`Runs.admitted_nodup`). Nothing but a request that is accepted brings a
callback in (`admitted_changes`, `callbacks_act`).
-/

namespace RandomBeacon

theorem Suffix.length_text (s : Suffix) : s.text.toList.length = 9 := by
  simp [Suffix.text]

/-- A name tells its stamp, whatever its tail. -/
theorem RequestId.stamp_eq {s t : Nat} {u v : Suffix}
    (same : (ofStamp s u).text = (ofStamp t v).text) : s = t := by
  have spelled (stamp : Nat) (suffix : Suffix) : (ofStamp stamp suffix).text.toList =
      (mark.toList ++ Nat.toDigits 10 stamp) ++ '_' :: suffix.text.toList := by
    simp [ofStamp]
  have lists := congrArg String.toList same
  rw [spelled, spelled] at lists
  -- the tails are equally long, so the digits end at the same place
  have tails : ('_' :: u.text.toList).length = ('_' :: v.text.toList).length := by
    simp [Suffix.length_text]
  have digits := List.append_cancel_left (List.append_inj' lists tails).1
  calc s = Nat.ofDigitChars 10 (Nat.toDigits 10 s) 0 := Nat.ofDigitChars_ten_toDigits.symm
    _ = Nat.ofDigitChars 10 (Nat.toDigits 10 t) 0 := by rw [digits]
    _ = t := Nat.ofDigitChars_ten_toDigits

namespace World

variable {π : Type} [Provider π]

theorem proceed_stamp (now : Nat) (spawned : List (Option Nat × Work π)) (w : World π)
    (step : Client × Progress) : (w.proceed now spawned step).state.stamp = w.stamp := by
  obtain ⟨c, progress⟩ := step
  cases progress with
  | wait stage => cases stage <;> rfl
  | ended | lost => rfl

/-- The handler that the turn of a task brings, if it is that of a request. -/
def asked? : Work π → Option ClientHandler
  | .errand (.request handler) => some handler
  | _ => none

/-- Only the turn of a request draws a stamp. -/
theorem run_stamp (now : Nat) (w : World π) (work : Work π) :
    (w.run now work).state.stamp =
      if (asked? work).isSome then (w.nameRequest now).2.stamp else w.stamp := by
  cases work with
  | errand e =>
    cases e with
    | openSession | closeSession => exact proceed_stamp now [] w _
    | request | query =>
      simp only [run, begin]
      split <;> rfl
    | awaitReady => exact congrArg stamp (watchReady_state now _ w)
    | chain | account => rfl
  | recovery => exact proceed_stamp now [] w _
  | operation s pending => exact proceed_stamp now _ (w.finish now pending).2.1 _
  | submitting =>
    simp only [run]
    split <;> rfl
  | calling d => cases d <;> rfl
  | watching => exact congrArg stamp (watchReady_state now _ w)
  | querying | inFlight | publishing | askingChain | askingAccount => rfl

/-- Handlers bring no callback in. -/
theorem admitted_publishChanges {w : World π} (wired : w.scene.Wired) (r : Round) :
    (w.publishChanges r).filterMap Change.admitted? = [] := by
  apply List.filterMap_eq_nil_iff.mpr
  intro change mem
  have own := (publish_handles wired r).own change mem
  cases change with
  | admits id handler => exact own.elim
  | cancels | adds | removes | closes => rfl

/-- Only the turn of a request brings a callback in, and only if the client is ready. -/
theorem admitted_changes {w : World π} (wired : w.scene.Wired) (now : Nat) (work : Work π) :
    (w.changes now work).filterMap Change.admitted? =
      if (asked? work).isSome ∧ w.client.session.lifecycle = .ready then [(w.nameRequest now).1]
      else [] := by
  cases work with
  | errand e =>
    cases e with
    | request handler =>
      simp only [changes, asked?, Option.isSome_some, true_and]
      split <;> rfl
    | openSession | closeSession | query | awaitReady | chain | account => rfl
  | publishing draw =>
    exact admitted_publishChanges (w := { w with provider := (draw w.provider).2 }) wired _
  | recovery | operation | submitting | querying | calling | inFlight | watching | askingChain
  | askingAccount => rfl

namespace Timeline

variable {e : Surroundings π} {s t : Timeline π} {a : Action π} {actions : List (Action π)}
  {past : List Change}

/-- The handler that an action brings, if it is the turn of a request. -/
def asked? (t : Timeline π) (a : Action π) : Option ClientHandler := (t.work? a).bind World.asked?

omit [Provider π] in
theorem asked?_turn {number : Nat} {task : Schedule.Task (Work π)}
    (found : t.task? number = some task) : t.asked? (.turn number) = World.asked? task.work := by
  rw [asked?, work?, found]
  rfl

theorem admitted_changes (allowed : t.Allows e a) (wired : t.state.scene.Wired) :
    (t.changes a).filterMap Change.admitted? =
      if (t.asked? a).isSome ∧ t.client.session.lifecycle = .ready then
        [(t.state.nameRequest t.now).1]
      else [] := by
  cases a with
  | turn number =>
    obtain ⟨task, found, _, _⟩ := allowed
    rw [changes_turn found, asked?_turn found]
    exact World.admitted_changes wired t.now task.work
  | publish r => exact admitted_publishChanges wired r
  | pass | ask | cancel | listen | unlisten | adjust => rfl

/-- Whoever waits after an action that is no request's has waited before. -/
theorem callbacks_act (allowed : t.Allows e a) (sound : Sound t) (wired : t.state.scene.Wired)
    (plain : t.asked? a = none) :
    (t.act a).client.callbacks ⊆ t.client.callbacks := by
  rintro ⟨id, handler⟩ mem
  have none : (t.changes a).filterMap Change.admitted? = [] := by
    rw [admitted_changes allowed wired, plain]
    rfl
  have turned := (act_amends allowed sound wired).becomes.stands
    (fun r => (id, handler) ∈ r.callbacks) Roster.mem_callbacks_next
  rcases turned.mp mem with ⟨before, after, split, _⟩ | ⟨was, _⟩
  · have comes : id ∈ (t.changes a).filterMap Change.admitted? := by
      rw [split]
      simp [Change.admitted?]
    rw [none] at comes
    cases comes
  · exact was

theorem act_stamp (allowed : t.Allows e a) :
    (t.act a).state.stamp =
      if (t.asked? a).isSome then (t.state.nameRequest t.now).2.stamp else t.state.stamp := by
  cases a with
  | turn number =>
    obtain ⟨task, found, _, _⟩ := allowed
    rw [state_turn found, asked?_turn found]
    exact run_stamp t.now t.state task.work
  | pass | ask | cancel | listen | unlisten | publish | adjust => rfl

/-- The names given so far are distinct, and their stamps are not above the last one. -/
structure Named (past : List Change) (t : Timeline π) : Prop where
  wired : t.state.scene.Wired
  distinct : (past.filterMap Change.admitted?).Nodup
  given : ∀ id ∈ past.filterMap Change.admitted?, ∃ stamp suffix,
    id = .ofStamp stamp suffix ∧ stamp ≤ t.state.stamp

theorem Named.act (named : t.Named past) (allowed : t.Allows e a) (sound : Sound t) :
    (t.act a).Named (past ++ t.changes a) := by
  obtain ⟨wired, distinct, given⟩ := named
  have rises : t.state.stamp < (t.state.nameRequest t.now).2.stamp := by
    change t.state.stamp < nextStamp t.state.stamp (1000 * t.now)
    rw [nextStamp]
    omega
  have grows : t.state.stamp ≤ (t.act a).state.stamp := by
    rw [act_stamp allowed]
    split <;> omega
  have lasts : ∀ id ∈ past.filterMap Change.admitted?, ∃ stamp suffix,
      id = .ofStamp stamp suffix ∧ stamp ≤ (t.act a).state.stamp := by
    intro id mem
    obtain ⟨stamp, suffix, is, le⟩ := given id mem
    exact ⟨stamp, suffix, is, Nat.le_trans le grows⟩
  refine ⟨(act_amends allowed sound wired).wired, ?_, ?_⟩
  all_goals rw [List.filterMap_append, admitted_changes allowed wired]
  · split
    · refine List.nodup_append.mpr ⟨distinct, List.nodup_singleton _, ?_⟩
      intro old mem new is
      obtain ⟨stamp, suffix, rfl, le⟩ := given old mem
      rw [List.mem_singleton.mp is]
      intro same
      have stamps := RequestId.stamp_eq (congrArg RequestId.text same)
      change stamp = (t.state.nameRequest t.now).2.stamp at stamps
      omega
    · rwa [List.append_nil]
  · split
    · rename_i admits
      intro id mem
      rcases List.mem_append.mp mem with old | new
      · exact lasts id old
      · refine ⟨_, _, List.mem_singleton.mp new, ?_⟩
        rw [act_stamp allowed, if_pos admits.1]
        exact Nat.le_refl _
    · rwa [List.append_nil]

variable {config : Config} {factors : Nat → Binary64} {provider : π} {suffixes : Nat → Suffix}

/-- No two requests of a run have the same name. -/
theorem Runs.admitted_nodup (run : Runs e (fresh config factors provider suffixes) actions t) :
    (((fresh config factors provider suffixes).history actions).filterMap
      Change.admitted?).Nodup := by
  have start : (fresh config factors provider suffixes).Named [] :=
    ⟨wired_fresh config factors provider suffixes, .nil, by rintro id ⟨⟩⟩
  exact (run.carries changes (sound_fresh config factors provider suffixes) start
    fun _ _ _ allowed sound named => named.act allowed sound).distinct

end Timeline

end World

end RandomBeacon
