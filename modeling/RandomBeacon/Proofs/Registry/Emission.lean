import RandomBeacon.Proofs.Registry.Numbering
import RandomBeacon.Registry.Hub

/-!
What an emission does, whatever its handlers do. Handlers may change the registry and emit in it
while they are invoked, to any depth. The course of an emission (`Emits`) says whom it invokes, what
each invocation changes and which emissions nest inside; an emission has a result if it has a course
(`emit_of_emits`, `emits_of_emit`).
-/

namespace RandomBeacon

namespace Hub

/-- An invocation of a handler in an emission, the one of this turn among all invocations. -/
structure Visit where
  entry : Registration RegistryHandler
  turn : Nat
  /-- What it changes in the registry, and the emissions that nest inside it, in order. -/
  changes : List (Amendment RegistryHandler)
  /-- The names that hear a value in the emissions that nest inside it, in order. -/
  nested : List (String × String)

def Visit.ending (value : String) (v : Visit) : Ending := v.entry.handler.ends v.turn value

/-- Who hears a value in a visit: the handler, and then those that are visited inside. -/
def Visit.hears (value : String) (v : Visit) : List (String × String) :=
  (v.entry.handler.name, value) :: v.nested

/-- The hub in which the invocation of a handler begins to act. -/
def hearing (h : Hub) (value : String) (entry : Registration RegistryHandler) : Hub :=
  { h with heard := (entry.handler.name, value) :: h.heard }

/-- The hub after an invocation that ends like this: a failed one is reported. -/
def concluded (h : Hub) (entry : Registration RegistryHandler) (ending : Ending) : Hub :=
  match ending.failure? with
  | none => h
  | some reason => h.reportFailure entry reason

mutual

/-- Acts are carried out one after the other, with these changes of the registry and with these
names hearing values in emissions. -/
inductive Carries : List (Act String RegistryOrder) → Hub → List (Amendment RegistryHandler) →
    List (String × String) → Hub → Prop
  | done {h : Hub} : Carries [] h [] [] h
  | register {handler : RegistryHandler} {rest : List (Act String RegistryOrder)} {h after : Hub}
      {changes : List (Amendment RegistryHandler)} {nested : List (String × String)}
      (later : Carries rest (h.subscribe handler) changes nested after) :
      Carries (.register handler :: rest) h (.subscribes handler :: changes) nested after
  | remove {number : Nat} {rest : List (Act String RegistryOrder)} {h after : Hub}
      {changes : List (Amendment RegistryHandler)} {nested : List (String × String)}
      (later : Carries rest (h.unsubscribe number).2 changes nested after) :
      Carries (.command (.remove number) :: rest) h (.removes number :: changes) nested after
  | unsubscribe {name : String} {number : Nat} {rest : List (Act String RegistryOrder)}
      {h after : Hub} {changes : List (Amendment RegistryHandler)}
      {nested : List (String × String)} (known : h.names.lookup name = some number)
      (later : Carries rest (h.unsubscribe number).2 changes nested after) :
      Carries (.command (.unsubscribe name) :: rest) h (.removes number :: changes) nested after
  /-- A name that has never been used names nobody. -/
  | unknown {name : String} {rest : List (Act String RegistryOrder)} {h after : Hub}
      {changes : List (Amendment RegistryHandler)} {nested : List (String × String)}
      (unknown : h.names.lookup name = none) (later : Carries rest h changes nested after) :
      Carries (.command (.unsubscribe name) :: rest) h changes nested after
  | clear {rest : List (Act String RegistryOrder)} {h after : Hub}
      {changes : List (Amendment RegistryHandler)} {nested : List (String × String)}
      (later : Carries rest h.clear changes nested after) :
      Carries (.command .clear :: rest) h (.clears :: changes) nested after
  /-- An emission that nests inside goes to those who are registered when it starts. -/
  | emit {value : String} {rest : List (Act String RegistryOrder)} {h between after : Hub}
      {visits : List Visit} {changes : List (Amendment RegistryHandler)}
      {nested : List (String × String)}
      (inside : Goes value (h.registry.audience .randomnessPublished) h visits between)
      (later : Carries rest between changes nested after) :
      Carries (.command (.emit value) :: rest) h (visits.flatMap (·.changes) ++ changes)
        (visits.flatMap (·.hears value) ++ nested) after

/-- A value goes to these handlers, one after the other. -/
inductive Goes : String → List (Registration RegistryHandler) → Hub → List Visit → Hub → Prop
  | done {value : String} {h : Hub} : Goes value [] h [] h
  | visit {value : String} {entry : Registration RegistryHandler}
      {rest : List (Registration RegistryHandler)} {h between after : Hub}
      {changes : List (Amendment RegistryHandler)} {nested : List (String × String)}
      {visits : List Visit}
      (acts : Carries (entry.handler.acts h.heard.length value) (h.hearing value entry) changes
        nested between)
      (later : Goes value rest
        (between.concluded entry (entry.handler.ends h.heard.length value)) visits after) :
      Goes value (entry :: rest) h (⟨entry, h.heard.length, changes, nested⟩ :: visits) after

end

/-- The course of an emission: the value goes to those who are registered when it starts. -/
def Emits (h : Hub) (value : String) (visits : List Visit) (after : Hub) : Prop :=
  Goes value (h.registry.audience .randomnessPublished) h visits after

/-- How many visits ended without failure. -/
def completed (value : String) (visits : List Visit) : Nat :=
  visits.countP fun v => v.ending value = .completed

theorem completed_cons (value : String) (v : Visit) (visits : List Visit) :
    completed value (v :: visits) =
      completed value visits + if v.ending value = .completed then 1 else 0 := by
  simp [completed, List.countP_cons]

section Adequacy

variable {h after : Hub} {value : String} {count : Nat}

/-- What an emission of this depth makes of a hub. -/
def inside (depth : Nat) (value : String) (h : Hub) : Option Hub := (emit depth value h).map (·.2)

/-- One handler is invoked, and then the others. -/
theorem invokeAll_cons (inner : String → Hub → Option Hub) (value : String)
    (entry : Registration RegistryHandler) (rest : List (Registration RegistryHandler)) (h : Hub) :
    invokeAll (invoke inner value) reportFailure (entry :: rest) h =
      (perform inner (entry.handler.acts h.heard.length value) (h.hearing value entry)).bind
        fun between => (invokeAll (invoke inner value) reportFailure rest
          (between.concluded entry (entry.handler.ends h.heard.length value))).map
            fun (count, after) =>
              (count + if entry.handler.ends h.heard.length value = .completed then 1 else 0,
                after) := by
  have performs : invoke inner value entry h =
      (perform inner (entry.handler.acts h.heard.length value) (h.hearing value entry)).map
        fun between => (entry.handler.ends h.heard.length value, between) := by
    rw [Option.map_eq_bind]
    rfl
  rw [invokeAll, performs]
  cases perform inner (entry.handler.acts h.heard.length value) (h.hearing value entry) with
  | none => rfl
  | some between =>
    simp only [Option.map_some, Option.bind_eq_bind, Option.bind_some]
    cases entry.handler.ends h.heard.length value with
    | completed =>
      simp only [Ending.failure?, concluded]
      cases invokeAll (invoke inner value) reportFailure rest between <;> rfl
    | failed detail =>
      simp only [Ending.failure?, concluded]
      cases invokeAll (invoke inner value) reportFailure rest _ <;> rfl
    | panicked detail =>
      simp only [Ending.failure?, concluded]
      cases invokeAll (invoke inner value) reportFailure rest _ <;> rfl

section Sound

variable {inner : String → Hub → Option Hub}
  (courses : ∀ value h after, inner value h = some after → ∃ visits, h.Emits value visits after)

include courses

theorem carries_of_perform {acts : List (Act String RegistryOrder)} :
    ∀ {h after : Hub}, perform inner acts h = some after →
      ∃ changes nested, Carries acts h changes nested after := by
  induction acts with
  | nil =>
    rintro h after ⟨⟩
    exact ⟨_, _, .done⟩
  | cons act rest ih =>
    intro h after performed
    cases act with
    | register handler =>
      obtain ⟨changes, nested, later⟩ := ih performed
      exact ⟨_, _, .register later⟩
    | command order =>
      cases order with
      | unsubscribe name =>
        obtain ⟨changes, nested, later⟩ := ih performed
        cases known : h.names.lookup name with
        | none =>
          simp only [unsubscribeName, known] at later
          exact ⟨_, _, .unknown known later⟩
        | some number =>
          simp only [unsubscribeName, known] at later
          exact ⟨_, _, .unsubscribe known later⟩
      | remove number =>
        obtain ⟨changes, nested, later⟩ := ih performed
        exact ⟨_, _, .remove later⟩
      | clear =>
        obtain ⟨changes, nested, later⟩ := ih performed
        exact ⟨_, _, .clear later⟩
      | emit value =>
        obtain ⟨between, emitted, performed⟩ := Option.bind_eq_some_iff.mp performed
        obtain ⟨visits, goes⟩ := courses value h between emitted
        obtain ⟨changes, nested, later⟩ := ih performed
        exact ⟨_, _, .emit goes later⟩

theorem goes_of_invokeAll {entries : List (Registration RegistryHandler)} :
    ∀ {h after : Hub} {count : Nat},
      invokeAll (invoke inner value) reportFailure entries h = some (count, after) →
      ∃ visits, Goes value entries h visits after ∧ count = completed value visits := by
  induction entries with
  | nil =>
    rintro h after count ⟨⟩
    exact ⟨_, .done, rfl⟩
  | cons entry rest ih =>
    intro h after count invoked
    rw [invokeAll_cons] at invoked
    obtain ⟨between, performed, invoked⟩ := Option.bind_eq_some_iff.mp invoked
    obtain ⟨⟨more, last⟩, going, counted⟩ := Option.map_eq_some_iff.mp invoked
    obtain ⟨rfl, rfl⟩ := Prod.mk.inj counted
    obtain ⟨changes, nested, acts⟩ := carries_of_perform courses performed
    obtain ⟨visits, goes, rfl⟩ := ih going
    have count := completed_cons value ⟨entry, h.heard.length, changes, nested⟩ visits
    exact ⟨_, .visit acts goes, count.symm⟩

end Sound

/-- An emission that has a result has taken a course. -/
theorem emits_of_emit {depth : Nat} : ∀ {h after : Hub} {value : String} {count : Nat},
    emit depth value h = some (count, after) →
    ∃ visits, h.Emits value visits after ∧ count = completed value visits := by
  induction depth with
  | zero => rintro h after value count ⟨⟩
  | succ depth ih =>
    intro h after value count emitted
    have courses (value : String) (h after : Hub) (emitted : inside depth value h = some after) :
        ∃ visits, h.Emits value visits after := by
      obtain ⟨⟨count, last⟩, returned, rfl⟩ := Option.map_eq_some_iff.mp emitted
      obtain ⟨visits, emits, _⟩ := ih returned
      exact ⟨visits, emits⟩
    exact goes_of_invokeAll courses emitted

mutual

/-- Acts that are carried out have a result, as long as emissions may nest deep enough. -/
theorem perform_of_carries : ∀ {acts : List (Act String RegistryOrder)} {h after : Hub}
    {changes : List (Amendment RegistryHandler)} {nested : List (String × String)},
    Carries acts h changes nested after →
    ∃ enough, ∀ depth, enough ≤ depth → perform (inside depth) acts h = some after
  | _, _, _, _, _, .done => ⟨0, fun _ _ => rfl⟩
  | _, _, _, _, _, .register later => by
    obtain ⟨enough, performs⟩ := perform_of_carries later
    exact ⟨enough, performs⟩
  | _, _, _, _, _, .remove later => by
    obtain ⟨enough, performs⟩ := perform_of_carries later
    exact ⟨enough, performs⟩
  | _, _, _, _, _, .unsubscribe known later => by
    obtain ⟨enough, performs⟩ := perform_of_carries later
    refine ⟨enough, fun depth deep => ?_⟩
    simpa only [perform, unsubscribeName, known] using performs depth deep
  | _, _, _, _, _, .unknown unknown later => by
    obtain ⟨enough, performs⟩ := perform_of_carries later
    refine ⟨enough, fun depth deep => ?_⟩
    simpa only [perform, unsubscribeName, unknown] using performs depth deep
  | _, _, _, _, _, .clear later => by
    obtain ⟨enough, performs⟩ := perform_of_carries later
    exact ⟨enough, performs⟩
  | _, h, _, _, _, .emit goes later => by
    obtain ⟨enough, invokes⟩ := invokeAll_of_goes goes
    obtain ⟨enough', performs⟩ := perform_of_carries later
    refine ⟨max enough enough' + 1, fun depth deep => ?_⟩
    obtain ⟨less, rfl⟩ : ∃ less, depth = less + 1 := ⟨depth - 1, by omega⟩
    have emitted := congrArg (Option.map (·.2)) (invokes less (by omega))
    exact Option.bind_eq_some_iff.mpr ⟨_, emitted, performs (less + 1) (by omega)⟩

theorem invokeAll_of_goes : ∀ {value : String} {entries : List (Registration RegistryHandler)}
    {h after : Hub} {visits : List Visit}, Goes value entries h visits after →
    ∃ enough, ∀ depth, enough ≤ depth →
      invokeAll (invoke (inside depth) value) reportFailure entries h =
        some (completed value visits, after)
  | _, _, _, _, _, .done => ⟨0, fun _ _ => rfl⟩
  | value, entry :: rest, h, _, _, .visit acts later => by
    obtain ⟨enough, performs⟩ := perform_of_carries acts
    obtain ⟨enough', invokes⟩ := invokeAll_of_goes later
    refine ⟨max enough enough', fun depth deep => ?_⟩
    rw [invokeAll_cons, performs depth (by omega), Option.bind_some, invokes depth (by omega),
      completed_cons]
    rfl

end

/-- An emission that can take a course has a result, if emissions may nest deep enough. -/
theorem emit_of_emits {h after : Hub} {value : String} {visits : List Visit}
    (emits : h.Emits value visits after) :
    ∃ enough, ∀ depth, enough ≤ depth →
      emit depth value h = some (completed value visits, after) := by
  obtain ⟨enough, invokes⟩ := invokeAll_of_goes emits
  refine ⟨enough + 1, fun depth deep => ?_⟩
  obtain ⟨less, rfl⟩ : ∃ less, depth = less + 1 := ⟨depth - 1, by omega⟩
  exact invokes less (by omega)

end Adequacy

/-- What handlers leave behind: the registry with their changes and with no other, and these names
as the last that have heard a value. -/
structure Leaves (h : Hub) (changes : List (Amendment RegistryHandler))
    (hears : List (String × String)) (after : Hub) : Prop where
  registry : after.registry = h.registry.amended changes
  heard : after.heard = hears.reverse ++ h.heard

section Closure

variable {h between after : Hub} {changes more : List (Amendment RegistryHandler)}
  {hears later : List (String × String)}

theorem Leaves.trans (first : h.Leaves changes hears between)
    (next : between.Leaves more later after) :
    h.Leaves (changes ++ more) (hears ++ later) after := by
  constructor
  · rw [next.registry, first.registry, Registry.amended_append]
  · rw [next.heard, first.heard, List.reverse_append, List.append_assoc]

theorem subscribe_leaves (h : Hub) (handler : RegistryHandler) :
    h.Leaves [.subscribes handler] [] (h.subscribe handler) :=
  ⟨rfl, rfl⟩

theorem clear_leaves (h : Hub) : h.Leaves [.clears] [] h.clear := ⟨rfl, rfl⟩

theorem hearing_leaves (h : Hub) (value : String) (entry : Registration RegistryHandler) :
    h.Leaves [] [(entry.handler.name, value)] (h.hearing value entry) :=
  ⟨rfl, rfl⟩

theorem unsubscribe_fst (h : Hub) (number : Nat) :
    (h.unsubscribe number).1 = h.registry.contains number := by
  unfold unsubscribe
  cases h.registry.contains number <;> rfl

theorem unsubscribe_leaves (h : Hub) (number : Nat) :
    h.Leaves [.removes number] [] (h.unsubscribe number).2 := by
  unfold unsubscribe
  cases found : h.registry.contains number with
  | true => exact ⟨rfl, rfl⟩
  | false => exact ⟨(Registry.unsubscribe_absent found).symm, rfl⟩

theorem concluded_leaves (h : Hub) (entry : Registration RegistryHandler) (ending : Ending) :
    h.Leaves [] [] (h.concluded entry ending) := by
  unfold concluded
  cases ending.failure? <;> exact ⟨rfl, rfl⟩

end Closure

mutual

theorem Carries.leaves : ∀ {acts : List (Act String RegistryOrder)} {h after : Hub}
    {changes : List (Amendment RegistryHandler)} {nested : List (String × String)},
    Carries acts h changes nested after → h.Leaves changes nested after
  | _, _, _, _, _, .done => ⟨rfl, rfl⟩
  | _, h, _, _, _, .register later => (h.subscribe_leaves _).trans later.leaves
  | _, h, _, _, _, .remove later => (h.unsubscribe_leaves _).trans later.leaves
  | _, h, _, _, _, .unsubscribe _ later => (h.unsubscribe_leaves _).trans later.leaves
  | _, _, _, _, _, .unknown _ later => later.leaves
  | _, h, _, _, _, .clear later => h.clear_leaves.trans later.leaves
  | _, _, _, _, _, .emit goes later => goes.leaves.trans later.leaves

theorem Goes.leaves : ∀ {value : String} {entries : List (Registration RegistryHandler)}
    {h after : Hub} {visits : List Visit}, Goes value entries h visits after →
    h.Leaves (visits.flatMap (·.changes)) (visits.flatMap (·.hears value)) after
  | _, _, _, _, _, .done => ⟨rfl, rfl⟩
  | value, entry :: _, h, _, _, .visit acts later => by
    have acted := (h.hearing_leaves value entry).trans acts.leaves
    have visited := (acted.trans (concluded_leaves _ entry _)).trans later.leaves
    simpa [Visit.hears] using visited

end

theorem Goes.visited : ∀ {value : String} {entries : List (Registration RegistryHandler)}
    {h after : Hub} {visits : List Visit}, Goes value entries h visits after →
    visits.map (·.entry) = entries
  | _, _, _, _, _, .done => rfl
  | _, _, _, _, _, .visit _ later => congrArg _ later.visited

/-- What the course of an emission comes to. -/
structure Settles (h : Hub) (value : String) (visits : List Visit) (after : Hub) : Prop where
  /-- Whoever is registered when it starts is visited, also who is removed before its turn comes,
  and nobody else is. -/
  visited : visits.map (·.entry) = h.registry.audience .randomnessPublished
  once : (visits.map (·.entry.number)).Nodup
  /-- Who is added meanwhile has a number that has not been given when it starts. -/
  before : ∀ v ∈ visits, v.entry.number < h.registry.issued
  /-- Every visit hands over the value, and besides these there are only the visits of the emissions
  that nest inside. -/
  heard : after.heard = (visits.flatMap (·.hears value)).reverse ++ h.heard
  registry : after.registry = h.registry.amended (visits.flatMap (·.changes))
  numbered : after.registry.Numbered

theorem Emits.settles {h after : Hub} {value : String} {visits : List Visit}
    (numbered : h.registry.Numbered) (emits : h.Emits value visits after) :
    h.Settles value visits after := by
  have leaves := emits.leaves
  have visited := emits.visited
  have entries : ∀ v ∈ visits, v.entry ∈ h.registry.entries := by
    intro v mem
    have inside : v.entry ∈ h.registry.audience .randomnessPublished :=
      visited ▸ List.mem_map_of_mem mem
    exact List.mem_of_mem_filter inside
  constructor
  case visited => exact visited
  case once =>
    have numbers : (visits.map (·.entry)).map (·.number) = visits.map (·.entry.number) := by
      rw [List.map_map]
      rfl
    rw [← numbers, visited]
    exact numbered.distinct.sublist (List.filter_sublist.map _)
  case before => exact fun v mem => numbered.given _ (entries v mem)
  case heard => exact leaves.heard
  case registry => exact leaves.registry
  case numbered => exact leaves.registry ▸ numbered.amended _

/-- Whatever handlers do while they are invoked, an emission takes a course and counts the
invocations that complete; it has no result only if emissions nest inside each other without end.
And a handler is found to be removed if it is registered. -/
theorem emission_reaches_its_audience {h : Hub} (numbered : h.registry.Numbered) (value : String) :
    (∀ depth count after, emit depth value h = some (count, after) →
      ∃ visits, h.Emits value visits after ∧ count = completed value visits) ∧
    (∀ visits after, h.Emits value visits after →
      (∃ enough, ∀ depth, enough ≤ depth →
        emit depth value h = some (completed value visits, after)) ∧
      h.Settles value visits after) ∧
    ∀ number, (h.unsubscribe number).1 = true ↔ number ∈ h.registry.entries.map (·.number) := by
  refine ⟨fun _ _ _ emitted => emits_of_emit emitted, fun visits after emits => ⟨?_, ?_⟩, ?_⟩
  · exact emit_of_emits emits
  · exact emits.settles numbered
  · intro number
    rw [unsubscribe_fst, Registry.contains_iff]

/-- Handlers that change the registry in every way when they are handed an `x`: the first removes
the second, brings in another and emits, the second fails, the third removes itself and panics, and
the last takes out everybody. -/
def tangled : Hub :=
  let on (acts : List (Act String RegistryOrder)) (_ : Nat) (value : String) :=
    if value = "x" then acts else []
  let first : RegistryHandler := .mk "first"
    (on [.command (.remove 1), .register (.plain "late"), .command (.emit "y")])
    fun _ _ => .completed
  let second : RegistryHandler := .mk "second" (on []) fun _ _ => .failed "refused"
  let third : RegistryHandler := .mk "third" (on [.command (.unsubscribe "third")])
    fun _ _ => .panicked none
  let last : RegistryHandler := .mk "last" (on [.command .clear]) fun _ _ => .completed
  ((({} : Hub).subscribe first).subscribe second |>.subscribe third).subscribe last

theorem emission_reaches_its_audience_tangled :
    tangled.registry.Numbered ∧
    ∃ visits after, tangled.Emits "x" visits after ∧ completed "x" visits = 2 ∧
      visits.map (·.entry.handler.name) = ["first", "second", "third", "last"] ∧
      after.registry.size = 0 := by
  have numbered : tangled.registry.Numbered := ⟨by decide, by decide⟩
  obtain ⟨courses, settles, _⟩ := emission_reaches_its_audience numbered "x"
  have count : (emit 2 "x" tangled).map (·.1) = some 2 := by decide +kernel
  have left : (emit 2 "x" tangled).map (·.2.registry.size) = some 0 := by decide +kernel
  obtain ⟨⟨_, after⟩, emitted, rfl⟩ := Option.map_eq_some_iff.mp count
  obtain ⟨visits, emits, completes⟩ := courses 2 2 after emitted
  refine ⟨numbered, visits, after, emits, completes.symm, ?_, ?_⟩
  · have visited := congrArg (List.map (·.handler.name)) (settles visits after emits).2.visited
    rw [List.map_map] at visited
    exact visited
  · rw [emitted] at left
    exact Option.some.inj left

end Hub

end RandomBeacon
