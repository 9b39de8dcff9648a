import RandomBeacon.Proofs.Broadcast
import RandomBeacon.Proofs.Encoding
import RandomBeacon.Proofs.Entries
import RandomBeacon.Proofs.Trips

/-!
What a query finds. A simulated ledger keeps, for each number, the last round that was published
under it, and a query that succeeds returns the one that is there when the ledger reads its store
(`query_finds_last_published`): what the publication of that round gave to every handler. Results
tell rounds apart.
-/

namespace RandomBeacon

namespace Simulated

def Entry.round? : Entry → Option Round
  | .publishes r => some r
  | .submits | .completes => none

/-- The last round of this number that was published. -/
def lastPublished (number : UInt64) (entries : List Entry) : Option Round :=
  ((entries.filterMap Entry.round?).filter (·.number = number)).getLast?

theorem lastPublished_append (number : UInt64) (older newer : List Entry) :
    lastPublished number (older ++ newer) =
      (lastPublished number newer).or (lastPublished number older) := by
  simp only [lastPublished, List.filterMap_append, List.filter_append, List.getLast?_append]

theorem lastPublished_publishes (number : UInt64) (r : Round) :
    lastPublished number [.publishes r] = if r.number = number then some r else none := by
  by_cases own : r.number = number <;> simp [lastPublished, Entry.round?, own]

/-- What is found after an entry. -/
theorem Chronicle.find?_enter (number : UInt64) (b : Chronicle) (entry : Entry) :
    (b.enter entry).rounds.find? (·.number = number) =
      (lastPublished number [entry]).or (b.rounds.find? (·.number = number)) := by
  cases entry with
  | submits | completes => rfl
  | publishes r =>
    rw [lastPublished_publishes]
    by_cases own : r.number = number
    · simp [enter, own]
    · -- the rounds that make way have another number
      have kept : (fun q : Round => decide (decide (q.number ≠ r.number) = true ∧
          decide (q.number = number) = true)) = fun q => decide (q.number = number) := by
        funext q
        by_cases same : q.number = number
        · simp [same, Ne.symm own]
        · simp [same]
      have passed : decide (r.number = number) = false := decide_eq_false own
      rw [if_neg own, Option.none_or, enter, List.find?_cons, passed, List.find?_filter, kept]

/-- The store keeps the last round of each number. -/
theorem Chronicle.find?_entries (number : UInt64) (entries : List Entry) (b : Chronicle) :
    (entries.foldl Chronicle.enter b).rounds.find? (·.number = number) =
      (lastPublished number entries).or (b.rounds.find? (·.number = number)) := by
  induction entries generalizing b with
  | nil => rfl
  | cons entry rest ih =>
    have split : entry :: rest = [entry] ++ rest := rfl
    rw [List.foldl_cons, ih, Chronicle.find?_enter, split, lastPublished_append, Option.or_assoc]

end Simulated

namespace World.Timeline

open Simulated

variable {e : Surroundings Simulated} {s t : Timeline Simulated} {a : Action Simulated}
  {actions before : List (Action Simulated)} {number : Nat} {due : Option Nat} {r : UInt64}

/-- An action makes one entry at most. -/
theorem entries_length_le (t : Timeline Simulated) (a : Action Simulated) :
    (t.entries a).length ≤ 1 := by
  cases a with
  | turn number =>
    cases found : t.task? number with
    | none =>
      rw [entries_none found]
      exact Nat.zero_le 1
    | some task =>
      rw [entries_turn found]
      cases task.work with
      | calling d exchange => cases d <;> simp [Work.entries]
      | inFlight d exchange pending => cases d <;> simp [Work.entries]
      | errand | recovery | operation | submitting | querying | publishing | watching | askingChain
      | askingAccount => simp [Work.entries]
  | publish r => exact Nat.le_refl 1
  | pass | ask | cancel | listen | unlisten | adjust => exact Nat.zero_le 1

/-- The last round of a number has been published by some action, and none since. -/
theorem lastPublished_split {p : Round}
    (last : lastPublished r (t.entriesOf actions) = some p) :
    ∃ old a new, actions = old ++ a :: new ∧ (t.play old).entries a = [.publishes p] ∧
      lastPublished r (((t.play old).act a).entriesOf new) = none := by
  induction actions generalizing t with
  | nil => cases last
  | cons a rest ih =>
    have split : t.entriesOf (a :: rest) = t.entries a ++ (t.act a).entriesOf rest := rfl
    rw [split, lastPublished_append] at last
    cases later : lastPublished r ((t.act a).entriesOf rest) with
    | some q =>
      rw [later, Option.some_or] at last
      obtain ⟨old, b, new, rfl, publishes, since⟩ := ih (later.trans last)
      exact ⟨a :: old, b, new, rfl, publishes, since⟩
    | none =>
      rw [later, Option.none_or] at last
      refine ⟨[], a, rest, rfl, ?_, later⟩
      have short := t.entries_length_le a
      have here : (t.play []).entries a = t.entries a := rfl
      rw [here]
      cases made : t.entries a with
      | nil =>
        rw [made] at last
        cases last
      | cons entry others =>
        rw [made] at last short
        obtain rfl : others = [] := List.eq_nil_of_length_eq_zero (by simpa using short)
        cases entry with
        | submits | completes => cases last
        | publishes q =>
          rw [lastPublished_publishes] at last
          split at last
          · rw [Option.some.inj last]
          · cases last

/-- Where a round is published, all that handlers hear is its result. -/
theorem heard_publishes {p : Round} (publishes : t.entries a = [.publishes p]) :
    ∃ heard, (t.act a).state.scene.host.heard = heard ++ t.state.scene.host.heard ∧
      ∀ entry ∈ heard, entry.2 = p.result := by
  have published (q : Round) (w : World Simulated) :
      ∃ heard, (w.publish q).2.scene.host.heard = heard ++ w.scene.host.heard ∧
        ∀ entry ∈ heard, entry.2 = q.result := by
    refine ⟨_, World.publish_heard q w, ?_⟩
    intro entry mem
    obtain ⟨x, _, rfl⟩ := List.mem_map.mp (List.mem_reverse.mp mem)
    rfl
  cases a with
  | publish q =>
    obtain rfl := Entry.publishes.inj (List.singleton_inj.mp publishes)
    exact published q t.state
  | turn number =>
    cases found : t.task? number with
    | none =>
      rw [entries_none found] at publishes
      cases publishes
    | some task =>
      rw [entries_turn found] at publishes
      rw [state_turn found]
      obtain ⟨id, due, work⟩ := task
      cases work with
      | publishing draw =>
        obtain rfl := Entry.publishes.inj (List.singleton_inj.mp publishes)
        exact published (draw t.state.provider).1
          { t.state with provider := (draw t.state.provider).2 }
      | calling d exchange => cases d <;> cases publishes
      | inFlight d exchange pending => cases d <;> cases publishes
      | errand | recovery | operation | submitting | querying | watching | askingChain
      | askingAccount => cases publishes
  | pass | ask | cancel | listen | unlisten | adjust => cases publishes

/-- A query that succeeds has found what the ledger held when it read its store. -/
theorem Runs.query_reads (sound : Sound s) (retired : s.Retired) (traded : s.Traded)
    (found : s.task? number = some ⟨number, due, .errand (.query (.getRandomness r))⟩)
    (allowed : s.Allows e (.turn number)) (later : Runs e (s.act (.turn number)) actions t)
    {instant : Nat} {x : Option Randomness}
    (ended : ⟨number, instant, .found (.ok x)⟩ ∈ t.ended) :
    ∃ earlier rest due' pending, actions = earlier ++ .turn s.issued :: rest ∧
      ((s.act (.turn number)).play earlier).task? s.issued =
        some ⟨s.issued, due', .inFlight (.query (.getRandomness r)) s.state.exchanges pending⟩ ∧
      x = (((s.act (.turn number)).play earlier).state.provider.find? r).map Round.result := by
  have asks : (Errand.query (.getRandomness r)).inquiry? s.now s.state =
    some (.query (.getRandomness r)) := rfl
  obtain ⟨outcome, is, returned⟩ :=
    later.reply_brought_back sound retired traded found asks allowed ended rfl rfl
  obtain @⟨earlier, rest, due', pending, rfl, flies, brings⟩ := returned
  refine ⟨earlier, rest, due', pending, rfl, flies, ?_⟩
  have here := later.split.1.reachable.sound ((step_act allowed).sound sound)
  obtain ⟨b, rfl⟩ := Work.Issued.inFlight
    (here.issued _ (List.mem_map_of_mem (task?_spec flies).1))
  -- a call that failed would have been replied to with its failure
  have settled : (b.pending (.query (.getRandomness r))).finish
      ((s.act (.turn number)).play earlier).state.provider =
    settleQuery b r ((s.act (.turn number)).play earlier).state.provider := rfl
  rw [settled, settleQuery] at brings
  by_cases fails : b.queryTransportFailure
  · rw [if_pos fails] at brings
    subst brings
    cases is
  · rw [if_neg fails] at brings
    subst brings
    cases is
    rfl

/-- In every run over a ledger that starts empty, a query that succeeds returns the result of the
last round of its number that was published before the provider read its store, which is when the
call that was detached for the query ended, and nothing if there was none: the same result that the
publication of this round gave to every handler that heard it. No two rounds have the same result,
and each byte field can be read back from its text. -/
theorem query_finds_last_published (within : ∀ l m, e.adjusts l m → l.Changes m) {config : Config}
    {factors : Nat → Binary64} {ledger : Simulated} {suffixes : Nat → Suffix}
    (empty : ledger.rounds = []) (run : Runs e (fresh config factors ledger suffixes) before s)
    (found : s.task? number = some ⟨number, due, .errand (.query (.getRandomness r))⟩)
    (allowed : s.Allows e (.turn number)) (later : Runs e (s.act (.turn number)) actions t)
    {instant : Nat} {x : Option Randomness}
    (ended : ⟨number, instant, .found (.ok x)⟩ ∈ t.ended) :
    (∃ earlier rest due' pending history, actions = earlier ++ .turn s.issued :: rest ∧
      ((s.act (.turn number)).play earlier).task? s.issued =
        some ⟨s.issued, due', .inFlight (.query (.getRandomness r)) s.state.exchanges pending⟩ ∧
      history = before ++ .turn number :: earlier ∧
      x = (lastPublished r ((fresh config factors ledger suffixes).entriesOf history)).map
        Round.result ∧
      ∀ p, lastPublished r ((fresh config factors ledger suffixes).entriesOf history) = some p →
        ∃ old a new heard, history = old ++ a :: new ∧
          ((fresh config factors ledger suffixes).play old).entries a = [.publishes p] ∧
          (((fresh config factors ledger suffixes).play old).act a).state.scene.host.heard =
            heard ++ ((fresh config factors ledger suffixes).play old).state.scene.host.heard ∧
          ∀ entry ∈ heard, some entry.2 = x) ∧
    (∀ p q : Round, p.result = q.result → p = q) ∧
    (∀ p : Round, bytes? p.result.value = some p.value.toList ∧
      bytes? p.result.nonce = some p.nonce.toList ∧
      bytes? p.result.attestation = some p.attestation) := by
  refine ⟨?_, fun p q => Round.result_injective, fun p =>
    ⟨bytes?_prefixedHex _, bytes?_prefixedHex _, bytes?_prefixedHex _⟩⟩
  have fresh_sound := sound_fresh config factors ledger suffixes
  have reached := run.reachable
  obtain ⟨earlier, rest, due', pending, is, flies, reads⟩ :=
    later.query_reads (reached.sound fresh_sound)
      (reached.retired fresh_sound.numbered (retired_fresh config factors ledger suffixes))
      (reached.traded (traded_fresh config factors ledger suffixes)) found allowed ended
  subst is
  -- what the provider reads is what has been entered until then
  have until_read : Runs e (fresh config factors ledger suffixes) (before ++ .turn number :: earlier)
      ((s.act (.turn number)).play earlier) :=
    run.append ⟨⟨allowed, later.split.1.performs⟩, rfl⟩
  have chronicle := until_read.chronicle within fresh_sound
  have last := Chronicle.find?_entries r
    ((fresh config factors ledger suffixes).entriesOf (before ++ .turn number :: earlier))
    ledger.chronicle
  have holds : ((s.act (.turn number)).play earlier).state.provider.find? r =
      lastPublished r ((fresh config factors ledger suffixes).entriesOf
        (before ++ .turn number :: earlier)) := by
    have kept : ((s.act (.turn number)).play earlier).state.provider.find? r =
        ((s.act (.turn number)).play earlier).state.provider.chronicle.rounds.find?
          (·.number = r) := rfl
    have nothing : ledger.chronicle.rounds.find? (·.number = r) = none := by
      rw [Simulated.chronicle, empty, List.find?_nil]
    rw [nothing, Option.or_none] at last
    rw [kept, chronicle]
    exact last
  rw [holds] at reads
  refine ⟨earlier, rest, due', pending, _, rfl, flies, rfl, reads, ?_⟩
  intro p published
  obtain ⟨old, a, new, split, publishes, _⟩ := lastPublished_split published
  obtain ⟨heard, hears, same⟩ := heard_publishes publishes
  refine ⟨old, a, new, heard, split, publishes, hears, ?_⟩
  intro entry mem
  rw [reads, published, same entry mem]
  rfl

section Trials

/-- Two rounds of one number. -/
def early : Round := ⟨7, .replicate 32 1, .replicate 16 0, []⟩

def corrected : Round := ⟨7, .replicate 32 2, .replicate 16 0, []⟩

/-- A ledger that takes its time over queries. -/
def pensive : Timeline Simulated := trial 3 (.trial { queryDelay := 5 })

/-- A session is opened and a round is published. -/
def approach : List (Action Simulated) :=
  [.ask .openSession, .turn 0, .turn 0, .publish early]

/-- A query for it is asked for. -/
def inquiring : Timeline Simulated := (pensive.play approach).start (.query (.getRandomness 7))

/-- While the call is in flight, the round is published anew. -/
def amid : List (Action Simulated) := [.turn 2, .publish corrected, .pass 5, .turn 2]

/-- The call has come back. -/
def informed : Timeline Simulated := (inquiring.act (.turn 1)).play amid

theorem query_finds_last_published_corrected :
    ⟨1, 5, .found (.ok (some corrected.result))⟩ ∈ (informed.act (.turn 1)).ended ∧
    ∃ earlier rest, amid ++ [.turn 1] = earlier ++ .turn 2 :: rest ∧
      some corrected.result = (lastPublished 7 (pensive.entriesOf
        (approach ++ [.ask (.query (.getRandomness 7))] ++ .turn 1 :: earlier))).map
          Round.result := by
  let surroundings : Surroundings Simulated := .limited Simulated.Changes fun _ _ => true
  have turns {t : Timeline Simulated} {number : Nat}
      (up : (t.task? number).any (t.isReady rules) = true) :
      t.Allows surroundings (.turn number) := allows_turn (fun _ _ => rfl) up
  have opened : Runs surroundings pensive approach (pensive.play approach) :=
    ⟨⟨trivial, turns (by decide +kernel), turns (by decide +kernel), trivial, trivial⟩, rfl⟩
  have run : Runs surroundings pensive (approach ++ [.ask (.query (.getRandomness 7))]) inquiring :=
    opened.append ⟨⟨trivial, trivial⟩, rfl⟩
  have numbered := opened.reachable.numbered (numbered_fresh _ _ _ _)
  have issued : (pensive.play approach).issued = 1 := by decide +kernel
  have found := task?_start numbered (.query (.getRandomness 7))
  rw [issued] at found
  have allowed : inquiring.Allows surroundings (.turn 1) := turns (by decide +kernel)
  have idle : (((inquiring.act (.turn 1)).act (.turn 2)).act (.publish corrected)).Idle rules 5 := by
    decide +kernel
  have later : Runs surroundings (inquiring.act (.turn 1)) amid informed :=
    ⟨⟨turns (by decide +kernel), trivial, idle.later, turns (by decide +kernel), trivial⟩, rfl⟩
  have last : informed.Allows surroundings (.turn 1) := turns (by decide +kernel)
  have whole : Runs surroundings (inquiring.act (.turn 1)) (amid ++ [.turn 1])
      (informed.act (.turn 1)) := later.append ⟨⟨last, trivial⟩, rfl⟩
  -- the reply is what the call has brought back
  have asked := run.reachable.numbered (numbered_fresh _ _ _ _)
  have waits := later.awaits (admission_waits asked found rfl (by decide +kernel))
    (by decide +kernel) (by simp [amid])
  obtain ⟨ended, _⟩ := turn_inquiry
    ((run.reachable.next (step_act allowed)).trans later.reachable |>.numbered
      (numbered_fresh _ _ _ _)) waits rfl
  have outcome : informed.state.queryOutcome? inquiring.state.exchanges =
      some (.returned ⟨some corrected⟩) := by decide +kernel
  have now : informed.now = 5 := by decide +kernel
  simp only [Inquiry.outcome?, outcome, now] at ended
  have mem : ⟨1, 5, .found (.ok (some corrected.result))⟩ ∈ (informed.act (.turn 1)).ended :=
    ended ▸ List.mem_cons_self
  obtain ⟨⟨earlier, rest, _, _, _, is, _, rfl, reads, _⟩, _⟩ :=
    query_finds_last_published (fun _ _ changes => changes) rfl run found allowed whole mem
  have second : inquiring.issued = 2 := by decide +kernel
  rw [second] at is
  exact ⟨mem, earlier, rest, is, reads⟩

end Trials

end World.Timeline

end RandomBeacon
