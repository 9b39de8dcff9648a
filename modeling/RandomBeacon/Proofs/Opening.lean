import RandomBeacon.Proofs.Client.Opening
import RandomBeacon.Proofs.Lone
import RandomBeacon.Proofs.Replay

/-!
Opening a session that has the client to itself, against any pattern of failures
(`opening_of_outcomes`). The provider settles one subscribe call after another (`outcomeAt`), and
from that follow the instants of the calls (`callAt`) and how the opening ends. The opening is at
call number `k` when it is in round `k / 3`, after `k % 3` calls of that round in vain (`Calling`).
-/

namespace RandomBeacon

/-- The call with which a client at this address subscribes. -/
def subscribeCall (address : String) : Call := .subscribe .randomnessPublished address

section Provider

variable {π : Type} [Provider π] (address : String) (p : π)

/-- The end of a call during which nothing else happens. -/
def Provider.settled (c : Call) : Settlement π (Outcome c.Reply) :=
  (Provider.start c p).1.finish (Provider.start c p).2

/-- Takes up a subscribe call. -/
def Provider.subscribing : Pending π (Outcome SubscriptionId) × π :=
  Provider.start (subscribeCall address) p

def Provider.subscribed : Settlement π (Outcome SubscriptionId) :=
  Provider.settled p (subscribeCall address)

end Provider

/-- A scripted provider publishes nothing by itself. -/
theorem Scripted.subscribed_publication (address : String) (p : Scripted) :
    (Provider.subscribed address p).publication = none := by
  simp only [Provider.subscribed, Provider.settled, subscribeCall, Provider.start, start,
    settleSubscription]
  split <;> rfl

/-- What the end of an operation tells the one who asked for it. -/
def Progress.reply? : Progress → Option Reply
  | wait _ => none
  | ended result => some (.finished result)
  | lost => some .lost

namespace Client

/-- The pause of an opening that begins here before call number `k`, other than the first. -/
def pauseBefore (c : Client) (k : Nat) : Nat :=
  match k % 3 with
  | 0 => c.attemptDelay (k / 3 - 1)
  | 1 => 1000
  | _ => 2000

/-- The work that waits out the pause before call number `k`. -/
def pauseWork (π : Type) (c : Client) (k : Nat) : Work π :=
  match k % 3 with
  | 0 => .operation (.scheduled (c.openingHandoff (k / 3 - 1)) (c.attemptDelay (k / 3 - 1)))
    (.timer π (c.attemptDelay (k / 3 - 1)))
  | f + 1 => .operation (.pausing (c.roundPurpose (k / 3)) (f + 1))
    (.timer π (subscribePause (f + 1)))

/-- How many subscribe calls an opening that begins here can make. -/
def callLimit (c : Client) : Nat := 3 + 3 * c.config.reconnection.maxAttempts

section Pauses

variable (c : Client) {k : Nat}

theorem pauseBefore_again (more : k % 3 < 2) :
    c.pauseBefore (k + 1) = subscribePause (k % 3 + 1) := by
  have one : subscribePause 1 = 1000 := by decide +kernel
  have two : subscribePause 2 = 2000 := by decide +kernel
  have next : (k + 1) % 3 = k % 3 + 1 := by omega
  rw [pauseBefore, next]
  obtain first | second : k % 3 = 0 ∨ k % 3 = 1 := by omega
  · rw [first, one]
    rfl
  · rw [second, two]
    rfl

theorem pauseWork_again (π : Type) (more : k % 3 < 2) :
    c.pauseWork π (k + 1) = .operation (.pausing (c.roundPurpose (k / 3)) (k % 3 + 1))
      (.timer π (subscribePause (k % 3 + 1))) := by
  have next : (k + 1) % 3 = k % 3 + 1 := by omega
  have same : (k + 1) / 3 = k / 3 := by omega
  rw [pauseWork, next, same]

theorem pauseBefore_afresh (last : k % 3 = 2) :
    c.pauseBefore (k + 1) = c.attemptDelay (k / 3) := by
  have next : (k + 1) % 3 = 0 := by omega
  have round : (k + 1) / 3 - 1 = k / 3 := by omega
  rw [pauseBefore, next, round]
  rfl

theorem pauseWork_afresh (π : Type) (last : k % 3 = 2) :
    c.pauseWork π (k + 1) = .operation (.scheduled (c.openingHandoff (k / 3))
      (c.attemptDelay (k / 3))) (.timer π (c.attemptDelay (k / 3))) := by
  have next : (k + 1) % 3 = 0 := by omega
  have round : (k + 1) / 3 - 1 = k / 3 := by omega
  rw [pauseWork, next, round]

end Pauses

end Client

namespace World

variable {π : Type}

/-- The world that an operation finds when its wait is over. -/
def found {β : Type} (due : Nat) (pending : Pending π β) (w : World π) : World π :=
  (w.finish due pending).2.1

theorem found_core {β : Type} (due : Nat) (pending : Pending π β) (w : World π) :
    (w.found due pending).client.core = w.client.core :=
  finish_core due pending w

variable [Provider π]

/-- Makes a subscribe call. -/
def asks (now : Nat) (address : String) (w : World π) : World π :=
  { w with
    provider := (Provider.subscribing address w.provider).2
    calls := (now, subscribeCall address) :: w.calls }

theorem proceed_reply {step : Client × Progress} {reply : Reply}
    (stops : step.2.reply? = some reply) (now : Nat) (w : World π) :
    w.proceed now [] step = ⟨w.withClient step.1, .ended reply, []⟩ := by
  obtain ⟨c, progress⟩ := step
  cases progress with
  | wait stage => cases stops
  | ended | lost =>
    cases stops
    rfl

theorem enter_subscribing {w : World π} {address : String}
    (here : w.client.config.beaconAddress = address) (now : Nat) (p : Purpose) (failed : Nat) :
    w.enter now (.subscribing p failed) =
      ((Provider.subscribing address w.provider).1, w.asks now address) := by
  subst here
  rfl

end World

namespace World.Timeline

open Schedule.Timeline (Leads)

variable {π : Type} [Provider π]

section Calls

variable (t : Timeline π)

/-- The provider before subscribe call number `k`, if nothing happens between these calls. -/
def providerAt : Nat → π
  | 0 => t.state.provider
  | k + 1 => (Provider.subscribed t.client.config.beaconAddress (providerAt k)).provider

def durationAt (k : Nat) : Nat :=
  (Provider.subscribing t.client.config.beaconAddress (t.providerAt k)).1.delay

def settlementAt (k : Nat) : Settlement π (Outcome SubscriptionId) :=
  Provider.subscribed t.client.config.beaconAddress (t.providerAt k)

/-- How subscribe call number `k` ends. -/
def outcomeAt (k : Nat) : Outcome SubscriptionId := (t.settlementAt k).result

/-- Subscribe call number `k` fails for the network. -/
def Lost (k : Nat) : Prop := ∃ detail, t.outcomeAt k = .failed (.transport detail)

/-- No round is published because of these calls. -/
def Undisturbed : Prop := ∀ k < t.client.callLimit, (t.settlementAt k).publication = none

/-- The instant of subscribe call number `k`: it is made when the call before it has ended and the
pause after that is over. -/
def callAt : Nat → Nat
  | 0 => t.now
  | k + 1 => callAt k + t.durationAt k + t.client.pauseBefore (k + 1)

/-- The first `n` subscribe calls with their instants, newest first. -/
def firstCalls : Nat → List (Nat × Call)
  | 0 => []
  | n + 1 => (t.callAt n, subscribeCall t.client.config.beaconAddress) :: firstCalls n

end Calls

/-- Nobody has opened the session, and nothing is under way. -/
structure Unopened (t : Timeline π) : Prop where
  client : t.client.Unopened
  tasks : t.tasks = []

/-- How an opening that begins here ends after `n` subscribe calls. -/
structure Opens (t : Timeline π) (n : Nat) (result : Except Failure Unit) (lifecycle : Lifecycle)
    (subscription : Option SubscriptionId) (attempts : Nat) : Prop where
  reply : (t.complete .openSession).1 = some (.finished result)
  calls : (t.complete .openSession).2.state.calls = t.firstCalls n ++ t.state.calls
  rests : (client (t.complete .openSession).2).Rests lifecycle subscription attempts

/-- The opening that has begun at `t` waits for call number `k` to end. -/
structure Calling (t : Timeline π) (k : Nat) (x : Timeline π) : Prop where
  tasks : x.tasks = [⟨t.issued, some (t.callAt k + t.durationAt k),
    .operation (.subscribing (t.client.roundPurpose (k / 3)) (k % 3))
      (Provider.subscribing t.client.config.beaconAddress (t.providerAt k)).1⟩]
  now : x.now = t.callAt k
  provider : x.state.provider =
    (Provider.subscribing t.client.config.beaconAddress (t.providerAt k)).2
  calls : x.state.calls = t.firstCalls (k + 1) ++ t.state.calls
  round : t.client.InRound (k / 3) x.client

/-- The opening that has begun at `t` waits out the pause before call number `k`. -/
structure Pausing (t : Timeline π) (k : Nat) (x : Timeline π) : Prop where
  tasks : x.tasks = [⟨t.issued, some (t.callAt k), t.client.pauseWork π k⟩]
  now : x.now ≤ t.callAt k
  provider : x.state.provider = t.providerAt k
  calls : x.state.calls = t.firstCalls k ++ t.state.calls
  round : t.client.InRound (k / 3) x.client

section Turns

variable {x : Timeline π} {number due : Nat} {s : Stage} {pending : Pending π s.Signal}

/-- The turn of an operation whose wait leaves nothing behind. -/
theorem run_operation (quiet : (pending.finish x.state.provider).publication = none) :
    x.state.run due (.operation s pending) = (x.state.found due pending).proceed due []
      ((x.state.found due pending).client.resume s (pending.finish x.state.provider).result) := by
  have spawned : (x.state.finish due pending).2.2 = [] := by simp [finish, quiet]
  change proceed due (x.state.finish due pending).2.2 _ _ = _
  rw [spawned]
  rfl

section Lone

variable (alone : x.tasks = [⟨number, some due, .operation s pending⟩]) (later : x.now ≤ due)
  (asleep : rules.woken x.state (.operation s pending) = false)
  (quiet : (pending.finish x.state.provider).publication = none)
include alone later asleep quiet

/-- An operation that has the client to itself goes on to another wait. -/
theorem leads_wait {c : Client} {s' : Stage} {w : World π} {pending' : Pending π s'.Signal}
    (step : (x.state.found due pending).client.resume s (pending.finish x.state.provider).result =
      (c, .wait s'))
    (entered : ((x.state.found due pending).withClient c).enter due s' = (pending', w)) :
    Leads rules number 2 x { x with
      now := due
      state := w.journalAt due
      tasks := [⟨number, some (due + pending'.delay), .operation s' pending'⟩] } := by
  have turn := Leads.turn alone later asleep
  rwa [Schedule.Timeline.fire_wait (t := { x with now := due }) alone] at turn
  simp only [rules, run_operation quiet, step, proceed, entered]

/-- An operation that has the client to itself comes to its end. -/
theorem leads_ended {step : Client × Progress} {reply : Reply}
    (turned : (x.state.found due pending).client.resume s
      (pending.finish x.state.provider).result = step)
    (stops : step.2.reply? = some reply) :
    Leads rules number 2 x { x with
      now := due
      state := ((x.state.found due pending).withClient step.1).journalAt due
      tasks := []
      ended := ⟨number, due, reply⟩ :: x.ended } := by
  have turn := Leads.turn alone later asleep
  rwa [Schedule.Timeline.fire_ended (t := { x with now := due }) alone] at turn
  simp only [rules, run_operation quiet, turned, proceed_reply stops]

end Lone

end Turns

variable {t x : Timeline π} {k : Nat}

/-- A call that is made at its instant, by a client in its round, is the one that is waited for. -/
theorem calling_asks {w : World π} (provider : w.provider = t.providerAt k)
    (calls : w.calls = t.firstCalls k ++ t.state.calls) (round : t.client.InRound (k / 3) w.client)
    (ended : List (Schedule.Ended Reply)) (issued : Nat) :
    Calling t k {
      now := t.callAt k
      state := (w.asks (t.callAt k) t.client.config.beaconAddress).journalAt (t.callAt k)
      tasks := [⟨t.issued,
        some (t.callAt k + (Provider.subscribing t.client.config.beaconAddress w.provider).1.delay),
        .operation (.subscribing (t.client.roundPurpose (k / 3)) (k % 3))
          (Provider.subscribing t.client.config.beaconAddress w.provider).1⟩]
      ended, issued } := by
  constructor
  · rw [provider]
    rfl
  · rfl
  · rw [← provider]
    rfl
  · rw [firstCalls, List.cons_append, ← calls]
    rfl
  · exact round.congr rfl

section Errand

variable (idle : t.tasks = []) (e : Errand)
include idle

omit [Provider π] in
theorem tasks_start : (t.start e).tasks = [⟨t.issued, some t.now, .errand e⟩] := by
  simp [start, Schedule.Timeline.spawn, idle]

/-- An errand on an idle client takes its first turn at once. -/
theorem leads_start : Leads rules t.issued 2 (t.start e)
    ((t.start e).fire rules ⟨t.issued, some t.now, .errand e⟩) := by
  have asleep : rules.woken (t.start e).state (.errand e) = false := rfl
  exact Leads.turn (tasks_start idle e) (Nat.le_refl _) asleep

variable {step : Client × Progress}
  (begun : t.state.begin t.now e = t.state.proceed t.now [] step)
include begun

/-- An errand on an idle client begins with a wait. -/
theorem leads_begun {s : Stage} {w : World π} {pending : Pending π s.Signal}
    (waits : step.2 = .wait s)
    (entered : (t.state.withClient step.1).enter t.now s = (pending, w)) :
    Leads rules t.issued 2 (t.start e) { t.start e with
      state := w.journalAt t.now
      tasks := [⟨t.issued, some (t.now + pending.delay), .operation s pending⟩] } := by
  have runs : (t.start e).state.run (t.start e).now (.errand e) =
    t.state.proceed t.now [] step := begun
  have turn := leads_start idle e
  rwa [Schedule.Timeline.fire_wait (tasks_start idle e)] at turn
  simp only [rules, runs, proceed, waits, entered]
  rfl

/-- An errand on an idle client is over at once. -/
theorem leads_done {reply : Reply} (stops : step.2.reply? = some reply) :
    Leads rules t.issued 2 (t.start e) { t.start e with
      state := (t.state.withClient step.1).journalAt t.now
      tasks := []
      ended := ⟨t.issued, t.now, reply⟩ :: t.ended } := by
  have runs : (t.start e).state.run (t.start e).now (.errand e) =
    t.state.proceed t.now [] step := begun
  have turn := leads_start idle e
  rwa [Schedule.Timeline.fire_ended (tasks_start idle e)] at turn
  simp only [rules, runs, proceed_reply stops]
  rfl

end Errand

/-- An opening begins with its first call. -/
theorem Unopened.begins (unopened : t.Unopened) :
    ∃ x, Leads rules t.issued 2 (t.start .openSession) x ∧ Calling t 0 x := by
  obtain ⟨round, waits⟩ := unopened.client.openSession
  let w := t.state.withClient t.client.openSession.1
  have here : w.client.config.beaconAddress = t.client.config.beaconAddress :=
    congrArg Config.beaconAddress round.config
  exact ⟨_, leads_begun unopened.tasks .openSession rfl waits (enter_subscribing here t.now _ _),
    calling_asks (w := w) rfl rfl round _ _⟩

/-- The world that the opening finds when call number `k` has ended. -/
def afterCall (t : Timeline π) (k : Nat) (x : Timeline π) : World π :=
  x.state.found (t.callAt k + t.durationAt k)
    (Provider.subscribing t.client.config.beaconAddress (t.providerAt k)).1

section Call

variable (calling : Calling t k x)
include calling

theorem Calling.settles :
    (Provider.subscribing t.client.config.beaconAddress (t.providerAt k)).1.finish
      x.state.provider = t.settlementAt k := by
  rw [calling.provider]
  rfl

theorem Calling.inRound : t.client.InRound (k / 3) (t.afterCall k x).client :=
  calling.round.congr (found_core _ _ _)

theorem Calling.afterCall_provider : (t.afterCall k x).provider = t.providerAt (k + 1) := by
  change ((Provider.subscribing t.client.config.beaconAddress (t.providerAt k)).1.finish
    x.state.provider).provider = _
  rw [calling.settles]
  rfl

theorem Calling.later : x.now ≤ t.callAt k + t.durationAt k :=
  calling.now ▸ Nat.le_add_right _ _

variable (quiet : (t.settlementAt k).publication = none)
include quiet

/-- An opening that goes on after a call waits out the pause before the next one. -/
theorem Calling.pauses {s : Stage} {pending : Pending π s.Signal}
    (goesOn : t.client.InRound ((k + 1) / 3) ((t.afterCall k x).client.subscribed
        (t.client.roundPurpose (k / 3)) (k % 3) (t.outcomeAt k)).1 ∧
      ((t.afterCall k x).client.subscribed (t.client.roundPurpose (k / 3)) (k % 3)
        (t.outcomeAt k)).2 = .wait s)
    (entered : ∀ now (w : World π), w.enter now s = (pending, w))
    (work : t.client.pauseWork π (k + 1) = .operation s pending)
    (lasts : t.client.pauseBefore (k + 1) = pending.delay) :
    ∃ y, Leads rules t.issued 2 x y ∧ Pausing t (k + 1) y := by
  obtain ⟨round, waits⟩ := goesOn
  have finished := calling.settles
  refine ⟨_, leads_wait calling.tasks calling.later rfl (by rwa [finished])
    (by rw [finished]; exact Prod.ext rfl waits) (entered _ _), ?_⟩
  constructor
  · rw [work, callAt, lasts]
  · exact Nat.le_add_right _ _
  · exact calling.afterCall_provider
  · exact calling.calls
  · exact round.congr rfl

/-- A lost call leads to the pause before the next one, if there is one. -/
theorem Calling.lost (unopened : t.Unopened) (lost : t.Lost k)
    (more : k + 1 < t.client.callLimit) :
    ∃ y, Leads rules t.issued 2 x y ∧ Pausing t (k + 1) y := by
  obtain ⟨detail, failed⟩ := lost
  have inRound := calling.inRound
  rw [Client.callLimit] at more
  -- the last call of a round leads to the delay before the next round
  by_cases last : k % 3 = 2
  · refine calling.pauses quiet ?_ (fun _ _ => rfl) (Client.pauseWork_afresh _ π last)
      (Client.pauseBefore_afresh _ last)
    rw [failed, last, show (k + 1) / 3 = k / 3 + 1 by omega]
    exact inRound.lost_next unopened.client (by omega) rfl
  · have again : k % 3 < 2 := by omega
    refine calling.pauses quiet ?_ (fun _ _ => rfl) (Client.pauseWork_again _ π again)
      (Client.pauseBefore_again _ again)
    rw [failed, show (k + 1) / 3 = k / 3 by omega]
    exact inRound.lost_again rfl (Nat.succ_lt_succ again)

/-- An opening that is over with call number `k` has made one call more than that. -/
theorem Calling.ends {result : Except Failure Unit} {lifecycle : Lifecycle}
    {subscription : Option SubscriptionId} {attempts : Nat}
    (stops : ((t.afterCall k x).client.subscribed (t.client.roundPurpose (k / 3)) (k % 3)
        (t.outcomeAt k)).1.Rests lifecycle subscription attempts ∧
      ((t.afterCall k x).client.subscribed (t.client.roundPurpose (k / 3)) (k % 3)
        (t.outcomeAt k)).2 = .ended result)
    {n : Nat} (reached : Leads rules t.issued n (t.start .openSession) x)
    (enough : n + 2 ≤ (t.start .openSession).fuel) :
    t.Opens (k + 1) result lifecycle subscription attempts := by
  obtain ⟨rests, ended⟩ := stops
  have finished := calling.settles
  have last := reached.trans (leads_ended calling.tasks calling.later rfl (by rwa [finished])
    (by rw [finished]; rfl) (congrArg Progress.reply? ended))
  have came := Schedule.Timeline.await_of_leads last enough rfl
  constructor
  · rw [complete, came]
    simp [Schedule.Timeline.resultOf?]
  · rw [complete, came]
    exact calling.calls
  · rw [complete, came]
    exact rests.congr rfl

end Call

/-- An operation that subscribes after a pause makes the next call. -/
theorem Pausing.asks (pausing : Pausing t k x) {s : Stage} {pending : Pending π s.Signal}
    {signal : s.Signal} (work : t.client.pauseWork π k = .operation s pending)
    (asleep : rules.woken x.state (.operation s pending) = false)
    (waited : ∀ p, pending.finish p = { provider := p, result := signal })
    (goesOn : t.client.InRound (k / 3)
        ((x.state.found (t.callAt k) pending).client.resume s signal).1 ∧
      ((x.state.found (t.callAt k) pending).client.resume s signal).2 =
        .wait (.subscribing (t.client.roundPurpose (k / 3)) (k % 3))) :
    ∃ y, Leads rules t.issued 2 x y ∧ Calling t k y := by
  obtain ⟨round, waits⟩ := goesOn
  have alone := work ▸ pausing.tasks
  let w := (x.state.found (t.callAt k) pending).withClient
    ((x.state.found (t.callAt k) pending).client.resume s signal).1
  have here : w.client.config.beaconAddress = t.client.config.beaconAddress :=
    congrArg Config.beaconAddress round.config
  have kept : w.provider = t.providerAt k :=
    (congrArg Settlement.provider (waited x.state.provider)).trans pausing.provider
  refine ⟨_, leads_wait alone pausing.now asleep (by rw [waited]) ?_
    (enter_subscribing here _ _ _), calling_asks kept pausing.calls round _ _⟩
  rw [waited]
  exact Prod.ext rfl waits

/-- When a pause is over the next call is made. -/
theorem Pausing.leads (pausing : Pausing t (k + 1) x) (unopened : t.Unopened) :
    ∃ y, Leads rules t.issued 2 x y ∧ Calling t (k + 1) y := by
  have round := pausing.round
  by_cases last : k % 3 = 2
  · have next : (k + 1) / 3 = k / 3 + 1 ∧ (k + 1) % 3 = 0 := by omega
    rw [next.1] at round
    refine pausing.asks (Client.pauseWork_afresh _ π last) ?_ (fun _ => rfl) ?_
    · have epoch : x.client.budget.epoch = (t.client.openingHandoff (k / 3)).epoch :=
        round.current.epoch _ rfl
      exact decide_eq_false fun differs => differs epoch
    · rw [next.1, next.2]
      exact (round.congr (found_core _ _ _)).elapsed unopened.client (t.client.attemptDelay (k / 3))
  · have next : (k + 1) / 3 = k / 3 ∧ (k + 1) % 3 = k % 3 + 1 := by omega
    rw [next.1] at round
    refine pausing.asks (Client.pauseWork_again _ π (by omega)) rfl (fun _ => rfl) ?_
    have inRound := round.congr (found_core (t.callAt (k + 1))
      (.timer π (Client.subscribePause (k % 3 + 1))) x.state)
    rw [next.1, next.2, Client.resume, Client.beginSubscribing_current inRound.current]
    exact ⟨inRound, rfl⟩

omit [Provider π] in
theorem fuel_start (idle : t.tasks = []) (e : Errand) :
    (t.start e).fuel = 64 * 3 * 3 * (t.client.config.reconnection.maxAttempts + 2) := by
  simp [Timeline.fuel, start, Schedule.Timeline.spawn, idle, Timeline.client]

section Outcomes

variable (unopened : t.Unopened) (undisturbed : t.Undisturbed)
include unopened undisturbed

/-- As long as calls are lost an opening comes to the next one. -/
theorem Unopened.reaches (within : k < t.client.callLimit) (lost : ∀ j < k, t.Lost j) :
    ∃ x, Leads rules t.issued (2 + 4 * k) (t.start .openSession) x ∧ Calling t k x := by
  induction k with
  | zero => exact unopened.begins
  | succ k ih =>
    have earlier := Nat.lt_of_succ_lt within
    obtain ⟨x, reached, calling⟩ := ih earlier fun j less => lost j (Nat.lt_succ_of_lt less)
    obtain ⟨y, ended, pausing⟩ :=
      calling.lost (undisturbed k earlier) unopened (lost k (Nat.lt_succ_self k)) within
    obtain ⟨z, waited, calling⟩ := pausing.leads unopened
    exact ⟨z, (reached.trans ended).trans waited, calling⟩

/-- An opening that is over with call number `k` has made this call and those before it. -/
theorem Unopened.opens (within : k < t.client.callLimit) (lost : ∀ j < k, t.Lost j)
    {result : Except Failure Unit} {lifecycle : Lifecycle} {subscription : Option SubscriptionId}
    {attempts : Nat}
    (stops : ∀ d, t.client.InRound (k / 3) d →
      (d.subscribed (t.client.roundPurpose (k / 3)) (k % 3) (t.outcomeAt k)).1.Rests lifecycle
        subscription attempts ∧
      (d.subscribed (t.client.roundPurpose (k / 3)) (k % 3) (t.outcomeAt k)).2 = .ended result) :
    t.Opens (k + 1) result lifecycle subscription attempts := by
  obtain ⟨x, reached, calling⟩ := unopened.reaches undisturbed within lost
  -- four rounds for each call and the pause after it, and two for the first and the last turn
  have enough : 2 + 4 * k + 2 ≤ (t.start .openSession).fuel := by
    rw [fuel_start unopened.tasks]
    rw [Client.callLimit] at within
    omega
  exact calling.ends (undisturbed k within) (stops _ calling.inRound) reached enough

theorem Unopened.granted (within : k < t.client.callLimit) (lost : ∀ j < k, t.Lost j)
    {id : SubscriptionId} (granted : t.outcomeAt k = .returned id) :
    t.Opens (k + 1) (.ok ()) .ready (some id) 0 := by
  refine unopened.opens undisturbed within lost fun d round => ?_
  rw [granted]
  exact round.granted _ id

theorem Unopened.refused (within : k < t.client.callLimit) (lost : ∀ j < k, t.Lost j)
    {fault : Fault} (failed : t.outcomeAt k = .failed fault) (other : fault.isTransport = false) :
    t.Opens (k + 1) (.error (.subscription none fault.message)) .uninitialized none 0 := by
  refine unopened.opens undisturbed within lost fun d round => ?_
  rw [failed]
  exact round.refused unopened.client other _

theorem Unopened.spent (lost : ∀ j < t.client.callLimit, t.Lost j) :
    t.Opens t.client.callLimit
      (.error (.reconnection t.client.config.reconnection.maxAttempts)) .failed none
      t.client.config.reconnection.maxAttempts := by
  let k := 3 * t.client.config.reconnection.maxAttempts + 2
  have last : t.client.callLimit = k + 1 := by
    rw [Client.callLimit]
    omega
  have within : k < t.client.callLimit := last ▸ Nat.lt_succ_self k
  have round : k / 3 = t.client.config.reconnection.maxAttempts ∧ k % 3 = 2 := by omega
  obtain ⟨detail, failed⟩ := lost k within
  rw [last]
  refine unopened.opens undisturbed within (fun j less => lost j (Nat.lt_trans less within))
    fun d inRound => ?_
  rw [round.1] at inRound ⊢
  rw [round.2, failed]
  exact inRound.lost_spent unopened.client rfl rfl

end Outcomes

/-- A session that is closed while nothing is under way has yet to be opened. -/
theorem unopened_complete_closeSession (idle : t.tasks = [])
    (quiet : ∀ id, t.client.session.subscription = some id →
      (Provider.settled t.state.provider (.unsubscribe id)).publication = none) :
    Unopened (t.complete .closeSession).2 := by
  have unopened := t.client.unopened_closeSession
  have fuel := fuel_start idle .closeSession
  cases held : t.client.session.subscription with
  | none =>
    have stops : t.client.closeSession.2.reply? = some (.finished (.ok ())) := by
      simp [Client.closeSession, held, Progress.reply?]
    have came := Schedule.Timeline.await_of_leads (leads_done idle .closeSession rfl stops)
      (show 2 ≤ (t.start .closeSession).fuel by omega) rfl
    rw [complete, came]
    exact ⟨unopened.congr rfl, rfl⟩
  | some id =>
    have waits : t.client.closeSession.2 = .wait (.closing id) := by
      simp [Client.closeSession, held]
    have begun := leads_begun idle .closeSession rfl waits rfl
    have replies (c : Client) (outcome : Outcome Unit) :
        ∃ reply, (c.resume (.closing id) outcome).2.reply? = some reply := by
      cases outcome <;> exact ⟨_, rfl⟩
    obtain ⟨reply, stops⟩ := replies _ _
    have ended := begun.trans
      (leads_ended rfl (Nat.le_add_right _ _) rfl (quiet id held) rfl stops)
    have came := Schedule.Timeline.await_of_leads ended
      (show 4 ≤ (t.start .closeSession).fuel by omega) rfl
    rw [complete, came]
    refine ⟨unopened.congr ?_, rfl⟩
    exact (Client.resume_closing _ id _).1.trans (found_core _ _ _)

omit [Provider π] in
theorem unopened_fresh (config : Config) (factors : Nat → Binary64) (provider : π)
    (suffixes : Nat → Suffix) : (fresh config factors provider suffixes).Unopened :=
  ⟨⟨rfl, rfl⟩, rfl⟩

/-- How many calls an opening makes and how it ends are determined by the first call that is not
lost, if there is one among those that it can make. -/
theorem opening_of_outcomes :
    (∀ (config : Config) (factors : Nat → Binary64) (provider : π) (suffixes : Nat → Suffix),
      (fresh config factors provider suffixes).Unopened) ∧
    (∀ s : Timeline π, s.tasks = [] →
      (∀ id, s.client.session.subscription = some id →
        (Provider.settled s.state.provider (.unsubscribe id)).publication = none) →
      Unopened (s.complete .closeSession).2) ∧
    ∀ t : Timeline π, t.Unopened → t.Undisturbed →
      (∀ i < t.client.callLimit, (∀ j < i, t.Lost j) →
        (∀ id, t.outcomeAt i = .returned id → t.Opens (i + 1) (.ok ()) .ready (some id) 0) ∧
        ∀ fault, t.outcomeAt i = .failed fault → fault.isTransport = false →
          t.Opens (i + 1) (.error (.subscription none fault.message)) .uninitialized none 0) ∧
      ((∀ j < t.client.callLimit, t.Lost j) →
        t.Opens t.client.callLimit
          (.error (.reconnection t.client.config.reconnection.maxAttempts)) .failed none
          t.client.config.reconnection.maxAttempts) ∧
      (t.client.config.reconnection.jitter = false → ∀ k, k % 3 = 0 →
        t.client.pauseBefore k = Backoff.delay (k / 3 - 1)
          t.client.config.reconnection.baseDelay t.client.config.reconnection.maxDelay
          t.client.config.reconnection.multiplier) := by
  refine ⟨unopened_fresh, fun s => unopened_complete_closeSession, ?_⟩
  intro t unopened undisturbed
  refine ⟨?_, unopened.spent undisturbed, ?_⟩
  · intro i within lost
    exact ⟨fun _ => unopened.granted undisturbed within lost,
      fun _ => unopened.refused undisturbed within lost⟩
  · intro plain k multiple
    rw [Client.pauseBefore, multiple]
    simp only [Client.attemptDelay, ReconnectionConfig.delay, plain, Bool.false_eq_true, if_false]
    rfl

/-- A provider that loses four subscribe calls before it grants one. -/
def flaky : Timeline Scripted :=
  let lost : ScriptEntry Unit := ⟨10, .failed (.transport "connection reset")⟩
  trial 1 { script := { subscribe := [lost, lost, lost, lost, ⟨10, .returned ()⟩] } }

theorem opening_of_outcomes_flaky :
    flaky.Unopened ∧ flaky.Undisturbed ∧ 4 < flaky.client.callLimit ∧ (∀ j < 4, flaky.Lost j) ∧
    (List.range 5).map flaky.callAt = [0, 1010, 3020, 3130, 4140] ∧
    flaky.Opens 5 (.ok ()) .ready (some ⟨"sub1"⟩) 0 ∧
    Unopened ((flaky.complete .openSession).2.complete .closeSession).2 := by
  have unopened : flaky.Unopened := unopened_fresh _ _ _ _
  have undisturbed : flaky.Undisturbed := fun _ _ => Scripted.subscribed_publication _ _
  have lost : ∀ j < 4, flaky.Lost j := by
    intro j less
    refine ⟨"connection reset", ?_⟩
    match j with
    | 0 | 1 | 2 | 3 => decide +kernel
  have within : 4 < flaky.client.callLimit := by decide
  have idle : (flaky.complete .openSession).2.tasks = [] :=
    List.isEmpty_iff.mp (by decide +kernel)
  obtain ⟨_, closed, opens⟩ := opening_of_outcomes (π := Scripted)
  exact ⟨unopened, undisturbed, within, lost, by decide +kernel,
    ((opens flaky unopened undisturbed).1 4 within lost).1 ⟨"sub1"⟩ (by decide +kernel),
    closed _ idle fun _ _ => rfl⟩

end World.Timeline

end RandomBeacon
