import Mathlib.Algebra.Ring.Parity
import Mathlib.Order.MinMax
import RandomBeacon.Proofs.Acceptance
import RandomBeacon.Proofs.Binary64.Order

/-!
The delays of an acceptable configuration climb from the base to the cap
(`Config.delays_climb_to_cap`). A power by repeated squaring whose products are rounded is no
product of equal factors, so that it grows with its exponent is seen digit by digit
(`pow_go_succ`): adding one turns the lowest ones of the exponent into zeros and the zero above
them into a one, and what the ones had gathered is no greater than the square that takes their
place.
-/

namespace RandomBeacon

namespace Binary64

/-- Both are numbers from one to infinity, the first no greater than the second. -/
inductive Climbs : Binary64 → Binary64 → Prop
  | codes {a b : Nat} (one : oneCode ≤ a) (le : a ≤ b) (top : b ≤ infinityCode) :
      Climbs (.number false a) (.number false b)

variable {x y z x' y' : Binary64} {a b : Nat}

theorem one_eq : one = .number false oneCode := rfl

namespace Climbs

theorem inv (climbs : Climbs (.number false a) (.number false b)) :
    oneCode ≤ a ∧ a ≤ b ∧ b ≤ infinityCode := by
  cases climbs with
  | codes one le top => exact ⟨one, le, top⟩

theorem trans (first : Climbs x y) (second : Climbs y z) : Climbs x z := by
  cases first with
  | codes one le _ =>
    cases second with
    | codes _ le' top => exact .codes one (le.trans le') top

theorem left (climbs : Climbs x y) : Climbs x x := by
  cases climbs with
  | codes one le top => exact .codes one (Nat.le_refl _) (le.trans top)

theorem right (climbs : Climbs x y) : Climbs y y := by
  cases climbs with
  | codes one le top => exact .codes (one.trans le) (Nat.le_refl _) top

theorem mul (first : Climbs x x') (second : Climbs y y') :
    Climbs (x.mul y) (x'.mul y') := by
  cases first with
  | codes one le top =>
    cases second with
    | codes one' le' top' =>
      rw [mul_number one one', mul_number (one.trans le) (one'.trans le')]
      exact .codes (one.trans (le_product (le.trans top) one' (le'.trans top')))
        (product_mono le le' top top') (product_le_infinityCode _ _)

theorem mul_one (number : Climbs x x) : x.mul .one = x := by
  cases number with
  | codes one _ top => exact (mul_number one (Nat.le_refl _)).trans (by rw [product_one top])

theorem one_mul (number : Climbs x x) : one.mul x = x := by
  cases number with
  | codes one _ top =>
    exact (mul_number (Nat.le_refl _) one).trans (by rw [product_comm, product_one top])

theorem one_one : Climbs .one .one :=
  .codes (Nat.le_refl _) (Nat.le_refl _) oneCode_lt_infinityCode.le

theorem one_le (number : Climbs x x) : Climbs .one x := by
  cases number with
  | codes one _ top => exact .codes (Nat.le_refl _) one top

theorem le_mul (first : Climbs x x) (second : Climbs y y) : Climbs x (x.mul y) := by
  have climbs := first.mul second.one_le
  rwa [first.mul_one] at climbs

theorem ofNat {m n : Nat} (positive : 0 < m) (le : m ≤ n) :
    Climbs (.ofNat m) (.ofNat n) :=
  .codes (wholeCode_mono positive) (wholeCode_mono le) (wholeCode_le_infinityCode n)

theorem toNatWithin (climbs : Climbs x y) (limit : Nat) :
    x.toNatWithin limit ≤ y.toNatWithin limit := by
  cases climbs with
  | codes _ le _ =>
    have units := units_strictMono.monotone le
    refine min_le_min_right limit (Nat.div_le_div_right ?_)
    omega

end Climbs

/-- Whole numbers up to 2^53 are kept by rounding. -/
theorem toNatWithin_ofNat {n limit : Nat} (small : n ≤ 2 ^ 53) (within : n ≤ limit) :
    (ofNat n).toNatWithin limit = n := by
  have whole : (2 * (n * unitsPerOne) + unitsPerOne) / (2 * unitsPerOne) = n := by
    have factored : 2 * (n * unitsPerOne) + unitsPerOne = (2 * n + 1) * unitsPerOne := by
      rw [Nat.add_mul, Nat.one_mul, Nat.mul_assoc]
    rw [factored, Nat.mul_div_mul_right _ _ unitsPerOne_pos]
    omega
  rw [ofNat_eq, toNatWithin, units_wholeCode small, whole]
  exact Nat.min_eq_left within

section Power

variable {square acc acc' : Binary64}

theorem pow_go_zero (square acc : Binary64) : pow.go square 0 acc = acc := by
  rw [pow.go]
  rfl

theorem pow_go_even (square acc : Binary64) (k : Nat) :
    pow.go square (2 * k) acc = pow.go (square.mul square) k acc := by
  rw [pow.go]
  have half : 2 * k / 2 = k := by omega
  have even : 2 * k % 2 ≠ 1 := by omega
  simp only [half, if_neg even]
  split
  next zero => rw [zero, pow_go_zero]
  next => rfl

theorem pow_go_odd (square acc : Binary64) (k : Nat) :
    pow.go square (2 * k + 1) acc = pow.go (square.mul square) k (acc.mul square) := by
  rw [pow.go]
  have half : (2 * k + 1) / 2 = k := by omega
  have odd : (2 * k + 1) % 2 = 1 := by omega
  simp only [half, if_pos odd]
  split
  next zero => rw [zero, pow_go_zero]
  next => rfl

theorem pow_go_mono (number : Climbs square square) (climbs : Climbs acc acc') (n : Nat) :
    Climbs (pow.go square n acc) (pow.go square n acc') := by
  induction n using Nat.strong_induction_on generalizing square acc acc' with
  | _ n ih =>
    rcases Nat.even_or_odd' n with ⟨k, rfl | rfl⟩
    · rcases Nat.eq_zero_or_pos k with rfl | positive
      · simpa [pow_go_zero] using climbs
      · rw [pow_go_even, pow_go_even]
        exact ih k (by omega) (number.mul number) climbs
    · rw [pow_go_odd, pow_go_odd]
      exact ih k (by omega) (number.mul number) (climbs.mul number)

/-- What the lowest digits have gathered is no greater than the square that is next, so the power
grows when one is added. -/
theorem pow_go_succ (climbs : Climbs acc square) (n : Nat) :
    Climbs (pow.go square n acc) (pow.go square (n + 1) one) := by
  induction n using Nat.strong_induction_on generalizing square acc with
  | _ n ih =>
    have number := climbs.right
    rcases Nat.even_or_odd' n with ⟨k, rfl | rfl⟩
    · -- the lowest digit was a zero, and the others stay
      rw [pow_go_even, pow_go_odd, number.one_mul]
      exact pow_go_mono (number.mul number) climbs k
    · -- one is carried on to the next digit
      have next : 2 * k + 1 + 1 = 2 * (k + 1) := by omega
      rw [pow_go_odd, next, pow_go_even]
      exact ih k (by omega) (climbs.mul number)

theorem pow_succ (number : Climbs x x) (n : Nat) : Climbs (x.pow n) (x.pow (n + 1)) :=
  pow_go_succ number.one_le n

end Power

theorem min_number (a b : Nat) :
    min (.number false a) (.number false b) = .number false (Nat.min a b) := by
  have order : lt (.number false b) (.number false a) = decide (b < a) := by
    simp [lt, position]
  simp only [min, order, decide_eq_true_eq]
  split
  next less => exact congrArg _ (Nat.min_eq_right (Nat.le_of_lt less)).symm
  next most => exact congrArg _ (Nat.min_eq_left (Nat.le_of_not_lt most)).symm

/-- A number between one and another. -/
theorem climbs_of_not_lt {most : Nat} (number : x ≠ .nan) (from_one : x.lt one = false)
    (to_most : (Binary64.number false most).lt x = false) (top : most ≤ infinityCode) :
    Climbs .one x ∧ Climbs x (.number false most) := by
  cases x with
  | nan => exact absurd rfl number
  | number negative code =>
    rw [one_eq, lt, decide_eq_false_iff_not] at from_one
    rw [lt, decide_eq_false_iff_not] at to_most
    simp only [position, Bool.false_eq_true, if_false] at from_one to_most
    cases negative with
    | false =>
      have one : oneCode ≤ code := by omega
      have le : code ≤ most := by omega
      exact ⟨.codes (Nat.le_refl _) one (le.trans top), .codes one le top⟩
    | true =>
      have positive : 0 < oneCode := by decide +kernel
      simp only [if_true] at from_one
      omega

theorem climbs_of_finite (finite : x.isFinite = true) (from_one : x.lt one = false) :
    Climbs .one x := by
  cases x with
  | nan => cases finite
  | number negative code =>
    have below : code < infinityCode := of_decide_eq_true finite
    refine (climbs_of_not_lt (by simp) from_one ?_ (Nat.le_refl _)).1
    rw [lt, decide_eq_false_iff_not]
    cases negative <;> simp only [position, Bool.false_eq_true, if_true, if_false] <;> omega

theorem one_climbs_pow (number : Climbs .one x) (n : Nat) : Climbs .one (x.pow n) := by
  induction n with
  | zero => exact (pow_go_zero x one).symm ▸ Climbs.one_one
  | succ n ih => exact ih.trans (pow_succ number.right n)

end Binary64

namespace Backoff

open Binary64

variable {attempt base cap : Nat} {multiplier factor : Binary64}

/-- The delay that the power gives, before the cap. -/
def grown (attempt base : Nat) (multiplier : Binary64) : Binary64 :=
  Binary64.mul (.ofNat base) (multiplier.pow (Nat.min attempt exponentLimit))

section Growth

variable (positive : 0 < base) (number : Climbs .one multiplier)
include positive number

theorem base_climbs_grown (attempt : Nat) :
    Climbs (.ofNat base) (grown attempt base multiplier) :=
  (Climbs.ofNat positive (Nat.le_refl _)).le_mul (one_climbs_pow number _).right

theorem grown_succ (attempt : Nat) :
    Climbs (grown attempt base multiplier) (grown (attempt + 1) base multiplier) := by
  refine (Climbs.ofNat positive (Nat.le_refl _)).mul ?_
  rcases Nat.lt_or_ge attempt exponentLimit with below | past
  · have now : Nat.min attempt exponentLimit = attempt := Nat.min_eq_left below.le
    have next : Nat.min (attempt + 1) exponentLimit = attempt + 1 := Nat.min_eq_left below
    rw [now, next]
    exact pow_succ number.right attempt
  · -- the exponent is not raised any more
    have now : Nat.min attempt exponentLimit = exponentLimit := Nat.min_eq_right past
    have next : Nat.min (attempt + 1) exponentLimit = exponentLimit :=
      Nat.min_eq_right (Nat.le_succ_of_le past)
    rw [now, next]
    exact (one_climbs_pow number _).right

end Growth

theorem capped_eq (attempt base cap : Nat) (multiplier : Binary64) :
    capped attempt base cap multiplier =
      if (grown attempt base multiplier).isFinite then
        (grown attempt base multiplier).min (.ofNat cap) else .ofNat cap := rfl

/-- What is beyond the cap is cut off, infinity included. -/
theorem capped_of_grown {code : Nat} (is : grown attempt base multiplier = .number false code) :
    capped attempt base cap multiplier = .number false (Nat.min code (wholeCode cap)) := by
  have limit := wholeCode_le_infinityCode cap
  rw [capped_eq, is, isFinite, ofNat_eq, min_number]
  simp only [decide_eq_true_eq]
  split
  next => rfl
  next infinite =>
    exact congrArg _ (Nat.min_eq_right (limit.trans (Nat.le_of_not_lt infinite))).symm

/-- Before it is rounded, the delay climbs from the base to the cap. -/
theorem capped_climbs (positive : 0 < base) (ordered : base ≤ cap)
    (number : Climbs .one multiplier) (attempt : Nat) :
    Climbs (.ofNat base) (capped attempt base cap multiplier) ∧
    Climbs (capped attempt base cap multiplier) (capped (attempt + 1) base cap multiplier) ∧
    Climbs (capped attempt base cap multiplier) (.ofNat cap) := by
  have limit := wholeCode_le_infinityCode cap
  have room := wholeCode_mono ordered
  have least := base_climbs_grown positive number attempt
  have step := grown_succ positive number attempt
  generalize now : grown attempt base multiplier = x at least step
  generalize next : grown (attempt + 1) base multiplier = y at step
  cases step with
  | @codes a b one le top =>
    rw [ofNat_eq] at least
    obtain ⟨base_one, base_le, _⟩ := least.inv
    have above : wholeCode base ≤ Nat.min a (wholeCode cap) := Nat.le_min.mpr ⟨base_le, room⟩
    have below : Nat.min a (wholeCode cap) ≤ wholeCode cap := Nat.min_le_right _ _
    rw [capped_of_grown now, capped_of_grown next, ofNat_eq, ofNat_eq]
    refine ⟨.codes base_one above (below.trans limit), ?_,
      .codes (base_one.trans above) below limit⟩
    exact .codes (base_one.trans above) (min_le_min_right _ le)
      ((Nat.min_le_right _ _).trans limit)

/-- The longest delay that jitter makes of the cap: 1.3 times the cap, rounded. -/
def longest (cap : Nat) : Nat :=
  (Binary64.mul (.ofNat cap) (.ofRatio false 13 10)).toNatWithin delayLimit

/-- A factor that jitter may draw: a number from 1 to 1.3. -/
structure Drawn (factor : Binary64) : Prop where
  number : factor ≠ .nan
  least : factor.lt .one = false
  most : (Binary64.ofRatio false 13 10).lt factor = false

theorem Drawn.climbs (drawn : Drawn factor) :
    Climbs .one factor ∧ Climbs factor (.ofRatio false 13 10) :=
  climbs_of_not_lt drawn.number drawn.least drawn.most (nearestCode_le_infinityCode _ _)

section Delays

variable (positive : 0 < base) (ordered : base ≤ cap) (base_exact : base ≤ 2 ^ 53)
  (cap_exact : cap ≤ 2 ^ 53) (number : Climbs .one multiplier)

theorem toNatWithin_delayLimit {n : Nat} (small : n ≤ 2 ^ 53) :
    (Binary64.ofNat n).toNatWithin delayLimit = n := by
  have room : 2 ^ 53 ≤ delayLimit := by decide
  exact toNatWithin_ofNat small (small.trans room)

include positive ordered number

theorem delay_eq (attempt : Nat) :
    delay attempt base cap multiplier =
      (capped attempt base cap multiplier).toNatWithin delayLimit := by
  obtain ⟨_, step, _⟩ := capped_climbs positive ordered number attempt
  rw [delay, stretched, step.left.mul_one]

theorem delay_succ (attempt : Nat) :
    delay attempt base cap multiplier ≤ delay (attempt + 1) base cap multiplier := by
  obtain ⟨_, step, _⟩ := capped_climbs positive ordered number attempt
  rw [delay_eq positive ordered number, delay_eq positive ordered number]
  exact step.toNatWithin delayLimit

theorem stretched_between (drawn : Drawn factor) (attempt : Nat) :
    delay attempt base cap multiplier ≤ stretched attempt base cap multiplier factor ∧
    stretched attempt base cap multiplier factor ≤ longest cap := by
  obtain ⟨_, _, most⟩ := capped_climbs positive ordered number attempt
  obtain ⟨least, utmost⟩ := drawn.climbs
  rw [delay_eq positive ordered number]
  exact ⟨(most.left.le_mul least.right).toNatWithin delayLimit,
    (most.mul utmost).toNatWithin delayLimit⟩

include base_exact in
theorem base_le_delay (attempt : Nat) : base ≤ delay attempt base cap multiplier := by
  obtain ⟨least, _, _⟩ := capped_climbs positive ordered number attempt
  have bound := least.toNatWithin delayLimit
  rwa [toNatWithin_delayLimit base_exact, ← delay_eq positive ordered number] at bound

include cap_exact in
theorem delay_le_cap (attempt : Nat) : delay attempt base cap multiplier ≤ cap := by
  obtain ⟨_, _, most⟩ := capped_climbs positive ordered number attempt
  have bound := most.toNatWithin delayLimit
  rwa [toNatWithin_delayLimit cap_exact, ← delay_eq positive ordered number] at bound

include cap_exact in
theorem delay_of_overflow (infinite : (grown attempt base multiplier).isFinite = false) :
    delay attempt base cap multiplier = cap := by
  rw [delay_eq positive ordered number, capped_eq, infinite, if_neg Bool.false_ne_true,
    toNatWithin_delayLimit cap_exact]

end Delays

end Backoff

namespace ReconnectionConfig

/-- The delay before attempt number `attempt`, if nothing stretches it. -/
def plainDelay (r : ReconnectionConfig) (attempt : Nat) : Nat :=
  Backoff.delay attempt r.baseDelay r.maxDelay r.multiplier

/-- The delay before attempt number `attempt`, stretched by a factor. -/
def stretchedDelay (r : ReconnectionConfig) (factor : Binary64) (attempt : Nat) : Nat :=
  Backoff.stretched attempt r.baseDelay r.maxDelay r.multiplier factor

end ReconnectionConfig

namespace Config

variable {c : Config}

/-- What the checks of an acceptable configuration leave of its reconnection. -/
theorem Acceptable.reconnection (accepted : c.Acceptable) :
    0 < c.reconnection.baseDelay ∧ c.reconnection.baseDelay ≤ c.reconnection.maxDelay ∧
    Binary64.Climbs .one c.reconnection.multiplier := by
  have base : ¬c.reconnection.baseDelay = 0 := accepted.not_afflicts .zeroBaseDelay
  have ordered : ¬c.reconnection.maxDelay < c.reconnection.baseDelay := fun below =>
    accepted.not_afflicts (.maxDelayBelowBase _ _) ⟨rfl, rfl, below⟩
  have finite : ¬c.reconnection.multiplier.isFinite = false := fun infinite =>
    accepted.not_afflicts (.invalidMultiplier _) ⟨rfl, .inl infinite⟩
  have least : ¬c.reconnection.multiplier.lt .one = true := fun less =>
    accepted.not_afflicts (.invalidMultiplier _) ⟨rfl, .inr less⟩
  exact ⟨Nat.pos_of_ne_zero base, Nat.le_of_not_lt ordered,
    Binary64.climbs_of_finite (Bool.not_eq_false _ ▸ finite) (Bool.not_eq_true _ ▸ least)⟩

/-- The delays of an acceptable configuration climb from the base to the cap, which they have where
the power leaves the finite numbers. Jitter makes none shorter, and none longer than 1.3 times the
cap. -/
theorem delays_climb_to_cap (accepted : c.Acceptable)
    (base_exact : c.reconnection.baseDelay ≤ 2 ^ 53) (cap_exact : c.reconnection.maxDelay ≤ 2 ^ 53)
    (attempt : Nat) :
    c.reconnection.baseDelay ≤ c.reconnection.plainDelay attempt ∧
    c.reconnection.plainDelay attempt ≤ c.reconnection.plainDelay (attempt + 1) ∧
    c.reconnection.plainDelay attempt ≤ c.reconnection.maxDelay ∧
    ((Backoff.grown attempt c.reconnection.baseDelay c.reconnection.multiplier).isFinite = false →
      c.reconnection.plainDelay attempt = c.reconnection.maxDelay) ∧
    ∀ factor, Backoff.Drawn factor →
      c.reconnection.plainDelay attempt ≤ c.reconnection.stretchedDelay factor attempt ∧
      c.reconnection.stretchedDelay factor attempt ≤ Backoff.longest c.reconnection.maxDelay ∧
      c.reconnection.delay factor attempt =
        if c.reconnection.jitter then c.reconnection.stretchedDelay factor attempt
        else c.reconnection.plainDelay attempt := by
  obtain ⟨positive, ordered, number⟩ := accepted.reconnection
  refine ⟨Backoff.base_le_delay positive ordered base_exact number attempt,
    Backoff.delay_succ positive ordered number attempt,
    Backoff.delay_le_cap positive ordered cap_exact number attempt,
    Backoff.delay_of_overflow positive ordered cap_exact number, fun factor drawn => ?_⟩
  obtain ⟨least, most⟩ := Backoff.stretched_between positive ordered number drawn attempt
  refine ⟨least, most, ?_⟩
  rw [ReconnectionConfig.delay]
  cases c.reconnection.jitter with
  | true => rfl
  | false => rfl

/-- A base that is tripled with each attempt is beyond the finite numbers after 700 of them. -/
theorem delays_climb_to_cap_tripled :
    let c : Config := { beaconAddress := "beacon.local", reconnection := { multiplier := .ofNat 3 } }
    let overflow := Backoff.grown 700 c.reconnection.baseDelay c.reconnection.multiplier
    c.Acceptable ∧ overflow.isFinite = false ∧ c.reconnection.plainDelay 2 = 9000 ∧
    c.reconnection.plainDelay 2 ≤ c.reconnection.plainDelay 3 ∧
    c.reconnection.plainDelay 700 = c.reconnection.maxDelay ∧
    Backoff.Drawn (.ofRatio false 5 4) ∧
    c.reconnection.delay (.ofRatio false 5 4) 3 ≤ Backoff.longest c.reconnection.maxDelay := by
  intro c overflow
  have accepted : c.Acceptable := acceptable_iff.mpr (by decide +kernel)
  have base_exact : c.reconnection.baseDelay ≤ 2 ^ 53 := by decide
  have cap_exact : c.reconnection.maxDelay ≤ 2 ^ 53 := by decide
  have infinite : overflow.isFinite = false := by decide +kernel
  have drawn : Backoff.Drawn (.ofRatio false 5 4) :=
    ⟨by decide +kernel, by decide +kernel, by decide +kernel⟩
  obtain ⟨_, step, _⟩ := delays_climb_to_cap accepted base_exact cap_exact 2
  obtain ⟨_, _, _, full, _⟩ := delays_climb_to_cap accepted base_exact cap_exact 700
  obtain ⟨_, _, _, _, jitter⟩ := delays_climb_to_cap accepted base_exact cap_exact 3
  obtain ⟨_, most, is⟩ := jitter _ drawn
  have bounded : c.reconnection.delay (.ofRatio false 5 4) 3 ≤
      Backoff.longest c.reconnection.maxDelay := by
    rw [is, if_pos rfl]
    exact most
  exact ⟨accepted, infinite, by decide +kernel, step, full infinite, drawn, bounded⟩

end Config

end RandomBeacon
