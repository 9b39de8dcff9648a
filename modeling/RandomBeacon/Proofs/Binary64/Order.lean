import Mathlib.Order.Monotone.Basic
import Mathlib.Tactic.SplitIfs
import RandomBeacon.Proofs.Json.Held

/-!
Codes keep the order of the magnitudes that they stand for. `units` and `codeBelow` are inverse to
each other up to rounding down (`codeBelow_units`, `units_codeBelow_le`), so rounding to the nearest
code is monotone (`nearestCode_mono`) and leaves alone what is a magnitude already
(`nearestCode_units`). From this the product of two codes is monotone in both factors, and one is
its unit. Whole numbers up to 2^53 are exact (`units_ofNat`).
-/

namespace RandomBeacon.Binary64

/-- A code is a shift and a significand, which is whole unless nothing is shifted. -/
structure Splits (code shift significand : Nat) : Prop where
  code : code = shift * fractionCount + significand
  whole : 0 < shift → fractionCount ≤ significand
  below : significand < 2 * fractionCount

theorem fractionCount_pos : 0 < fractionCount := by decide

theorem exists_splits (code : Nat) : ∃ shift significand, Splits code shift significand := by
  have small := Nat.mod_lt code fractionCount_pos
  have whole := Nat.div_add_mod code fractionCount
  cases exponent : code / fractionCount with
  | zero =>
    rw [exponent] at whole
    exact ⟨0, code, by omega, by omega, by omega⟩
  | succ shift =>
    rw [exponent, Nat.mul_succ, Nat.mul_comm] at whole
    exact ⟨shift, fractionCount + code % fractionCount, by omega, by omega, by omega⟩

/-- The magnitude of a code is its significand, shifted. The code that follows the largest
significand counts as one more. -/
theorem units_eq {shift significand : Nat} (whole : 0 < shift → fractionCount ≤ significand)
    (most : significand ≤ 2 * fractionCount) :
    units (shift * fractionCount + significand) = significand * 2 ^ shift := by
  have positive := fractionCount_pos
  by_cases subnormal : significand < fractionCount
  · have none : shift = 0 := by
      by_contra some
      have := whole (Nat.pos_of_ne_zero some)
      omega
    subst none
    simp [units, subnormal]
  · have large : ¬shift * fractionCount + significand < fractionCount := by omega
    rw [units, if_neg large, Nat.shiftLeft_eq]
    rcases Nat.lt_or_eq_of_le most with less | rfl
    · have split : shift * fractionCount + significand =
          (significand - fractionCount) + fractionCount * (shift + 1) := by
        rw [Nat.mul_succ, Nat.mul_comm]
        omega
      have fraction : significand - fractionCount < fractionCount := by omega
      rw [split, Nat.add_mul_mod_self_left, Nat.add_mul_div_left _ _ positive,
        Nat.mod_eq_of_lt fraction, Nat.div_eq_of_lt fraction, Nat.zero_add, Nat.add_sub_cancel,
        Nat.add_sub_cancel' (by omega)]
    · have split : shift * fractionCount + 2 * fractionCount = fractionCount * (shift + 2) := by
        rw [← Nat.add_mul, Nat.mul_comm]
      rw [split, Nat.mul_mod_right, Nat.mul_div_cancel_left _ positive, Nat.add_zero,
        Nat.add_sub_assoc (by decide), Nat.pow_succ', Nat.mul_left_comm, Nat.mul_assoc]

theorem Splits.magnitude {code shift significand : Nat} (splits : Splits code shift significand) :
    units code = significand * 2 ^ shift := by
  rw [splits.code, units_eq splits.whole (Nat.le_of_lt splits.below)]

theorem Splits.magnitude_succ {code shift significand : Nat}
    (splits : Splits code shift significand) :
    units (code + 1) = (significand + 1) * 2 ^ shift := by
  rw [splits.code, Nat.add_assoc, units_eq (fun some => Nat.le_succ_of_le (splits.whole some))
    splits.below]

theorem units_strictMono : StrictMono units := by
  refine strictMono_nat_of_lt_succ fun code => ?_
  obtain ⟨shift, significand, splits⟩ := exists_splits code
  rw [splits.magnitude, splits.magnitude_succ]
  exact Nat.mul_lt_mul_of_pos_right (Nat.lt_succ_self _) (Nat.two_pow_pos _)

/-- The code below some units has what is left of them when the lowest bits are dropped. -/
theorem splits_codeBelow (u : Nat) :
    Splits (codeBelow u) (Nat.log2 u - 52) (u / 2 ^ (Nat.log2 u - 52)) := by
  refine ⟨by rw [codeBelow, Nat.shiftRight_eq_div_pow], ?_, ?_⟩
  · intro some
    have positive : u ≠ 0 := by
      rintro rfl
      simp at some
    rw [Nat.le_div_iff_mul_le (Nat.two_pow_pos _)]
    calc fractionCount * 2 ^ (Nat.log2 u - 52) = 2 ^ (52 + (Nat.log2 u - 52)) :=
          (Nat.pow_add 2 52 _).symm
      _ = 2 ^ Nat.log2 u := by rw [Nat.add_sub_cancel' (by omega)]
      _ ≤ u := Nat.log2_self_le positive
  · rw [Nat.div_lt_iff_lt_mul (Nat.two_pow_pos _)]
    calc u < 2 ^ (Nat.log2 u + 1) := Nat.lt_log2_self
      _ ≤ 2 ^ (53 + (Nat.log2 u - 52)) := Nat.pow_le_pow_right (by decide) (by omega)
      _ = 2 * fractionCount * 2 ^ (Nat.log2 u - 52) := Nat.pow_add 2 53 _

theorem units_codeBelow_le (u : Nat) : units (codeBelow u) ≤ u := by
  rw [(splits_codeBelow u).magnitude]
  exact Nat.div_mul_le_self _ _

theorem lt_units_codeBelow_succ (u : Nat) : u < units (codeBelow u + 1) := by
  rw [(splits_codeBelow u).magnitude_succ]
  exact (Nat.div_lt_iff_lt_mul (Nat.two_pow_pos _)).mp (Nat.lt_succ_self _)

theorem le_codeBelow_iff {code u : Nat} : code ≤ codeBelow u ↔ units code ≤ u := by
  constructor
  · intro le
    exact (units_strictMono.monotone le).trans (units_codeBelow_le u)
  · intro le
    exact Nat.le_of_lt_succ
      (units_strictMono.lt_iff_lt.mp (le.trans_lt (lt_units_codeBelow_succ u)))

theorem codeBelow_mono : Monotone codeBelow := fun _ _ le =>
  le_codeBelow_iff.mpr ((units_codeBelow_le _).trans le)

theorem codeBelow_units (code : Nat) : codeBelow (units code) = code :=
  Nat.le_antisymm (units_strictMono.le_iff_le.mp (units_codeBelow_le _))
    (le_codeBelow_iff.mpr (Nat.le_refl _))

theorem nearestCode_le_infinityCode (num den : Nat) : nearestCode num den ≤ infinityCode :=
  Nat.min_le_right _ _

/-- The nearest code is the one below or the next, unless that is past infinity. -/
theorem nearestCode_bounds (num den : Nat) :
    (codeBelow (num / den) ≤ nearestCode num den ∨ infinityCode ≤ nearestCode num den) ∧
    nearestCode num den ≤ codeBelow (num / den) + 1 := by
  have parity := Nat.mod_lt (codeBelow (num / den)) Nat.two_pos
  simp only [nearestCode]
  constructor <;> split_ifs <;> omega

theorem nearestCode_mono {num more : Nat} (le : num ≤ more) (den : Nat) :
    nearestCode num den ≤ nearestCode more den := by
  rcases Nat.lt_or_eq_of_le (codeBelow_mono (Nat.div_le_div_right (c := den) le)) with less | same
  · have first := (nearestCode_bounds num den).2
    have second := (nearestCode_bounds more den).1
    have top := nearestCode_le_infinityCode num den
    omega
  · -- both lie between the same two codes
    have parity := Nat.mod_lt (codeBelow (more / den)) Nat.two_pos
    simp only [nearestCode, same]
    split_ifs <;> omega

/-- A magnitude is the nearest to itself. -/
theorem nearestCode_units {code den : Nat} (positive : 0 < den) (bounded : code ≤ infinityCode) :
    nearestCode (units code * den) den = code := by
  have next : units code < units (code + 1) := units_strictMono (Nat.lt_succ_self _)
  have early : 2 * (units code * den) < (units code + units (code + 1)) * den := by
    rw [← Nat.mul_assoc]
    exact Nat.mul_lt_mul_of_pos_right (by omega) positive
  rw [nearestCode, Nat.mul_div_cancel _ positive, codeBelow_units]
  simp only [if_pos early]
  exact Nat.min_eq_left bounded

/-- The code of one. -/
def oneCode : Nat := nearestCode (1 * unitsPerOne) 1

/-- The code of the product of two numbers that are at least one. -/
def product (a b : Nat) : Nat :=
  if a = infinityCode ∨ b = infinityCode then infinityCode
  else nearestCode (units a * units b) unitsPerOne

theorem product_le_infinityCode (a b : Nat) : product a b ≤ infinityCode := by
  rw [product]
  split
  · exact Nat.le_refl _
  · exact nearestCode_le_infinityCode _ _

theorem product_mono {a b c d : Nat} (first : a ≤ c) (second : b ≤ d) (c_le : c ≤ infinityCode)
    (d_le : d ≤ infinityCode) : product a b ≤ product c d := by
  by_cases infinite : c = infinityCode ∨ d = infinityCode
  · rw [product.eq_1 c d, if_pos infinite]
    exact product_le_infinityCode a b
  · have finite : ¬(a = infinityCode ∨ b = infinityCode) := by omega
    rw [product, product, if_neg finite, if_neg infinite]
    exact nearestCode_mono (Nat.mul_le_mul (units_strictMono.monotone first)
      (units_strictMono.monotone second)) _

theorem units_oneCode : units oneCode = unitsPerOne := by decide +kernel

theorem oneCode_lt_infinityCode : oneCode < infinityCode := by decide +kernel

theorem exists_unitsPerOne_eq : ∃ k, unitsPerOne = 2 ^ k :=
  ⟨Nat.log2 unitsPerOne, by decide +kernel⟩

theorem unitsPerOne_pos : 0 < unitsPerOne := by decide +kernel

theorem product_comm (a b : Nat) : product a b = product b a := by
  simp only [product, Nat.mul_comm, or_comm]

theorem product_one {a : Nat} (bounded : a ≤ infinityCode) : product a oneCode = a := by
  rw [product, units_oneCode]
  split
  next infinite =>
    have := oneCode_lt_infinityCode
    omega
  next => exact nearestCode_units unitsPerOne_pos bounded

theorem le_product {a b : Nat} (bounded : a ≤ infinityCode) (one : oneCode ≤ b)
    (top : b ≤ infinityCode) : a ≤ product a b :=
  (product_one bounded).symm.le.trans (product_mono (Nat.le_refl _) one bounded top)

/-- The product of two numbers from one on. -/
theorem mul_number {a b : Nat} (first : oneCode ≤ a) (second : oneCode ≤ b) :
    mul (.number false a) (.number false b) = .number false (product a b) := by
  have positive : 0 < oneCode := by decide +kernel
  have nonzero : ¬(a = 0 ∨ b = 0) := by omega
  simp only [mul, product, if_neg nonzero]
  split <;> rfl

/-- The code of a whole number. -/
def wholeCode (n : Nat) : Nat := nearestCode (n * unitsPerOne) 1

theorem ofNat_eq (n : Nat) : ofNat n = .number false (wholeCode n) := rfl

theorem wholeCode_mono : Monotone wholeCode := fun _ _ le =>
  nearestCode_mono (Nat.mul_le_mul_right _ le) 1

theorem wholeCode_le_infinityCode (n : Nat) : wholeCode n ≤ infinityCode :=
  nearestCode_le_infinityCode _ _

/-- Whole numbers up to 2^53 are exact. -/
theorem units_wholeCode {n : Nat} (small : n ≤ 2 ^ 53) :
    units (wholeCode n) = n * unitsPerOne := by
  have exact : units (codeBelow (n * unitsPerOne)) = n * unitsPerOne := by
    rw [(splits_codeBelow _).magnitude]
    apply Nat.div_mul_cancel
    obtain ⟨k, scale⟩ := exists_unitsPerOne_eq
    rw [scale]
    rcases Nat.lt_or_eq_of_le small with less | rfl
    · refine Nat.dvd_mul_left_of_dvd (Nat.pow_dvd_pow 2 ?_) n
      by_cases zero : n = 0
      · simp [zero]
      · have bound : n * 2 ^ k < 2 ^ (53 + k) := by
          rw [Nat.pow_add]
          exact Nat.mul_lt_mul_of_pos_right less (Nat.two_pow_pos k)
        have log := (Nat.log2_lt (Nat.mul_ne_zero zero (Nat.two_pow_pos k).ne')).mpr bound
        omega
    · rw [← Nat.pow_add, Nat.log2_two_pow]
      exact Nat.pow_dvd_pow 2 (Nat.sub_le _ _)
  have bounded : codeBelow (n * unitsPerOne) ≤ infinityCode := by
    refine (codeBelow_mono (Nat.mul_le_mul_right _ small)).trans ?_
    decide +kernel
  have nearest : wholeCode n = codeBelow (n * unitsPerOne) := by
    rw [wholeCode, ← exact, ← Nat.mul_one (units _), nearestCode_units Nat.one_pos bounded,
      Nat.mul_one, codeBelow_units]
  rw [nearest, exact]

end RandomBeacon.Binary64
