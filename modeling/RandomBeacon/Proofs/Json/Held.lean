import Mathlib.Algebra.Group.Nat.Defs
import RandomBeacon.Json.Float
import RandomBeacon.Proofs.Json.Lexeme

/-!
Whole numbers of 64 bits can be held back until their type is known: each is read as a finite
binary64 number (`integerNumber?_isSome`), since rounding moves a number by one code at most.
-/

namespace RandomBeacon

namespace Binary64

theorem codeBelow_lt {u k : Nat} (small : u < 2 ^ (k + 53)) :
    codeBelow u < (k + 2) * fractionCount := by
  have exponent : Nat.log2 u < k + 53 := by
    by_cases zero : u = 0
    · rw [zero]
      exact Nat.lt_add_left k (by decide)
    · exact (Nat.log2_lt zero).2 small
  have shift : Nat.log2 u - 52 ≤ k := by omega
  have significand : u >>> (Nat.log2 u - 52) < 2 * fractionCount := by
    rw [Nat.shiftRight_eq_div_pow, Nat.div_lt_iff_lt_mul (Nat.two_pow_pos _)]
    calc u < 2 ^ (Nat.log2 u + 1) := Nat.lt_log2_self
      _ ≤ 2 ^ (53 + (Nat.log2 u - 52)) := Nat.pow_le_pow_right (by decide) (by omega)
      _ = 2 * fractionCount * 2 ^ (Nat.log2 u - 52) := Nat.pow_add 2 53 _
  calc codeBelow u < (Nat.log2 u - 52) * fractionCount + 2 * fractionCount :=
        Nat.add_lt_add_left significand _
    _ ≤ k * fractionCount + 2 * fractionCount :=
        Nat.add_le_add_right (Nat.mul_le_mul_right _ shift) _
    _ = (k + 2) * fractionCount := (Nat.add_mul k 2 _).symm

theorem nearestCode_le {num den k : Nat} (small : num / den < 2 ^ (k + 53)) :
    nearestCode num den ≤ (k + 2) * fractionCount := by
  have below := codeBelow_lt small
  have step : nearestCode num den ≤ codeBelow (num / den) + 1 := by
    simp only [nearestCode]
    refine (Nat.min_le_left _ infinityCode).trans ?_
    split
    · exact Nat.le_succ _
    · split
      · exact Nat.le_refl _
      · exact Nat.add_le_add_left (Nat.le_of_lt_succ (Nat.mod_lt _ (by decide))) _
  exact step.trans below

theorem units_lt {code k : Nat} (small : code ≤ (k + 2) * fractionCount) :
    units code < 2 ^ (k + 54) := by
  have positive : 0 < fractionCount := by decide
  rw [units]
  split
  next subnormal =>
    exact subnormal.trans_le (Nat.pow_le_pow_right (by decide) (by omega : 52 ≤ k + 54))
  next =>
    have shift : code / fractionCount - 1 ≤ k + 1 := by
      have exponent := Nat.div_le_of_le_mul (Nat.mul_comm _ _ ▸ small)
      omega
    have significand : fractionCount + code % fractionCount < 2 ^ 53 := by
      have fraction := Nat.mod_lt code positive
      calc fractionCount + code % fractionCount < fractionCount + fractionCount :=
            Nat.add_lt_add_left fraction _
        _ = 2 ^ 53 := by decide
    rw [Nat.shiftLeft_eq]
    calc (fractionCount + code % fractionCount) * 2 ^ (code / fractionCount - 1)
        < 2 ^ 53 * 2 ^ (code / fractionCount - 1) :=
          Nat.mul_lt_mul_of_pos_right significand (Nat.two_pow_pos _)
      _ ≤ 2 ^ 53 * 2 ^ (k + 1) :=
          Nat.mul_le_mul_left _ (Nat.pow_le_pow_right (by decide) shift)
      _ = 2 ^ (k + 54) := by rw [← Nat.pow_add, (by omega : 53 + (k + 1) = k + 54)]

theorem lt_infinityCode {code k : Nat} (small : code ≤ (k + 2) * fractionCount) (low : k < 2045) :
    code < infinityCode :=
  small.trans_lt (Nat.mul_lt_mul_of_pos_right (by omega) (by decide))

/-- A whole number of 64 bits stays finite when it is scaled by one. -/
theorem mul_one_isFinite {n : Nat} (small : n < 2 ^ 64) : ((ofNat n).mul one).isFinite = true := by
  obtain ⟨m, scale, low⟩ : ∃ m, unitsPerOne ≤ 2 ^ m ∧ m + 12 < 2045 :=
    ⟨Nat.log2 unitsPerOne + 1, Nat.lt_log2_self.le, by decide +kernel⟩
  have number : nearestCode (n * unitsPerOne) 1 ≤ (m + 11 + 2) * fractionCount := by
    refine nearestCode_le ?_
    rw [Nat.div_one]
    calc n * unitsPerOne ≤ n * 2 ^ m := Nat.mul_le_mul_left n scale
      _ < 2 ^ 64 * 2 ^ m := Nat.mul_lt_mul_of_pos_right small (Nat.two_pow_pos m)
      _ = 2 ^ (64 + m) := (Nat.pow_add 2 64 m).symm
      _ = 2 ^ (m + 11 + 53) := by rw [Nat.add_comm 64 m, Nat.add_assoc]
  have code_one : nearestCode (1 * unitsPerOne) 1 < infinityCode := by decide +kernel
  have units_one : units (nearestCode (1 * unitsPerOne) 1) = unitsPerOne := by decide +kernel
  have product : nearestCode (units (nearestCode (n * unitsPerOne) 1) *
      units (nearestCode (1 * unitsPerOne) 1)) unitsPerOne ≤ (m + 12 + 2) * fractionCount := by
    refine nearestCode_le ?_
    rw [units_one, Nat.mul_div_cancel _ (by decide +kernel : 0 < unitsPerOne)]
    exact units_lt number
  have finite : ¬(nearestCode (n * unitsPerOne) 1 = infinityCode ∨
      nearestCode (1 * unitsPerOne) 1 = infinityCode) :=
    not_or.2 ⟨(lt_infinityCode number (by omega)).ne, code_one.ne⟩
  rw [one, ofNat, ofNat, ofRatio, ofRatio, mul, if_neg finite, isFinite]
  exact decide_eq_true (lt_infinityCode product low)

end Binary64

namespace Json

theorem le_foldl_digits (ds : List Nat) (n : Nat) : n ≤ ds.foldl (fun n d => 10 * n + d) n := by
  induction ds generalizing n with
  | nil => exact Nat.le_refl n
  | cons d ds ih => exact (by omega : n ≤ 10 * n + d).trans (ih _)

/-- Digits whose number fits are gathered into it. -/
theorem gatherWhole_fits (ds : List Nat) (significand : Nat)
    (fits : ds.foldl (fun n d => 10 * n + d) significand < significandLimit) :
    gatherWhole significand ds = ⟨ds.foldl (fun n d => 10 * n + d) significand, 0⟩ := by
  induction ds generalizing significand with
  | nil => rfl
  | cons d ds ih =>
    have first := (le_foldl_digits ds (10 * significand + d)).trans_lt fits
    rw [gatherWhole, if_pos first]
    exact ih _ fits

theorem integerNumber?_isSome {n : Nat} (small : n < 2 ^ 64) :
    (integerNumber? false n).isSome = true := by
  have gathered : gatherWhole 0 ((digits n).map Token.digitValue) = ⟨n, 0⟩ := by
    have fits := gatherWhole_fits ((digits n).map Token.digitValue) 0
    have is := Token.natOf_digits n
    rw [Token.natOf] at is
    rw [is] at fits
    exact fits small
  have whole : integerNumber? false n =
      (gatherWhole 0 ((digits n).map Token.digitValue)).number?.map (signed false) := rfl
  rw [whole, gathered, Option.isSome_map, Gathered.number?]
  have scaled := Binary64.mul_one_isFinite small
  have step : (Binary64.ofNat (Nat.pow 10 (0 : Int).natAbs)) = .one := rfl
  simp only [step, scaled]
  split
  · rfl
  · split <;> rfl

end Json

end RandomBeacon
