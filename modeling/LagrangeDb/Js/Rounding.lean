import Mathlib.Tactic.Positivity
import LagrangeDb.Js.Value

namespace LagrangeDb.Js.Number

/-! Rounding to the numbers of the language is monotone, and exact on the
integers up to two to the 53rd. -/

theorem roundHalfEven_intCast (value : Int) : roundHalfEven (value : ℚ) = value := by
  have floor : (value : ℚ).floor = value := Rat.floor_intCast value
  simp [roundHalfEven, floor]

theorem floor_le_roundHalfEven (value : ℚ) : ⌊value⌋ ≤ roundHalfEven value := by
  change value.floor ≤ _
  unfold roundHalfEven
  grind

theorem roundHalfEven_le_floor (value : ℚ) : roundHalfEven value ≤ ⌊value⌋ + 1 := by
  change _ ≤ value.floor + 1
  unfold roundHalfEven
  grind

theorem roundHalfEven_mono (order : left ≤ right) : roundHalfEven left ≤ roundHalfEven right := by
  rcases (Int.floor_mono order).lt_or_eq with below | same
  · calc roundHalfEven left ≤ ⌊left⌋ + 1 := roundHalfEven_le_floor left
      _ ≤ ⌊right⌋ := below
      _ ≤ roundHalfEven right := floor_le_roundHalfEven right
  -- With one floor, only the rests are compared.
  have same : left.floor = right.floor := same
  unfold roundHalfEven
  simp only [same]
  grind

theorem roundHalfEven_neg (value : ℚ) : roundHalfEven (-value) = -roundHalfEven value := by
  by_cases whole : (⌊value⌋ : ℚ) = value
  · rw [← whole, ← Int.cast_neg, roundHalfEven_intCast, roundHalfEven_intCast]
  have above : (⌊value⌋ : ℚ) < value := lt_of_le_of_ne (Int.floor_le value) whole
  have below : value < ⌊value⌋ + 1 := Int.lt_floor_add_one value
  have floor : ⌊-value⌋ = -⌊value⌋ - 1 := by
    rw [Int.floor_eq_iff]
    push_cast
    constructor <;> linarith
  have floor : (-value).floor = -value.floor - 1 := floor
  unfold roundHalfEven
  simp only [floor]
  push_cast
  grind

theorem zpow_log2_le {value : Nat} (positive : value ≠ 0) :
    (2 : ℚ) ^ (value.log2 : Int) ≤ value := by
  rw [zpow_natCast]
  exact_mod_cast Nat.log2_self_le positive

theorem lt_zpow_log2 (value : Nat) : (value : ℚ) < 2 ^ (value.log2 + 1 : Int) := by
  have bound : value < 2 ^ (value.log2 + 1) := Nat.lt_log2_self
  have cast : (2 : ℚ) ^ (value.log2 + 1 : Int) = ((2 ^ (value.log2 + 1) : Nat) : ℚ) := by
    push_cast
    exact_mod_cast zpow_natCast (2 : ℚ) (value.log2 + 1)
  rw [cast]
  exact_mod_cast bound

def exponent (value : ℚ) : Int := leadingExponent value.num.natAbs value.den

variable {value : ℚ}

theorem exponent_bounds (positive : 0 < value) :
    (2 : ℚ) ^ exponent value ≤ value ∧ value < 2 ^ (exponent value + 1) := by
  have numerator : value.num.natAbs ≠ 0 := by simpa using positive.ne'
  have denominator : value.den ≠ 0 := value.den_nz
  have quotient : value * value.den = value.num.natAbs := by
    rw [Rat.mul_den_eq_num, Nat.cast_natAbs, abs_of_pos (Rat.num_pos.mpr positive)]
  unfold exponent leadingExponent
  generalize value.num.natAbs = top at numerator quotient
  generalize value.den = bottom at denominator quotient
  have bottomPositive : (0 : ℚ) < bottom := by exact_mod_cast Nat.pos_of_ne_zero denominator
  have topLow := zpow_log2_le numerator
  have topHigh := lt_zpow_log2 top
  have bottomLow := zpow_log2_le denominator
  have bottomHigh := lt_zpow_log2 bottom
  generalize (top.log2 : Int) = high at topLow topHigh
  generalize (bottom.log2 : Int) = low at bottomLow bottomHigh
  simp only
  split
  next fits =>
    refine ⟨le_of_mul_le_mul_right (quotient ▸ fits) bottomPositive, ?_⟩
    refine lt_of_mul_lt_mul_right ?_ bottomPositive.le
    calc value * bottom = top := quotient
      _ < 2 ^ (high + 1) := topHigh
      _ = 2 ^ (high - low + 1) * 2 ^ low := by
          rw [← zpow_add₀ two_ne_zero]
          congr 1
          ring
      _ ≤ 2 ^ (high - low + 1) * bottom :=
          mul_le_mul_of_nonneg_left bottomLow (zpow_nonneg zero_le_two _)
  next exceeds =>
    rw [not_le] at exceeds
    refine ⟨le_of_mul_le_mul_right ?_ bottomPositive, ?_⟩
    · calc (2 : ℚ) ^ (high - low - 1) * bottom
          ≤ 2 ^ (high - low - 1) * 2 ^ (low + 1) :=
            mul_le_mul_of_nonneg_left bottomHigh.le (zpow_nonneg zero_le_two _)
        _ = 2 ^ high := by
            rw [← zpow_add₀ two_ne_zero]
            congr 1
            ring
        _ ≤ top := topLow
        _ = value * bottom := quotient.symm
    · rw [sub_add_cancel]
      exact lt_of_mul_lt_mul_right (quotient ▸ exceeds) bottomPositive.le

theorem exponent_mono (positive : 0 < left) (order : left ≤ right) :
    exponent left ≤ exponent right := by
  have low := (exponent_bounds positive).1
  have high := (exponent_bounds (positive.trans_le order)).2
  have between : (2 : ℚ) ^ exponent left < 2 ^ (exponent right + 1) :=
    low.trans_lt (order.trans_lt high)
  exact Int.lt_add_one_iff.mp ((zpow_lt_zpow_iff_right₀ one_lt_two).mp between)

def unit (value : ℚ) : ℚ := 2 ^ unitExponent value

def rounded (value : ℚ) : ℚ := roundHalfEven (value / unit value) * unit value

theorem unit_pos (value : ℚ) : 0 < unit value := zpow_pos two_pos _

theorem unitExponent_neg (value : ℚ) : unitExponent (-value) = unitExponent value := by
  simp [unitExponent]

theorem rounded_zero : rounded 0 = 0 := by
  have whole : roundHalfEven 0 = 0 := roundHalfEven_intCast 0
  simp [rounded, whole]

theorem round_eq (value : ℚ) : round value =
    if 2 ^ 1024 ≤ |rounded value| then .infinite (rounded value < 0)
    else .finite (rounded value) := by
  unfold round
  split
  next zero => rw [zero, rounded_zero, if_neg (by norm_num)]
  · rfl

theorem rounded_neg (value : ℚ) : rounded (-value) = -rounded value := by
  rw [rounded, rounded, unit, unit, unitExponent_neg, neg_div, roundHalfEven_neg]
  push_cast
  ring

theorem rounded_le (multiple : Int) (equal : bound = multiple * unit value)
    (order : value ≤ bound) : rounded value ≤ bound := by
  rw [equal] at order ⊢
  rw [rounded]
  have quotient : value / unit value ≤ (multiple : ℚ) := (div_le_iff₀ (unit_pos value)).mpr order
  have whole := roundHalfEven_mono quotient
  rw [roundHalfEven_intCast] at whole
  exact mul_le_mul_of_nonneg_right (by exact_mod_cast whole) (unit_pos value).le

theorem le_rounded (multiple : Int) (equal : bound = multiple * unit value)
    (order : bound ≤ value) : bound ≤ rounded value := by
  rw [equal] at order ⊢
  rw [rounded]
  have quotient : (multiple : ℚ) ≤ value / unit value := (le_div_iff₀ (unit_pos value)).mpr order
  have whole := roundHalfEven_mono quotient
  rw [roundHalfEven_intCast] at whole
  exact mul_le_mul_of_nonneg_right (by exact_mod_cast whole) (unit_pos value).le

theorem rounded_nonneg (order : 0 ≤ value) : 0 ≤ rounded value := le_rounded 0 (by simp) order

theorem zpow_multiple (value : ℚ) (power : Int) (large : unitExponent value ≤ power) :
    ∃ multiple : Int, (2 : ℚ) ^ power = multiple * unit value := by
  refine ⟨2 ^ (power - unitExponent value).toNat, ?_⟩
  push_cast
  rw [unit, ← zpow_natCast, ← zpow_add₀ two_ne_zero]
  congr 1
  omega

theorem rounded_mono_pos (positive : 0 < left) (order : left ≤ right) :
    rounded left ≤ rounded right := by
  have exponents := exponent_mono positive order
  have leftUnit : unitExponent left = max (exponent left - 52) (-1074) := rfl
  have rightUnit : unitExponent right = max (exponent right - 52) (-1074) := rfl
  rcases (show unitExponent left ≤ unitExponent right by omega).lt_or_eq with
    finer | same
  · -- A power of two lies between them.
    obtain ⟨above, aboveEqual⟩ := zpow_multiple left (exponent right) (by omega)
    obtain ⟨below, belowEqual⟩ := zpow_multiple right (exponent right) (by omega)
    have high : left ≤ 2 ^ exponent right := by
      refine (exponent_bounds positive).2.le.trans ?_
      exact zpow_le_zpow_right₀ one_le_two (by omega)
    calc rounded left ≤ 2 ^ exponent right := rounded_le above aboveEqual high
      _ ≤ rounded right := le_rounded below belowEqual (exponent_bounds (positive.trans_le order)).1
  · have equal : unit left = unit right := by rw [unit, unit, same]
    rw [rounded, rounded, equal]
    have quotient : left / unit right ≤ right / unit right :=
      div_le_div_of_nonneg_right order (unit_pos right).le
    exact mul_le_mul_of_nonneg_right (by exact_mod_cast roundHalfEven_mono quotient)
      (unit_pos right).le

theorem rounded_mono (order : left ≤ right) : rounded left ≤ rounded right := by
  rcases lt_or_ge 0 left with positive | leftNonpos
  · exact rounded_mono_pos positive order
  have leftRounded : rounded left ≤ 0 := by
    have mirrored := rounded_nonneg (neg_nonneg.mpr leftNonpos)
    rw [rounded_neg] at mirrored
    linarith
  rcases lt_or_ge right 0 with negative | rightNonneg
  · have mirrored := rounded_mono_pos (neg_pos.mpr negative) (neg_le_neg order)
    rw [rounded_neg, rounded_neg] at mirrored
    linarith
  · exact leftRounded.trans (rounded_nonneg rightNonneg)

def Representable (value : ℚ) : Prop := round value = .finite value

theorem Representable.rounded (number : Representable value) :
    rounded value = value ∧ |value| < 2 ^ 1024 := by
  rw [Representable, round_eq] at number
  split at number
  · cases number
  next small =>
  have equal := finite.inj number
  rw [equal] at small
  exact ⟨equal, not_le.mp small⟩

theorem rounded_multiple (multiple : Int)
    (equal : value = multiple * unit value) : rounded value = value :=
  le_antisymm (rounded_le multiple equal le_rfl) (le_rounded multiple equal le_rfl)

theorem rounded_natCast {value : Nat} (bound : value ≤ 2 ^ 53) : rounded (value : ℚ) = value := by
  rcases Nat.eq_zero_or_pos value with rfl | positive
  · exact_mod_cast rounded_zero
  have positive : (0 : ℚ) < value := by exact_mod_cast positive
  have bound : (value : ℚ) ≤ 2 ^ (53 : Int) := by exact_mod_cast bound
  have low := (exponent_bounds positive).1
  have small : exponent value ≤ 53 := (zpow_le_zpow_iff_right₀ one_lt_two).mp (low.trans bound)
  have exponents : unitExponent value = max (exponent value - 52) (-1074) := rfl
  rcases small.lt_or_eq with fits | top
  · refine rounded_multiple (value * 2 ^ (-unitExponent value).toNat) ?_
    push_cast
    rw [unit, mul_assoc, ← zpow_natCast, ← zpow_add₀ two_ne_zero,
      show ((-unitExponent value).toNat : Int) + unitExponent value = 0 by omega,
      zpow_zero, mul_one]
  · have equal : (value : ℚ) = 2 ^ (53 : Int) := le_antisymm bound (top ▸ low)
    obtain ⟨multiple, power⟩ := zpow_multiple value 53 (by omega)
    exact rounded_multiple multiple (equal.trans power)

theorem rounded_intCast {value : Int} (bound : value.natAbs ≤ 2 ^ 53) :
    rounded (value : ℚ) = value := by
  have magnitude := rounded_natCast bound
  rcases Int.natAbs_eq value with positive | negative
  · have cast : (value : ℚ) = (value.natAbs : ℚ) := congrArg Int.cast positive
    rw [cast, magnitude]
  have cast : (value : ℚ) = -(value.natAbs : ℚ) :=
    (congrArg Int.cast negative).trans (Int.cast_neg _)
  rw [cast, rounded_neg, magnitude]

theorem round_intCast {value : Int} (bound : value.natAbs ≤ 2 ^ 53) :
    round value = .finite value := by
  rw [round_eq, rounded_intCast bound, if_neg]
  rw [not_le, ← Int.cast_abs, ← Int.natCast_natAbs]
  calc ((value.natAbs : Int) : ℚ) ≤ 2 ^ 53 := by exact_mod_cast bound
    _ < 2 ^ 1024 := pow_lt_pow_right₀ one_lt_two (by norm_num)

end LagrangeDb.Js.Number
