import LintTools.Double.Basic
import Mathlib.Algebra.Order.Field.Power
import Mathlib.Algebra.Order.Floor.Semifield
import Mathlib.Data.Rat.Floor
import Mathlib.Tactic.NormNum
import Mathlib.Tactic.Ring

/-! The number that a double stands for. Its whole part is taken toward zero, and the larger doubles
are, the further they lie apart: from `2 ^ (52 + k)` on all of them are multiples of `2 ^ k`, so from
`2 ^ 52` on they are whole. -/
namespace LintTools

theorem twoTo_eq (n : Nat) : twoTo n = 2 ^ n := rfl

namespace Double

def magnitude (x : Double) : ℚ := x.significand * 2 ^ x.exponent

def value (x : Double) : ℚ := if x.negative then -x.magnitude else x.magnitude

variable (x : Double)

theorem magnitude_nonneg : 0 ≤ x.magnitude :=
  mul_nonneg (Nat.cast_nonneg _) (zpow_nonneg (by decide) _)

theorem significand_lt : x.significand < 2 ^ 53 := by
  rw [significand,twoTo_eq]
  split <;> omega

theorem denominator_pos : 0 < x.denominator := Nat.two_pow_pos _

theorem magnitude_eq_div : x.magnitude = x.numerator / x.denominator := by
  obtain ⟨n,up | down⟩ := x.exponent.eq_nat_or_neg
  · simp [magnitude,numerator,denominator,up,twoTo_eq]
  · simp [magnitude,numerator,denominator,down,twoTo_eq,div_eq_mul_inv]

theorem floor_magnitude : ⌊x.magnitude⌋₊ = x.numerator / x.denominator := by
  rw [magnitude_eq_div,Nat.floor_div_natCast,Nat.floor_natCast]

theorem abs_value : |x.value| = x.magnitude := by
  rw [value]
  split
  · rw [abs_neg,abs_of_nonneg x.magnitude_nonneg]
  · exact abs_of_nonneg x.magnitude_nonneg

theorem magnitude_of_value (n : Int) (same : x.value = n) : x.magnitude = n.natAbs := by
  rw [← abs_value,same,Nat.cast_natAbs,Int.cast_abs]

theorem isWhole_iff_magnitude : x.isWhole = true ↔ ∃ n : Nat, x.magnitude = n := by
  have positive : (x.denominator : ℚ) ≠ 0 := by exact_mod_cast x.denominator_pos.ne'
  rw [isWhole,beq_iff_eq,← Nat.dvd_iff_mod_eq_zero]
  apply exists_congr
  intro n
  rw [magnitude_eq_div,div_eq_iff positive,mul_comm]
  exact_mod_cast Iff.rfl

theorem isWhole_iff : x.isWhole = true ↔ ∃ n : Int, x.value = n := by
  rw [isWhole_iff_magnitude]
  constructor
  · rintro ⟨n,same⟩
    refine ⟨if x.negative then -n else n,?_⟩
    rw [value,same]
    split <;> simp
  · rintro ⟨n,same⟩
    exact ⟨n.natAbs,x.magnitude_of_value n same⟩

theorem truncate_eq :
    x.truncate = if x.negative then -(⌊x.magnitude⌋₊ : Int) else ⌊x.magnitude⌋₊ := by
  rw [floor_magnitude]
  exact_mod_cast rfl

theorem truncate_of_value (n : Int) (same : x.value = n) : x.truncate = n := by
  have floor : ⌊x.magnitude⌋₊ = n.natAbs := by
    rw [x.magnitude_of_value n same,Nat.floor_natCast]
  rw [value,x.magnitude_of_value n same] at same
  rw [truncate_eq,floor]
  generalize n.natAbs = m at same
  exact_mod_cast same

/-- As a count, the whole part of a negative double is nothing. -/
theorem toNat_truncate : x.truncate.toNat = ⌊x.value⌋₊ := by
  rw [truncate_eq,value]
  split
  · have none := Nat.floor_of_nonpos (neg_nonpos.mpr x.magnitude_nonneg)
    rw [none,Int.toNat_neg_natCast]
  · rw [Int.toNat_natCast]

/-- Doubles from `2 ^ (52 + k)` on lie `2 ^ k` or further apart. -/
theorem multiple_of_large (k : Nat) (large : 2 ^ (52 + k) ≤ x.value) :
    ∃ n : Nat, x.value = n * 2 ^ k := by
  have natural : x.value = x.magnitude := by
    rw [← abs_value,abs_of_nonneg (large.trans' (by positivity))]
  rw [natural] at large ⊢
  -- Below this exponent a significand of 53 bits does not reach that far.
  have reached : (k : Int) ≤ x.exponent := by
    by_contra below
    have power : (2 : ℚ) ^ x.exponent ≤ 2 ^ ((k : Int) - 1) :=
      zpow_le_zpow_right₀ (by norm_num) (by omega)
    have digits : (x.significand : ℚ) < 2 ^ 53 := by exact_mod_cast x.significand_lt
    have bounded : x.magnitude < 2 ^ (52 + k) := calc
      x.magnitude ≤ x.significand * 2 ^ ((k : Int) - 1) :=
        mul_le_mul_of_nonneg_left power (Nat.cast_nonneg _)
      _ < 2 ^ 53 * 2 ^ ((k : Int) - 1) := mul_lt_mul_of_pos_right digits (by positivity)
      _ = 2 ^ (52 + k) := by
        rw [← zpow_natCast,← zpow_natCast,← zpow_add₀ (by norm_num)]
        congr 1
        push_cast
        ring
    exact bounded.not_ge large
  obtain ⟨more,same⟩ := Int.le.dest reached
  refine ⟨x.significand * 2 ^ more,?_⟩
  rw [magnitude,← same,← Nat.cast_add,zpow_natCast,pow_add]
  push_cast
  ring

end Double
end LintTools
