import LintTools.Double.Rounding
import LintTools.Proofs.Double.Value

/-! Whole numbers rounded to doubles. A number of `53 + k` bits becomes the multiple of `2 ^ k` that
its quotient is rounded to, also where rounding carries it up to the next power of two. -/
namespace LintTools

/-- Rounding does not leave a range between whole numbers. -/
theorem roundQuotient_bounds (num den low high : Nat) (above : low * den ≤ num)
    (below : num ≤ high * den) (positive : 0 < den) :
    low ≤ roundQuotient num den ∧ roundQuotient num den ≤ high := by
  have quotient : low ≤ num / den := (Nat.le_div_iff_mul_le positive).mpr above
  have reached : num / den ≤ high := Nat.div_le_of_le_mul (by rwa [mul_comm])
  rw [roundQuotient]
  split
  · exact ⟨quotient,reached⟩
  · rename_i up
    refine ⟨by omega,?_⟩
    by_contra beyond
    have whole : num / den = high := by omega
    have exact : num = high * den := le_antisymm below (whole ▸ Nat.div_mul_le_self num den)
    rw [exact,Nat.mul_mod_left] at up
    omega

/-- From an even number on, quotients up to half a unit above it are rounded to it. -/
theorem roundQuotient_eq_even_iff (num den low : Nat) (even : low % 2 = 0)
    (above : low * den ≤ num) (positive : 0 < den) :
    roundQuotient num den = low ↔ 2 * num ≤ (2 * low + 1) * den := by
  have quotient : low ≤ num / den := (Nat.le_div_iff_mul_le positive).mpr above
  have parts := Nat.div_add_mod num den
  have half : (2 * low + 1) * den = 2 * (den * low) + den := by ring
  rw [roundQuotient]
  rcases quotient.eq_or_lt with same | beyond
  · rw [← same] at parts ⊢
    split <;> omega
  · have far := Nat.mul_le_mul_left den (Nat.succ_le_of_lt beyond)
    rw [Nat.mul_succ] at far
    split <;> omega

namespace Double

/-- A rank is read back as the significand and the place that it was put together from. -/
theorem magnitude_of_rank (x : Double) (place digits : Nat)
    (rank : x.rank = place * twoTo 52 + digits) (low : 2 ^ 52 ≤ digits) (high : digits ≤ 2 ^ 53) :
    x.magnitude = digits * 2 ^ ((place : Int) - 1074) := by
  rw [twoTo_eq] at rank
  have normal : ¬x.rank < 2 ^ 52 := by omega
  rcases high.lt_or_eq with short | carried
  · have significand : x.significand = digits := by
      rw [significand,twoTo_eq,if_neg normal]
      omega
    have exponent : x.exponent = (place : Int) - 1074 := by
      rw [exponent,twoTo_eq]
      omega
    rw [magnitude,significand,exponent]
  -- The carry has made one place more of the significand, and its digits are gone.
  · have significand : x.significand = 2 ^ 52 := by
      rw [significand,twoTo_eq,if_neg normal]
      omega
    have exponent : x.exponent = 1 + ((place : Int) - 1074) := by
      rw [exponent,twoTo_eq]
      omega
    rw [magnitude,significand,exponent,carried,zpow_one_add₀ (by norm_num)]
    push_cast
    ring

section Large
variable {n k : Nat} (low : 2 ^ (52 + k) ≤ n) (high : n < 2 ^ (53 + k))
include low high

theorem scale_large : scale n 1 = k := by
  have filled : n ≠ 0 := (low.trans_lt' (Nat.two_pow_pos _)).ne'
  have bits : n.log2 = 52 + k :=
    (Nat.log2_eq_iff filled).mpr ⟨low,by rwa [Nat.add_right_comm]⟩
  unfold scale
  extract_lets top reached
  have place : top = (52 + k : Nat) := by
    have single : Nat.log2 1 = 0 := rfl
    simp [top,bits,single]
  have full : reached := by
    change 1 * 2 ^ top.toNat ≤ n * 2 ^ (-top).toNat
    rw [place,Int.toNat_natCast,Int.toNat_neg_natCast,one_mul,pow_zero,mul_one]
    exact low
  rw [if_pos full,place]
  omega

theorem rankOf_large : rankOf n 1 = (k + 1074) * twoTo 52 + roundQuotient n (2 ^ k) := by
  have filled : n ≠ 0 := (low.trans_lt' (Nat.two_pow_pos _)).ne'
  have place : ((k : Int) + 1074).toNat = k + 1074 := by omega
  rw [rankOf,if_neg filled,scale_large low high]
  extract_lets e
  rw [place,Int.toNat_neg_natCast,Int.toNat_natCast,twoTo_eq 0,twoTo_eq k,pow_zero,mul_one,one_mul]

/-- A number of `53 + k` bits has a nearest double, and it is the rounded multiple of `2 ^ k`. -/
theorem ofNat?_large (fits : k ≤ 970) :
    ∃ x, ofNat? n = some x ∧ x.value = roundQuotient n (2 ^ k) * 2 ^ k := by
  obtain ⟨least,most⟩ := roundQuotient_bounds n (2 ^ k) (2 ^ 52) (2 ^ 53)
    (by rwa [← pow_add]) (by rw [← pow_add]; exact high.le) (Nat.two_pow_pos k)
  have finite : rankOf n 1 < bound := by
    rw [rankOf_large low high,twoTo_eq,bound]
    omega
  refine ⟨⟨false,rankOf n 1,finite⟩,dif_pos finite,?_⟩
  have place : ((k + 1074 : Nat) : Int) - 1074 = k := by omega
  have magnitude := magnitude_of_rank ⟨false,rankOf n 1,finite⟩ (k + 1074) _
    (rankOf_large low high) least most
  rw [place,zpow_natCast] at magnitude
  exact magnitude

end Large

end Double
end LintTools
