import LintTools.Proofs.Json.SignedNumber
import LintTools.Proofs.Text.Numeral

/-! Values read as counts of repetitions. A number counts its whole part, nothing where it is
negative and the largest signed number where it is larger, save that a double past `2 ^ 63` counts
nothing. So counts follow the order of numbers, whichever form these are held in, up to such
doubles. Where a value is read as a signed number too, both readings agree. -/
namespace LintTools

namespace Number

def Overshoots : Number → Prop
  | whole _ _ => False
  | double x => 2 ^ 63 < x.value

theorem overshoots_double (x : Double) : (double x).Overshoots ↔ 2 ^ 63 < x.truncate := by
  constructor
  · intro past
    change 2 ^ 63 < x.value at past
    obtain ⟨n,whole⟩ := x.multiple_of_large 0 (past.le.trans' (by norm_num))
    rw [pow_zero,mul_one] at whole
    rw [x.truncate_of_value n (by exact_mod_cast whole)]
    rw [whole] at past
    exact_mod_cast past
  · intro past
    have counted : 2 ^ 63 < ⌊x.value⌋₊ := by
      rw [← x.toNat_truncate]
      omega
    exact_mod_cast Nat.lt_of_lt_floor counted

theorem repeatCount_overshooting (v : Number) (past : v.Overshoots) : v.repeatCount = 0 := by
  cases v with
  | whole n inRange => exact past.elim
  | double x =>
    have far := (overshoots_double x).mp past
    have unsigned : x.signed? = none := by
      rw [Double.signed?,if_neg (by omega)]
    rw [repeatCount,unsigned]
    rfl

theorem repeatCount_within (v : Number) (within : ¬v.Overshoots) :
    v.repeatCount = min ⌊v.value⌋₊ (2 ^ 63 - 1) := by
  cases v with
  | whole n inRange =>
    rw [repeatCount,value,← Int.floor_toNat,Int.floor_intCast]
    simp only [clampSigned,Text.minSigned,Text.maxSigned]
    omega
  | double x =>
    rw [overshoots_double] at within
    rw [repeatCount,value,← x.toNat_truncate,Double.signed?]
    simp only [clampSigned,Text.minSigned,Text.maxSigned]
    split <;> simp only [Option.getD_some,Option.getD_none] <;> omega

theorem repeatCount_le (v : Number) : v.repeatCount ≤ 2 ^ 63 - 1 := by
  by_cases past : v.Overshoots
  · rw [v.repeatCount_overshooting past]
    decide
  · rw [v.repeatCount_within past]
    exact min_le_right _ _

theorem repeatCount_eq_zero_iff (v : Number) (within : ¬v.Overshoots) :
    v.repeatCount = 0 ↔ v.value < 1 := by
  rw [v.repeatCount_within within,← Nat.floor_eq_zero]
  omega

theorem Overshoots.value_lt {v : Number} (past : v.Overshoots) : 2 ^ 63 < v.value := by
  cases v with
  | whole n inRange => exact past.elim
  | double x => exact past

theorem Overshoots.one_le {v : Number} (past : v.Overshoots) : 1 ≤ v.value :=
  past.value_lt.le.trans' (by norm_num)

/-- Of two numbers in order the counts are in order too, unless the larger one overshoots, and the
smaller one, which does not, counts something. -/
theorem repeatCount_le_iff (a b : Number) (ordered : a.value ≤ b.value) :
    a.repeatCount ≤ b.repeatCount ↔ ¬(b.Overshoots ∧ ¬a.Overshoots ∧ 1 ≤ a.value) := by
  by_cases pastA : a.Overshoots
  · simp [a.repeatCount_overshooting pastA,pastA]
  by_cases pastB : b.Overshoots
  · rw [b.repeatCount_overshooting pastB,Nat.le_zero,a.repeatCount_eq_zero_iff pastA]
    simp [pastA,pastB]
  · have counts : a.repeatCount ≤ b.repeatCount := by
      rw [a.repeatCount_within pastA,b.repeatCount_within pastB]
      exact min_le_min_right _ (Nat.floor_mono ordered)
    simp [counts,pastB]

/-- Counts follow the order of numbers, in whichever form these are held, unless the larger one
overshoots, and the smaller one, which does not, counts something. So two forms of one number count
the same exactly when both of them overshoot or neither does. -/
theorem repeatCount_ordered_iff (a b : Number) :
    (a.value ≤ b.value →
      (a.repeatCount ≤ b.repeatCount ↔ ¬(b.Overshoots ∧ ¬a.Overshoots ∧ 1 ≤ a.value))) ∧
    (a.value = b.value → (a.repeatCount = b.repeatCount ↔ (a.Overshoots ↔ b.Overshoots))) := by
  refine ⟨repeatCount_le_iff a b,?_⟩
  intro same
  have up := repeatCount_le_iff a b same.le
  have down := repeatCount_le_iff b a same.ge
  rw [le_antisymm_iff,up,down]
  constructor
  · rintro ⟨noneB,noneA⟩
    constructor
    · exact fun past => by_contra fun within => noneA ⟨past,within,same ▸ past.one_le⟩
    · exact fun past => by_contra fun within => noneB ⟨past,within,same ▸ past.one_le⟩
  · intro alike
    exact ⟨fun apart => apart.2.1 (alike.mpr apart.1),fun apart => apart.2.1 (alike.mp apart.1)⟩

theorem signedEnd_within : ¬(double signedEnd).Overshoots :=
  fun past => past.value_lt.ne' signedEnd_value

theorem signedEnd_counted :
    (double signedEnd).value ≤ firstUnsigned.value ∧
      (double signedEnd).repeatCount ≤ firstUnsigned.repeatCount ∧
      (double signedEnd).value = firstUnsigned.value ∧
      (double signedEnd).repeatCount = firstUnsigned.repeatCount ∧
      firstUnsigned.repeatCount = 2 ^ 63 - 1 := by
  have same : (double signedEnd).value = firstUnsigned.value :=
    signedEnd_value.trans (by norm_num [firstUnsigned,value])
  obtain ⟨ordered,alike⟩ := repeatCount_ordered_iff (double signedEnd) firstUnsigned
  refine ⟨same.le,(ordered same.le).mpr fun far => far.1,same,(alike same).mpr ?_,by decide +kernel⟩
  exact iff_of_false signedEnd_within id

def farNumber : Number := .whole (10 ^ 19) (by decide)

def farDouble : Double := ⟨false,1085 * 2 ^ 52 + 4882812500000000,by decide⟩

/-- A number that counts the most as a whole number counts nothing as a double. -/
theorem farDouble_uncounted :
    (double farDouble).value = farNumber.value ∧ farNumber.repeatCount = 2 ^ 63 - 1 ∧
      (double farDouble).repeatCount = 0 := by
  have magnitude := farDouble.magnitude_of_rank 1085 4882812500000000 rfl (by decide) (by decide)
  refine ⟨?_,by decide +kernel,by decide +kernel⟩
  norm_num [farNumber,value] at magnitude ⊢
  exact magnitude

theorem within_of_toInt? (v : Number) (n : Int) (found : v.toInt? = some n) :
    ¬v.Overshoots := by
  cases v with
  | whole m inRange => exact id
  | double x =>
    rw [toInt?] at found
    split at found
    · have reach := ((x.signed?_eq_some_iff n).mp found).1.2
      rw [overshoots_double]
      omega
    · contradiction

/-- A number that is read as a signed one counts as much, or nothing if it is negative. -/
theorem repeatCount_of_toInt? (v : Number) (n : Int) (found : v.toInt? = some n) :
    v.repeatCount = max n 0 := by
  rw [v.repeatCount_within (v.within_of_toInt? n found)]
  rcases (v.toInt?_eq_some_iff n).mp found with ⟨same,low,high⟩ | ⟨past,rfl⟩
  · rw [same,← Int.floor_toNat,Int.floor_intCast]
    omega
  · have most : 2 ^ 63 ≤ ⌊v.value⌋₊ := Nat.le_floor (by exact_mod_cast past.1)
    omega

end Number

namespace Json

/-- A value that is read as a signed number counts as much, or nothing if the number is negative.
No value counts more than the largest signed number. -/
theorem repeatCount_agrees (v : Json) :
    (∀ n : Int, v.toInt? = some n → v.repeatCount = max n 0) ∧ v.repeatCount ≤ 2 ^ 63 - 1 := by
  cases v with
  | null => simp [toInt?,repeatCount]
  | bool flag => cases flag <;> simp [toInt?,repeatCount]
  | num number => exact ⟨number.repeatCount_of_toInt?,number.repeatCount_le⟩
  | str text =>
    constructor
    · intro n found
      have read : Text.readSigned (Text.strip text.toList) = some n := found
      rw [repeatCount,read,Option.getD_some,Int.ofNat_toNat]
    · rw [repeatCount]
      cases read : Text.readSigned (Text.strip text.toList) with
      | none => decide
      | some n =>
        have signed := (Text.isSigned_iff n).mp (Text.readSigned_signed _ n read)
        rw [Option.getD_some]
        omega
  | arr items => simp [toInt?,repeatCount]
  | obj entries => simp [toInt?,repeatCount]

theorem firstUnsigned_agrees :
    (num Number.firstUnsigned).toInt? = some (2 ^ 63 - 1) ∧
      (num Number.firstUnsigned).repeatCount = 2 ^ 63 - 1 ∧
      (str " -12 ").toInt? = some (-12) ∧ (str " -12 ").repeatCount = 0 := by
  have last : (num Number.firstUnsigned).toInt? = some (2 ^ 63 - 1) := by decide +kernel
  have negative : (str " -12 ").toInt? = some (-12) := by decide +kernel
  have most := (repeatCount_agrees (num Number.firstUnsigned)).1 _ last
  have none := (repeatCount_agrees (str " -12 ")).1 _ negative
  exact ⟨last,by omega,negative,by omega⟩

end Json
end LintTools
