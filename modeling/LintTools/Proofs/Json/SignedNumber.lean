import LintTools.Json.Coerce
import LintTools.Proofs.Double.Rounding

/-! Numbers read as signed whole numbers of 64 bits. A number is read as itself or not at all, except
just above the signed range: there its nearest double is `2 ^ 63`, which has no signed form and is
read as the largest signed number. -/
namespace LintTools

theorem Text.isSigned_iff (n : Int) : isSigned n = true ↔ -2 ^ 63 ≤ n ∧ n ≤ 2 ^ 63 - 1 := by
  rw [isSigned,Bool.and_eq_true,decide_eq_true_iff,decide_eq_true_iff]
  exact Iff.rfl

theorem Double.signed?_eq_some_iff (x : Double) (n : Int) :
    x.signed? = some n ↔ (-2 ^ 63 ≤ x.truncate ∧ x.truncate ≤ 2 ^ 63) ∧
      clampSigned x.truncate = n := by
  simp [signed?]

namespace Number

def value : Number → ℚ
  | whole value _ => value
  | double value => value.value

/-- Above the signed range by no more than half a place of the doubles there. -/
def JustPast (v : Number) : Prop := 2 ^ 63 ≤ v.value ∧ v.value ≤ 2 ^ 63 + 1024

def ReadExactly (v : Number) : Prop :=
  ∀ n : Int, v.toInt? = some n ↔ v.value = n ∧ -2 ^ 63 ≤ n ∧ n ≤ 2 ^ 63 - 1

theorem toInt?_double (x : Double) (n : Int) : (double x).toInt? = some n ↔
    (x.value = n ∧ -2 ^ 63 ≤ n ∧ n ≤ 2 ^ 63 - 1) ∨ (x.value = 2 ^ 63 ∧ n = 2 ^ 63 - 1) := by
  by_cases whole : x.isWhole = true
  · obtain ⟨m,same⟩ := x.isWhole_iff.mp whole
    have last : (m : ℚ) = 2 ^ 63 ↔ m = 2 ^ 63 := by exact_mod_cast Iff.rfl
    rw [toInt?,if_pos whole,Double.signed?_eq_some_iff,x.truncate_of_value m same,same,
      Int.cast_inj,last]
    simp only [clampSigned,Text.minSigned,Text.maxSigned]
    omega
  · have fraction (m : Int) : x.value ≠ m := fun same => whole (x.isWhole_iff.mpr ⟨m,same⟩)
    have last : x.value ≠ 2 ^ 63 := fun same => fraction (2 ^ 63) (by rw [same]; norm_num)
    simp [toInt?,whole,fraction n,last]

/-- Between `2 ^ 63` and the next double there is none. -/
theorem justPast_double (x : Double) : (double x).JustPast ↔ x.value = 2 ^ 63 := by
  constructor
  · rintro ⟨low,high⟩
    change 2 ^ 63 ≤ x.value at low
    change x.value ≤ 2 ^ 63 + 1024 at high
    obtain ⟨n,multiple⟩ := x.multiple_of_large 11 low
    rw [multiple] at low high ⊢
    norm_cast at low high ⊢
    omega
  · intro same
    change 2 ^ 63 ≤ x.value ∧ x.value ≤ 2 ^ 63 + 1024
    rw [same]
    norm_num

/-- Above the signed range the nearest double is read in place of a number. -/
theorem toInt?_nearest (m : Int) (inRange) (above : 2 ^ 63 ≤ m) : ∃ x : Double,
    x.value = roundQuotient m.natAbs (2 ^ 11) * 2 ^ 11 ∧
      (whole m inRange).toInt? = (double x).toInt? := by
  obtain ⟨x,rounded,same⟩ : ∃ x, Double.ofNat? m.natAbs = some x ∧
      x.value = roundQuotient m.natAbs (2 ^ 11) * 2 ^ 11 :=
    Double.ofNat?_large (by omega) (by omega) (by decide)
  have unsigned : Text.isSigned m ≠ true := by
    rw [Ne,Text.isSigned_iff]
    omega
  refine ⟨x,same,?_⟩
  rw [toInt?,if_neg unsigned,rounded,toInt?,Option.filter_some]
  split <;> rfl

theorem toInt?_above (m : Int) (inRange) (above : 2 ^ 63 ≤ m) (n : Int) :
    (whole m inRange).toInt? = some n ↔ m ≤ 2 ^ 63 + 1024 ∧ n = 2 ^ 63 - 1 := by
  obtain ⟨x,rounded,same⟩ := toInt?_nearest m inRange above
  obtain ⟨least,_⟩ := roundQuotient_bounds m.natAbs (2 ^ 11) (2 ^ 52) (2 ^ 53)
    (by omega) (by omega) (by decide)
  have half := roundQuotient_eq_even_iff m.natAbs (2 ^ 11) (2 ^ 52) (by decide) (by omega)
    (by decide)
  rw [same,toInt?_double,rounded]
  generalize roundQuotient m.natAbs (2 ^ 11) = r at least half
  -- The double is `2 ^ 63`, or so far above it that it is not signed either.
  have last : (r : ℚ) * 2 ^ 11 = 2 ^ 63 ↔ r = 2 ^ 52 := by norm_cast; omega
  have beyond : (r : ℚ) * 2 ^ 11 = n → 2 ^ 63 ≤ n := by norm_cast; omega
  rw [last,half]
  constructor
  · rintro (⟨equal,_,high⟩ | ⟨near,rfl⟩)
    · have far := beyond equal
      omega
    · exact ⟨by omega,rfl⟩
  · rintro ⟨near,rfl⟩
    exact .inr ⟨by omega,rfl⟩

theorem toInt?_signed (m : Int) (inRange) (signed : -2 ^ 63 ≤ m ∧ m ≤ 2 ^ 63 - 1) :
    (whole m inRange).toInt? = some m := by
  rw [toInt?,if_pos ((Text.isSigned_iff m).mpr signed)]

theorem justPast_whole (m : Int) (inRange) :
    (whole m inRange).JustPast ↔ 2 ^ 63 ≤ m ∧ m ≤ 2 ^ 63 + 1024 := by
  rw [JustPast,value]
  exact_mod_cast Iff.rfl

theorem toInt?_eq_some_iff (v : Number) (n : Int) : v.toInt? = some n ↔
    (v.value = n ∧ -2 ^ 63 ≤ n ∧ n ≤ 2 ^ 63 - 1) ∨ (v.JustPast ∧ n = 2 ^ 63 - 1) := by
  cases v with
  | double x =>
    rw [toInt?_double,justPast_double]
    exact Iff.rfl
  | whole m inRange =>
    rw [justPast_whole,value,Int.cast_inj]
    by_cases above : 2 ^ 63 ≤ m
    · rw [toInt?_above m inRange above]
      omega
    · rw [toInt?_signed m inRange (by omega),Option.some_inj]
      omega

theorem JustPast.not_readExactly {v : Number} (past : v.JustPast) : ¬v.ReadExactly := by
  intro exact
  have found := (v.toInt?_eq_some_iff (2 ^ 63 - 1)).mpr (.inr ⟨past,rfl⟩)
  have low := past.1
  rw [((exact _).mp found).1] at low
  norm_num at low

/-- A number is read exactly unless it is just past the signed range. The numbers just past it are
all read as the largest signed one. -/
theorem toInt?_exact_iff (v : Number) : (v.ReadExactly ↔ ¬v.JustPast) ∧
    ∀ n : Int, v.toInt? = some n ↔
      (v.value = n ∧ -2 ^ 63 ≤ n ∧ n ≤ 2 ^ 63 - 1) ∨ (v.JustPast ∧ n = 2 ^ 63 - 1) := by
  refine ⟨⟨fun exact past => past.not_readExactly exact,?_⟩,v.toInt?_eq_some_iff⟩
  intro apart n
  rw [v.toInt?_eq_some_iff n,or_iff_left fun past => apart past.1]

def firstUnsigned : Number := .whole (2 ^ 63) (by decide)

def signedEnd : Double := ⟨false,1086 * 2 ^ 52,by decide⟩

theorem signedEnd_value : signedEnd.value = 2 ^ 63 := by
  have magnitude := signedEnd.magnitude_of_rank 1085 (2 ^ 52) rfl le_rfl (by decide)
  norm_num at magnitude ⊢
  exact magnitude

/-- In either form the number behind the largest signed one is read as that one. -/
theorem firstUnsigned_lowered :
    firstUnsigned.toInt? = some (2 ^ 63 - 1) ∧ ¬firstUnsigned.ReadExactly ∧
      (double signedEnd).toInt? = some (2 ^ 63 - 1) ∧ ¬(double signedEnd).ReadExactly := by
  have past : firstUnsigned.JustPast := by norm_num [firstUnsigned,JustPast,value]
  have pastToo := (justPast_double signedEnd).mpr signedEnd_value
  exact ⟨by decide +kernel,past.not_readExactly,by decide +kernel,pastToo.not_readExactly⟩

end Number
end LintTools
