import LintTools.Double.Basic

/-! Rounding of quotients to the nearest double, a tie going to the even neighbour. Products and
quotients of doubles are the rounded exact ones. -/
namespace LintTools

def roundQuotient (num den : Nat) : Nat :=
  let quotient := num / den
  let rest := num % den
  if 2 * rest < den ∨ (2 * rest = den ∧ quotient % 2 = 0) then quotient else quotient + 1

namespace Double

def scale (num den : Nat) : Int :=
  let top : Int := (num.log2 : Int) - den.log2
  let reached := den * twoTo top.toNat ≤ num * twoTo (-top).toNat
  max (-1074) (if reached then top - 52 else top - 53)

/-- The rank nearest to `num / den`; a rank past the bound stands for a value too large. -/
def rankOf (num den : Nat) : Nat :=
  if num = 0 then 0
  else
    let e := scale num den
    (e + 1074).toNat * twoTo 52 + roundQuotient (num * twoTo (-e).toNat) (den * twoTo e.toNat)

def ofQuotient? (negative : Bool) (num den : Nat) : Option Double :=
  if h : rankOf num den < bound then some ⟨negative, rankOf num den, h⟩ else none

def ofNat? (n : Nat) : Option Double := ofQuotient? false n 1

def mul? (x y : Double) : Option Double :=
  ofQuotient? (x.negative != y.negative) (x.numerator * y.numerator)
    (x.denominator * y.denominator)

def div? (x y : Double) : Option Double :=
  ofQuotient? (x.negative != y.negative) (x.numerator * y.denominator)
    (x.denominator * y.numerator)

def powerOfTen? (k : Nat) : Option Double := ofNat? (tenTo k)

def ofDecimal? (negative : Bool) (digits : Nat) (exponent : Int) : Option Double :=
  ofQuotient? negative (digits * tenTo exponent.toNat) (tenTo (-exponent).toNat)

end Double
end LintTools
