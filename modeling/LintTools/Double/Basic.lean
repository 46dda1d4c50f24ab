/-! Finite binary numbers of double precision as exact data: a sign and the rank of the magnitude
among all finite magnitudes. Their value is `significand * 2 ^ exponent`, so every question about
them is one about whole numbers. -/
namespace LintTools

def twoTo (n : Nat) : Nat := Nat.pow 2 n

def tenTo (n : Nat) : Nat := Nat.pow 10 n

/-- The ranks of finite magnitudes end here: 2047 exponents, each with `2 ^ 52` ranks. -/
def Double.bound : Nat := 9218868437227405312

structure Double where
  negative : Bool
  rank : Nat
  inRange : rank < Double.bound
  deriving DecidableEq

namespace Double

def zero : Double := ⟨false, 0, by decide⟩

def negate (x : Double) : Double := ⟨!x.negative, x.rank, x.inRange⟩

def significand (x : Double) : Nat :=
  if x.rank < twoTo 52 then x.rank else twoTo 52 + x.rank % twoTo 52

def exponent (x : Double) : Int := (max 1 (x.rank / twoTo 52) : Nat) - 1075

def numerator (x : Double) : Nat := x.significand * twoTo x.exponent.toNat

def denominator (x : Double) : Nat := twoTo (-x.exponent).toNat

def isZero (x : Double) : Bool := x.rank == 0

def isWhole (x : Double) : Bool := x.numerator % x.denominator == 0

def truncate (x : Double) : Int :=
  let whole : Int := x.numerator / x.denominator
  if x.negative then -whole else whole

end Double
end LintTools
