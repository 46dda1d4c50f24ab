import LintTools.Double.Rounding

/-! Shortest decimal text of a double: the fewest digits that read back, the nearest of these, and
their layout as a plain decimal or with an exponent. -/
namespace LintTools.Double

private def lowerGap (x : Double) : Nat :=
  if x.rank % twoTo 52 = 0 ∧ twoTo 53 ≤ x.rank then 1 else 2

/-- The multiple of `10 ^ place` nearest to the magnitude among those that read back as it, as the
factor before the power. -/
def onGrid? (x : Double) (place : Int) : Option Nat :=
  let unit := 4 * x.denominator * tenTo place.toNat
  let factor := tenTo (-place).toNat
  let step := x.numerator / x.significand
  let value := 4 * x.numerator * factor
  let low := value - lowerGap x * step * factor
  let high := value + 2 * step * factor
  let readsBack := fun j =>
    if x.significand % 2 = 0 then low ≤ j * unit && j * unit ≤ high
    else low < j * unit && j * unit < high
  let below := value / unit
  let above := below + 1
  match readsBack below, readsBack above with
  | true, true =>
    let down := value - below * unit
    let up := above * unit - value
    if down < up ∨ (down = up ∧ below % 2 = 0) then some below else some above
  | true, false => some below
  | false, true => some above
  | false, false => none

private def topPlace (x : Double) : Int :=
  if x.denominator ≤ x.numerator then (Nat.toDigits 10 (x.numerator / x.denominator)).length
  else 1 - ((Nat.toDigits 10 (x.denominator / x.numerator)).length : Int)

/-- The digits of the shortest decimal, and the place of the last one; `(0, 0)` for zero. -/
def shortest (x : Double) : Nat × Int :=
  if x.isZero then (0, 0)
  else
    let places := (List.range 24).map fun (i : Nat) => topPlace x - (i : Int)
    (places.findSome? fun place => (onGrid? x place).map (·, place)).getD (0, 0)

private def zeros (n : Int) : List Char := List.replicate n.toNat '0'

/-- Digits with a point `before` places after their start: plain from five leading zeros up to
sixteen whole digits, and with an exponent beyond. -/
def layout (digits : List Char) (before : Int) : List Char :=
  let count : Int := digits.length
  if -5 < before ∧ before ≤ 0 then '0' :: '.' :: zeros (-before) ++ digits
  else if 0 < before ∧ before < count then
    digits.take before.toNat ++ '.' :: digits.drop before.toNat
  else if 0 < before ∧ before ≤ 16 then digits ++ zeros (before - count) ++ ['.', '0']
  else
    let power := before - 1
    let tail := match digits with
      | first :: second :: others => first :: '.' :: second :: others
      | short => short
    tail ++ 'e' :: (if power < 0 then '-' else '+') :: Nat.toDigits 10 power.natAbs

def text (x : Double) : List Char :=
  let sign := if x.negative then ['-'] else []
  if x.isZero then sign ++ ['0', '.', '0']
  else
    let (factor, place) := x.shortest
    let written := Nat.toDigits 10 factor
    let digits := (written.reverse.dropWhile (· = '0')).reverse
    sign ++ layout digits ((written.length : Int) + place)

end LintTools.Double
