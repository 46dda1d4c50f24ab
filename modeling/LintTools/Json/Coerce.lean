import LintTools.Double.Rounding
import LintTools.Json.Printer
import LintTools.Text.Blank
import LintTools.Text.Case

/-! Lenient readings of JSON values as whole numbers, texts, lists and flags. A value of the wrong
shape is read as nothing. -/
namespace LintTools

def clampSigned (n : Int) : Int := max Text.minSigned (min Text.maxSigned n)

/-- The whole part of a double between the bounds of the signed range, both included; the upper
bound itself has no signed form and becomes the largest one. -/
def Double.signed? (x : Double) : Option Int :=
  if -9223372036854775808 ≤ x.truncate ∧ x.truncate ≤ 9223372036854775808 then
    some (clampSigned x.truncate)
  else none

/-- The signed form of a number; numbers above the signed range are first rounded to a double. -/
def Number.toInt? : Number → Option Int
  | .whole value _ =>
    if Text.isSigned value then some value
    else ((Double.ofNat? value.natAbs).filter (·.isWhole)).bind (·.signed?)
  | .double value => if value.isWhole then value.signed? else none

def Number.isZero : Number → Bool
  | .whole value _ => value == 0
  | .double value => value.isZero

/-- A count of repetitions: truncated, at least zero, and at most the largest signed number;
doubles past the signed range count as zero. -/
def Number.repeatCount : Number → Nat
  | .whole value _ => (clampSigned value).toNat
  | .double value => (value.signed?.getD 0).toNat

namespace Json

def toInt? : Json → Option Int
  | bool flag => some (if flag then 1 else 0)
  | num value => value.toInt?
  | str text => Text.readSigned (Text.strip text.toList)
  | _ => none

def display : Json → String
  | str text => text
  | other => other.text

def display? (value : Json) : Option String := if value.isNull then none else some value.display

def toTexts : Json → List String
  | null => []
  | arr items => items.filterMap display?
  | other => [other.display]

def isTruthy : Json → Bool
  | null => false
  | bool flag => flag
  | num value => !value.isZero
  | str text => !text.isEmpty
  | arr items => !items.isEmpty
  | obj entries => !entries.isEmpty

def flagWord? (text : String) : Option Bool :=
  let word := Text.asciiLowerText (Text.trim text)
  if ["1", "true", "yes", "on"].contains word then some true
  else if ["0", "false", "no", "off"].contains word then some false
  else none

def toFlag? : Json → Option Bool
  | null => none
  | bool flag => some flag
  | str text => some ((flagWord? text).getD (!text.isEmpty))
  | other => some other.isTruthy

def flag (value : Json) : Bool := value.toFlag?.getD value.isTruthy

def repeatCount : Json → Nat
  | bool flag => if flag then 1 else 0
  | num value => value.repeatCount
  | str text => ((Text.readSigned (Text.strip text.toList)).getD 0).toNat
  | _ => 0

end Json
end LintTools
