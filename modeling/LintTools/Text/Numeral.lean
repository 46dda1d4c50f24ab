/-! Whole numbers in text: an optional sign and ASCII digits, within the range of the result.
Written numbers are read back unchanged. -/
namespace LintTools.Text

def digitValue? (c : Char) : Option Nat :=
  if '0' ≤ c ∧ c ≤ '9' then some (c.toNat - 48) else none

def isDigit (c : Char) : Bool := (digitValue? c).isSome

def digitsFrom? (start : Nat) : List Char → Option Nat
  | [] => some start
  | c :: rest => (digitValue? c).bind fun d => digitsFrom? (10 * start + d) rest

def readNatural (cs : List Char) : Option Nat :=
  if cs.isEmpty then none else digitsFrom? 0 cs

def minSigned : Int := -9223372036854775808
def maxSigned : Int := 9223372036854775807

def isSigned (n : Int) : Bool := minSigned ≤ n && n ≤ maxSigned

/-- The signed number of 64 bits that differs from `n` by a multiple of `2 ^ 64`. -/
def wrapSigned (n : Int) : Int := n.bmod 18446744073709551616

def readSigned (cs : List Char) : Option Int :=
  let value := match cs with
    | '-' :: digits => (readNatural digits).map fun n => -(n : Int)
    | '+' :: digits => (readNatural digits).map fun n => (n : Int)
    | digits => (readNatural digits).map fun n => (n : Int)
  value.filter isSigned

def maxSmall : Nat := 4294967295

def readSmall (cs : List Char) : Option Nat :=
  let value := match cs with
    | '+' :: digits => readNatural digits
    | digits => readNatural digits
  value.filter (· ≤ maxSmall)

def showNatural (n : Nat) : List Char := Nat.toDigits 10 n

def showInteger (n : Int) : List Char :=
  if n < 0 then '-' :: showNatural n.natAbs else showNatural n.natAbs

end LintTools.Text
