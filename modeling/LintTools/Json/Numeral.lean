import LintTools.Double.Rounding
import LintTools.Json.Basic
import LintTools.Text.Numeral

/-! Number literals. Digits are gathered while they fit 64 bits; those that do not fit are dropped,
and the rest is scaled by a power of ten in steps of double precision. -/
namespace LintTools.Json

/-- Digits gathered so far, how many whole digits were dropped, and how many places they have
behind the point. -/
structure Gathered where
  digits : Nat
  exponent : Int

def maxDigits : Nat := 18446744073709551615

/-- Gathers whole digits. From the first one that does not fit all are dropped, each of them
raising the exponent. -/
def gatherWhole (digits : Nat) (dropped : Nat) : List Char → Gathered
  | [] => ⟨digits, dropped⟩
  | c :: rest =>
    let next := 10 * digits + (Text.digitValue? c).getD 0
    if 0 < dropped ∨ maxDigits < next then gatherWhole digits (dropped + 1) rest
    else gatherWhole next 0 rest

/-- Gathers digits behind the point. From the first one that does not fit all are ignored. -/
def gatherFraction (sofar : Gathered) : List Char → Gathered
  | [] => sofar
  | c :: rest =>
    let next := 10 * sofar.digits + (Text.digitValue? c).getD 0
    if maxDigits < next then sofar
    else gatherFraction ⟨next, sofar.exponent - 1⟩ rest

/-- Multiplies `x` by a power of ten in double precision; past the largest power that is a double,
division is done in several steps. -/
def scaleByTen? (x : Double) (exponent : Int) : Nat → Option Double
  | 0 => some x
  | steps + 1 =>
    if exponent.natAbs ≤ 308 then
      (Double.powerOfTen? exponent.natAbs).bind fun power =>
        if 0 ≤ exponent then x.mul? power else x.div? power
    else if x.isZero then some x
    else if 0 ≤ exponent then none
    else do
      let power ← Double.powerOfTen? 308
      scaleByTen? (← x.div? power) (exponent + 308) steps

/-- The double that gathered digits stand for; five steps bring every one of them to zero. -/
def Gathered.double? (negative : Bool) (g : Gathered) : Option Double := do
  let x ← scaleByTen? (← Double.ofNat? g.digits) g.exponent 5
  return if negative then x.negate else x

def maxExponent : Nat := 2147483647

structure Literal where
  negative : Bool
  whole : List Char
  fraction : Option (List Char)
  exponent : Option (Bool × List Char)

def clampExponent (e : Int) : Int := max (-2147483648) (min 2147483647 e)

def Literal.number? (l : Literal) : Option Number :=
  let whole := gatherWhole 0 0 l.whole
  let gathered := match l.fraction with
    | none => whole
    | some fraction => gatherFraction whole fraction
  match l.fraction, l.exponent with
  | none, none =>
    let value : Int := if l.negative then -(whole.digits : Int) else whole.digits
    let minusZero := l.negative && whole.digits == 0
    if h : (-9223372036854775808 ≤ value ∧ value < 18446744073709551616) ∧
        whole.exponent = 0 ∧ minusZero = false then
      some (.whole value h.1)
    else (whole.double? l.negative).map .double
  | _, none => (gathered.double? l.negative).map .double
  | _, some (minus, digits) =>
    let written := (Text.readNatural digits).getD 0
    if maxExponent < written then
      if gathered.digits ≠ 0 ∧ minus = false then none
      else some (.double (if l.negative then Double.zero.negate else Double.zero))
    else
      let exponent : Int :=
        if minus then gathered.exponent - (written : Int) else gathered.exponent + (written : Int)
      (Gathered.double? l.negative ⟨gathered.digits, clampExponent exponent⟩).map .double

def takeDigits (cs : List Char) : List Char × List Char :=
  (cs.takeWhile Text.isDigit, cs.dropWhile Text.isDigit)

def readSign (cs : List Char) : Bool × List Char :=
  match cs with
  | '-' :: rest => (true, rest)
  | _ => (false, cs)

def isWholePart : List Char → Bool
  | [] => false
  | ['0'] => true
  | first :: _ => first != '0'

def fraction? (cs : List Char) : Option (Option (List Char) × List Char) :=
  match cs with
  | '.' :: rest =>
    let (digits, rest) := takeDigits rest
    if digits.isEmpty then none else some (some digits, rest)
  | _ => some (none, cs)

def readExponentSign (cs : List Char) : Bool × List Char :=
  match cs with
  | '+' :: rest => (false, rest)
  | _ => readSign cs

def exponent? (cs : List Char) : Option (Option (Bool × List Char) × List Char) :=
  match cs with
  | [] => some (none, cs)
  | e :: rest =>
    if e = 'e' ∨ e = 'E' then
      let (minus, rest) := readExponentSign rest
      let (digits, rest) := takeDigits rest
      if digits.isEmpty then none else some (some (minus, digits), rest)
    else some (none, cs)

def literal? (cs : List Char) : Option (Literal × List Char) := do
  let (negative, cs) := readSign cs
  let (whole, cs) := takeDigits cs
  if isWholePart whole then do
    let (fraction, cs) ← fraction? cs
    let (exponent, cs) ← exponent? cs
    return (⟨negative, whole, fraction, exponent⟩, cs)
  else none

end LintTools.Json
