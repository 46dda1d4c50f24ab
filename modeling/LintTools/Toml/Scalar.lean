import LintTools.Double.Rounding
import LintTools.Json.Reader
import LintTools.Toml.Basic

/-! The bare scalars of TOML: whole and real numbers with underscores between digits, flags, dates
and times. A scalar is first cut out as a run of characters, then read as a whole. Spelling and
value of a number are apart: a number that is out of range, or lacks digits, is well spelled. -/
namespace LintTools.Toml

def digits? (base : Nat) (cs : List Char) : Option Nat :=
  if cs.isEmpty then none
  else cs.foldlM (fun n c => ((Json.hexValue? c).filter (· < base)).map (base * n + ·)) 0

def splitSign (cs : List Char) : Option Bool × List Char :=
  match cs with
  | '-' :: rest => (some true, rest)
  | '+' :: rest => (some false, rest)
  | _ => (none, cs)

def scoresFit (isDigit : Char → Bool) : (before : Bool) → List Char → Bool
  | _, [] => true
  | before, '_' :: rest =>
    before && (rest.head?.elim false isDigit) && scoresFit isDigit false rest
  | _, c :: rest => scoresFit isDigit (isDigit c) rest

def withoutScores (cs : List Char) : List Char := cs.filter (· != '_')

/-- A whole number by its digits. Values are signed numbers of 128 bits, or unsigned ones. -/
def wholeValue (base : Nat) (negative : Bool) (digits : List Char) : Value :=
  match digits? base digits with
  | none => .unreadable
  | some n =>
    let value : Int := if negative then -(n : Int) else n
    if -(twoTo 127 : Int) ≤ value ∧ value < twoTo 128 then .whole value else .unreadable

def marked? (base : Nat) (cs : List Char) : Option Value :=
  let isDigit := fun c => ((Json.hexValue? c).filter (· < base)).isSome
  if (withoutScores cs).all isDigit && scoresFit isDigit false cs then
    some (wholeValue base false (withoutScores cs))
  else none

def hasNeedlessZero (cs : List Char) : Bool :=
  match cs with
  | '0' :: _ :: _ => true
  | _ => false

def isExponentMark (c : Char) : Bool := c = 'e' || c = 'E'

def run? (cs : List Char) : Option (List Char × List Char) :=
  let inRun := fun c => Text.isDigit c || c = '_'
  match withoutScores (cs.takeWhile inRun) with
  | [] => none
  | digits => some (digits, cs.dropWhile inRun)

def fraction? (cs : List Char) : Option (List Char × List Char) :=
  match cs with
  | '.' :: rest => run? rest
  | _ => some ([], cs)

def power? (bound : Nat) (cs : List Char) : Option Int :=
  match cs with
  | [] => some 0
  | mark :: rest =>
    if isExponentMark mark then do
      let (sign, rest) := splitSign rest
      let (digits, rest) ← run? rest
      let written : Int := min (← digits? 10 digits) bound
      if rest.isEmpty then some (if sign = some true then -written else written) else none
    else none

/-- A real number; one that is too large has no value. Powers of ten that bring any number of this
length to zero or out of range are all the same. -/
def real? (negative : Bool) (cs : List Char) : Option Value := do
  let (whole, rest) ← run? cs
  let (fraction, rest) ← fraction? rest
  let power ← power? (cs.length + 1000) rest
  let digits ← digits? 10 (whole ++ fraction)
  if whole.length > 1 ∧ hasNeedlessZero cs then none
  else match Double.ofDecimal? negative digits (power - fraction.length) with
    | some value => some (.real (some value))
    | none => some .unreadable

def fixed? (count : Nat) (cs : List Char) : Option (Nat × List Char) := do
  let digits := cs.take count
  if digits.length < count then none
  else return (← Text.readNatural digits, cs.drop count)

def char? (expected : Char) (cs : List Char) : Option (List Char) :=
  match cs with
  | c :: rest => if c = expected then some rest else none
  | [] => none

def daysIn (year month : Nat) : Nat :=
  if month = 2 then
    if (year % 4 = 0 ∧ year % 100 ≠ 0) ∨ year % 400 = 0 then 29 else 28
  else if [4, 6, 9, 11].contains month then 30 else 31

def date? (cs : List Char) : Option (List Char) := do
  let (year, cs) ← fixed? 4 cs
  let (month, cs) ← fixed? 2 (← char? '-' cs)
  let (day, cs) ← fixed? 2 (← char? '-' cs)
  if 1 ≤ month ∧ month ≤ 12 ∧ 1 ≤ day ∧ day ≤ daysIn year month then some cs else none

def seconds? (cs : List Char) : Option (List Char) :=
  match cs with
  | ':' :: cs => do
    let (second, cs) ← fixed? 2 cs
    if second ≤ 60 then
      match cs with
      | '.' :: rest =>
        let after := rest.dropWhile Text.isDigit
        if after.length < rest.length then some after else none
      | _ => some cs
    else none
  | _ => some cs

def time? (cs : List Char) : Option (List Char) := do
  let (hour, cs) ← fixed? 2 cs
  let (minute, cs) ← fixed? 2 (← char? ':' cs)
  if hour ≤ 23 ∧ minute ≤ 59 then seconds? cs else none

def isOffset (cs : List Char) : Bool :=
  match cs with
  | [] => true
  | ['Z'] => true
  | ['z'] => true
  | sign :: rest =>
    (sign = '+' || sign = '-') &&
      (do
        let (hour, rest) ← fixed? 2 rest
        let (minute, rest) ← fixed? 2 (← char? ':' rest)
        return decide (hour ≤ 23 ∧ minute ≤ 59) && rest.isEmpty) == some true

def isMoment (cs : List Char) : Bool :=
  match date? cs with
  | some [] => true
  | some (mark :: rest) =>
    (mark = 'T' || mark = 't' || mark = ' ') && ((time? rest).map isOffset).getD false
  | none => time? cs == some []

/-- A number, told by what follows its leading digits: a mark of the base, nothing, a point or an
exponent, or an underscore. A whole number with an underscore may have any characters further on; it
has no value then. -/
def number? (cs : List Char) : Option Value :=
  let (sign, body) := splitSign cs
  let negative := sign = some true
  let scored := scoresFit Text.isDigit false body
  let rest := body.dropWhile Text.isDigit
  match body, rest with
  | [], _ => none
  | '0' :: 'x' :: digits, _ => if sign.isSome then none else marked? 16 digits
  | '0' :: 'o' :: digits, _ => if sign.isSome then none else marked? 8 digits
  | '0' :: 'b' :: digits, _ => if sign.isSome then none else marked? 2 digits
  | _, [] => if hasNeedlessZero body then none else some (wholeValue 10 negative body)
  | _, mark :: _ =>
    if rest.any fun c => c = '.' || isExponentMark c then
      if scored then real? negative body else none
    else if mark = '_' ∧ !hasNeedlessZero body ∧
        scoresFit (fun c => (Json.hexValue? c).isSome) false body then
      some (wholeValue 10 negative (withoutScores body))
    else none

def endsScalar (c : Char) : Bool :=
  ['=', ',', '[', ']', '{', '\x7d', ' ', '\t', '#', '\r', '\n'].contains c

/-- Cuts out a bare scalar. A space belongs to it between a date and a time. -/
def cutScalar (cs : List Char) : List Char × List Char :=
  let inScalar := fun c => !endsScalar c
  let run := cs.takeWhile inScalar
  match date? run, cs.dropWhile inScalar with
  | some [], ' ' :: c :: rest =>
    if Text.isDigit c then
      (run ++ ' ' :: (c :: rest).takeWhile inScalar, (c :: rest).dropWhile inScalar)
    else (run, ' ' :: c :: rest)
  | _, after => (run, after)

def isNotFinite (cs : List Char) : Bool :=
  ["inf".toList, "nan".toList].contains (splitSign cs).2

def scalar? : Reader Value := fun cs =>
  let (run, rest) := cutScalar cs
  let value? : Option Value :=
    if run = "true".toList then some (.flag true)
    else if run = "false".toList then some (.flag false)
    else if isNotFinite run then some (.real none)
    else if isMoment run then some .moment
    else number? run
  value?.map (·, rest)

end LintTools.Toml
