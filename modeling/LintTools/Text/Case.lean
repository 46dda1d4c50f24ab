import LintTools.Text.CaseTable

/-! Lower case of a whole text, and the key under which texts that differ in case meet. -/
namespace LintTools.Text

private def inRanges (ranges : List (Nat × Nat)) (c : Char) : Bool :=
  ranges.any fun (first, last) => first ≤ c.toNat && c.toNat ≤ last

def isCased (c : Char) : Bool := inRanges casedRanges c

def isCaseIgnorable (c : Char) : Bool := inRanges caseIgnorableRanges c

def asciiLower (c : Char) : Char := if 'A' ≤ c ∧ c ≤ 'Z' then Char.ofNat (c.toNat + 32) else c

def asciiUpper (c : Char) : Char := if 'a' ≤ c ∧ c ≤ 'z' then Char.ofNat (c.toNat - 32) else c

def lowerChar (c : Char) : List Char :=
  let n := c.toNat
  if n < 0x80 then [asciiLower c]
  else if n = 0x130 then ['i', Char.ofNat 0x307]
  else match lowerRuns.find? fun (first, last, step, _) =>
      first ≤ n && n ≤ last && (n - first) % step == 0 with
    | some (_, _, _, offset) => [Char.ofNat (n + offset).toNat]
    | none => [c]

def meetsCased (cs : List Char) : Bool :=
  match cs.dropWhile isCaseIgnorable with
  | [] => false
  | c :: _ => isCased c

/-- Lower case of `cs` behind the characters `before`, nearest first. A capital sigma at the end of
a word has a form of its own. -/
def lowerBehind (before : List Char) : List Char → List Char
  | [] => []
  | c :: rest =>
    (if c = 'Σ' then [if meetsCased before && !meetsCased rest then 'ς' else 'σ']
      else lowerChar c) ++ lowerBehind (c :: before) rest

def lower (cs : List Char) : List Char := lowerBehind [] cs

def caselessKey (text : String) : String :=
  String.ofList ((lower text.toList).flatMap fun c => if c = 'ß' then ['s', 's'] else [c])

/-- Capital form as far as the words of the ASCII alphabet need it: besides the ASCII letters only
dotless i and long s have an ASCII capital. -/
def capital (c : Char) : Char :=
  if c = 'ı' then 'I' else if c = 'ſ' then 'S' else asciiUpper c

def asciiLowerText (text : String) : String := String.ofList (text.toList.map asciiLower)

def sameAscii (a b : List Char) : Bool := a.map asciiLower == b.map asciiLower

end LintTools.Text
