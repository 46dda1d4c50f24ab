import LintTools.Text.PrintTable

/-! Quoted form of a text: between double quotes, with an escape for each character that would not
be seen as itself. -/
namespace LintTools.Text

def extendsGrapheme (c : Char) : Bool :=
  graphemeExtendRanges.any fun (first, last) => first ≤ c.toNat && c.toNat ≤ last

def isPrintable (c : Char) : Bool :=
  c = ' ' || !unprintableRanges.any fun (first, last) => first ≤ c.toNat && c.toNat ≤ last

/-- The escaped form of one character. Only the double quote would end the text; a single quote
stands as it is. -/
def escapeChar (c : Char) : List Char :=
  if c = '\x00' then ['\\', '0']
  else if c = '\t' then ['\\', 't']
  else if c = '\n' then ['\\', 'n']
  else if c = '\r' then ['\\', 'r']
  else if c = '\\' || c = '"' then ['\\', c]
  else if extendsGrapheme c || !isPrintable c then
    ['\\', 'u', '\x7b'] ++ Nat.toDigits 16 c.toNat ++ ['\x7d']
  else [c]

def quoted (cs : List Char) : List Char := '"' :: cs.flatMap escapeChar ++ ['"']

end LintTools.Text
