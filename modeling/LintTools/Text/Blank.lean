/-! Blank characters, trimming, and the lines of a text that hold anything. Lines are found on
characters, so that a text cut at a line end is read as its two parts are. -/
namespace LintTools.Text

def isBlank (c : Char) : Bool :=
  let n := c.toNat
  (9 ≤ n && n ≤ 13) || n == 0x20 || n == 0x85 || n == 0xA0 || n == 0x1680 ||
    (0x2000 ≤ n && n ≤ 0x200A) || n == 0x2028 || n == 0x2029 || n == 0x202F || n == 0x205F ||
    n == 0x3000

def dropBlank (cs : List Char) : List Char := cs.dropWhile isBlank

def dropBlankEnd (cs : List Char) : List Char := (dropBlank cs.reverse).reverse

def strip (cs : List Char) : List Char := dropBlankEnd (dropBlank cs)

def trim (text : String) : String := String.ofList (strip text.toList)

def pieces (sep : Char) : List Char → List (List Char)
  | [] => [[]]
  | c :: rest =>
    if c = sep then [] :: pieces sep rest
    else match pieces sep rest with
      | [] => [[c]]
      | first :: others => (c :: first) :: others

def filledLines (cs : List Char) : List (List Char) :=
  ((pieces '\n' cs).map strip).filter (!·.isEmpty)

def join (separator : String) (texts : List String) : String :=
  String.ofList (separator.toList.intercalate (texts.map String.toList))

def replaceChar (old new : Char) (text : String) : String :=
  String.ofList (text.toList.map fun c => if c = old then new else c)

end LintTools.Text
