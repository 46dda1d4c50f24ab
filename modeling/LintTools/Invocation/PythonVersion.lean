import LintTools.Invocation.Context
import LintTools.Text.Numeral
import LintTools.Text.Run

/-! Python versions: a major and a minor number, read from several spellings and written as number,
tag or flag. -/
namespace LintTools

structure PythonVersion where
  major : Nat
  minor : Nat
  deriving DecidableEq

namespace PythonVersion

private def dropMark (cs : List Char) : List Char :=
  ((Text.after? ['p', 'y'] cs).or (Text.after? ['P', 'Y'] cs)).getD cs

/-- Reads digits with a point behind the major number, or digits whose first is the major one. -/
def read? (text : String) : Option PythonVersion :=
  let cs := dropMark (Text.strip text.toList)
  if cs.contains '.' then
    match Text.pieces '.' cs with
    | major :: minor :: _ => do return ⟨← Text.readSmall major, ← Text.readSmall minor⟩
    | _ => none
  else if cs.all Text.isDigit then
    match cs with
    | [] => none
    | [major] => do return ⟨← Text.readSmall [major], 0⟩
    | major :: minor => do return ⟨← Text.readSmall [major], ← Text.readSmall minor⟩
  else none

def number (v : PythonVersion) : String := s!"{v.major}.{v.minor}"

def tag (v : PythonVersion) : String := s!"py{v.major}{v.minor}"

def pyupgradeFlag (v : PythonVersion) : String := s!"--py{v.major}{v.minor}-plus"

def stock : PythonVersion := ⟨3, 12⟩

def target (ctx : Context) : PythonVersion :=
  (ctx.config.execution.pythonVersion.bind read?).getD stock

end PythonVersion
end LintTools
