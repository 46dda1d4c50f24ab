import LintTools.Invocation.PythonVersion

/-! Named transforms of option values. Versions fall back to the target of the run when a value has
none, and flags are read from words as well as values. -/
namespace LintTools

inductive Transform where
  | pythonVersionTag
  | pythonVersionNumber
  | pyupgradeFlag
  | strictnessIsStrict
  | strictnessIsLenient
  | boolToYn
  | boolToStr
  deriving DecidableEq

namespace Transform

def all : List Transform :=
  [pythonVersionTag, pythonVersionNumber, pyupgradeFlag, strictnessIsStrict, strictnessIsLenient,
    boolToYn, boolToStr]

def name : Transform → String
  | pythonVersionTag => "python_version_tag"
  | pythonVersionNumber => "python_version_number"
  | pyupgradeFlag => "pyupgrade_flag"
  | strictnessIsStrict => "strictness_is_strict"
  | strictnessIsLenient => "strictness_is_lenient"
  | boolToYn => "bool_to_yn"
  | boolToStr => "bool_to_str"

def named? (text : String) : Option Transform := all.find? (·.name = text)

def versionOf (value : Json) (ctx : Context) : PythonVersion :=
  (value.display?.bind PythonVersion.read?).getD (PythonVersion.target ctx)

def isWord (word text : String) : Bool :=
  Text.sameAscii (Text.strip text.toList) word.toList

def apply (transform : Transform) (value : Json) (ctx : Context) : Json :=
  match transform with
  | pythonVersionTag => .str (versionOf value ctx).tag
  | pythonVersionNumber => .str (versionOf value ctx).number
  | pyupgradeFlag => .str (versionOf value ctx).pyupgradeFlag
  | strictnessIsStrict =>
    .bool (match value with
      | .str text => isWord "strict" text
      | other => other.isTruthy)
  | strictnessIsLenient =>
    .bool (match value with
      | .str text => isWord "lenient" text
      | _ => false)
  | boolToYn => .str (if value.flag then "y" else "n")
  | boolToStr => .str (if value.flag then "true" else "false")

end Transform
end LintTools
