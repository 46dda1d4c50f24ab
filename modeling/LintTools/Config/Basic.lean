import LintTools.Json.Basic
import LintTools.Path.Basic

/-! The shared configuration that options draw their defaults from: line length and versions,
complexity limits, severity thresholds, strictness, and what file discovery has found. -/
namespace LintTools

inductive Level where
  | low | medium | high
  deriving DecidableEq

def Level.label : Level → String
  | low => "low"
  | medium => "medium"
  | high => "high"

inductive Strictness where
  | lenient | standard | strict
  deriving DecidableEq

def Strictness.label : Strictness → String
  | lenient => "lenient"
  | standard => "standard"
  | strict => "strict"

abbrev Small := Fin 4294967296

structure Execution where
  lineLength : Small
  sqlDialect : String
  pythonVersion : Option String
  pylintPlugins : List String

def Execution.stock : Execution := ⟨⟨120, by decide⟩, "postgresql", none, []⟩

structure Complexity where
  maxComplexity : Option Small
  maxArguments : Option Small

def Complexity.stock : Complexity := ⟨some ⟨10, by decide⟩, some ⟨5, by decide⟩⟩

/-- A threshold on a score; `some none` is one that is no finite number. -/
abbrev Score := Option (Option Double)

/-- Nine and a half, the score that is asked for when none is configured. -/
def Score.stock : Score := some (some ⟨false, 0x4023000000000000, by decide⟩)

structure Thresholds where
  banditLevel : Level
  banditConfidence : Level
  pylintFailUnder : Score
  maxWarnings : Option Small

def Thresholds.stock : Thresholds := ⟨.medium, .medium, Score.stock, none⟩

structure Discovery where
  roots : List Path
  excludes : List Path
  explicitFiles : List Path

def Discovery.stock : Discovery := ⟨[⟨"."⟩], [], []⟩

structure Config where
  execution : Execution
  complexity : Complexity
  severity : Thresholds
  typeChecking : Strictness
  discovery : Discovery

namespace Json

def ofNat? (n : Nat) : Option Json := ofInt? n

def small (n : Small) : Json :=
  num (.whole n.val ⟨by omega, by have := n.isLt; omega⟩)

def real (value : Option Double) : Json :=
  match value with
  | some x => num (.double x)
  | none => null

def orNull (value : Option Json) : Json := value.getD null

def texts (values : List String) : Json := arr (values.map str)

end Json

namespace Config

def stock : Config :=
  ⟨Execution.stock, Complexity.stock, Thresholds.stock, .standard, Discovery.stock⟩

def json (c : Config) : Json :=
  let paths := fun (paths : List Path) => Json.texts (paths.map (·.text))
  .obj [
    ("complexity", .obj [
      ("max_arguments", .orNull (c.complexity.maxArguments.map .small)),
      ("max_complexity", .orNull (c.complexity.maxComplexity.map .small))]),
    ("execution", .obj [
      ("line_length", .small c.execution.lineLength),
      ("pylint_plugins", .texts c.execution.pylintPlugins),
      ("python_version", .orNull (c.execution.pythonVersion.map .str)),
      ("sql_dialect", .str c.execution.sqlDialect)]),
    ("file_discovery", .obj [
      ("excludes", paths c.discovery.excludes),
      ("explicit_files", paths c.discovery.explicitFiles),
      ("roots", paths c.discovery.roots)]),
    ("severity", .obj [
      ("bandit_confidence", .str c.severity.banditConfidence.label),
      ("bandit_level", .str c.severity.banditLevel.label),
      ("max_warnings", .orNull (c.severity.maxWarnings.map .small)),
      ("pylint_fail_under", .orNull (c.severity.pylintFailUnder.map .real))]),
    ("strictness", .obj [("type_checking", .str c.typeChecking.label)])]

end Config
end LintTools
