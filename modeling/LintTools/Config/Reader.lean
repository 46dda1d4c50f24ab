import LintTools.Config.Basic
import LintTools.Toml.Document

/-! Configuration from TOML. Every section and field has a stock value, unknown ones are passed
over unless they hold a number without a value, and a field of the wrong type refuses the document.
A section may list its fields by position, and a choice may be written as a table with one empty
entry. -/
namespace LintTools.Config
open Toml

def othersReadable (names : List String) (entries : List (String × Value)) : Bool :=
  entriesReadable (entries.filter fun (name, _) => !names.contains name)

/-- The fields of a section; `names` gives their order. Items behind the last field of a section in
order are not looked at. -/
def fields? (names : List String) : Option Value → Option (List (String × Value))
  | none => some []
  | some (.table entries) => if othersReadable names entries then some entries else none
  | some (.array items) => some (names.zip items)
  | some .moment => some []
  | some _ => none

def field? {α : Type} (fields : List (String × Value)) (name : String) (stock : α)
    (read : Value → Option α) : Option α :=
  match fields.lookup name with
  | none => some stock
  | some value => read value

def small? : Value → Option Small
  | .whole n => if h : n.toNat < 4294967296 ∧ 0 ≤ n then some ⟨n.toNat, h.1⟩ else none
  | _ => none

def text? : Value → Option String
  | .text text => some text
  | _ => none

def texts? : Value → Option (List String)
  | .array items => items.mapM text?
  | _ => none

def paths? (value : Value) : Option (List Path) := (texts? value).map (·.map Path.mk)

def score? : Value → Option (Option Double)
  | .real value => some value
  | .whole n =>
    if -(twoTo 63 : Int) ≤ n ∧ n < twoTo 64 then
      (Double.ofQuotient? (n < 0) n.natAbs 1).map some
    else none
  | _ => none

def choice? : Value → Option String
  | .text name => some name
  | .table [(name, .table [])] => some name
  | .table [(name, .array [])] => some name
  | _ => none

def level? (value : Value) : Option Level :=
  (choice? value).bind fun name => [Level.low, .medium, .high].find? (·.label = name)

def strictness? (value : Value) : Option Strictness :=
  (choice? value).bind fun name => [Strictness.lenient, .standard, .strict].find? (·.label = name)

def execution? (value : Option Value) : Option Execution := do
  let fields ← fields? ["line_length", "sql_dialect", "python_version", "pylint_plugins"] value
  let stock := Execution.stock
  return {
    lineLength := ← field? fields "line_length" stock.lineLength small?
    sqlDialect := ← field? fields "sql_dialect" stock.sqlDialect text?
    pythonVersion := ← field? fields "python_version" stock.pythonVersion (some <$> text? ·)
    pylintPlugins := ← field? fields "pylint_plugins" stock.pylintPlugins texts? }

def complexity? (value : Option Value) : Option Complexity := do
  let fields ← fields? ["max_complexity", "max_arguments"] value
  let stock := Complexity.stock
  return {
    maxComplexity := ← field? fields "max_complexity" stock.maxComplexity (some <$> small? ·)
    maxArguments := ← field? fields "max_arguments" stock.maxArguments (some <$> small? ·) }

def thresholds? (value : Option Value) : Option Thresholds := do
  let fields ← fields?
    ["bandit_level", "bandit_confidence", "pylint_fail_under", "max_warnings"] value
  let stock := Thresholds.stock
  return {
    banditLevel := ← field? fields "bandit_level" stock.banditLevel level?
    banditConfidence := ← field? fields "bandit_confidence" stock.banditConfidence level?
    pylintFailUnder := ← field? fields "pylint_fail_under" stock.pylintFailUnder
      fun v => (score? v).map some
    maxWarnings := ← field? fields "max_warnings" stock.maxWarnings fun v => (small? v).map some }

def typeChecking? (value : Option Value) : Option Strictness := do
  let fields ← fields? ["type_checking"] value
  field? fields "type_checking" Strictness.standard strictness?

def discovery? (value : Option Value) : Option Discovery := do
  let fields ← fields? ["roots", "excludes", "explicit_files"] value
  let stock := Discovery.stock
  return {
    roots := ← field? fields "roots" stock.roots paths?
    excludes := ← field? fields "excludes" stock.excludes paths?
    explicitFiles := ← field? fields "explicit_files" stock.explicitFiles paths? }

def sectionNames : List String :=
  ["execution", "complexity", "severity", "strictness", "file_discovery"]

def read? (source : String) : Option Config := do
  let sections ← (Toml.read? source).filter (othersReadable sectionNames)
  return {
    execution := ← execution? (sections.lookup "execution")
    complexity := ← complexity? (sections.lookup "complexity")
    severity := ← thresholds? (sections.lookup "severity")
    typeChecking := ← typeChecking? (sections.lookup "strictness")
    discovery := ← discovery? (sections.lookup "file_discovery") }

end LintTools.Config
