import LintTools.Catalog.Entry
import LintTools.Invocation.DefaultReference
import LintTools.Invocation.Transform

/-! Command-line options of a tool, one entry each: the settings it reads, how its value is
rendered, and where a value comes from when no setting gives one. -/
namespace LintTools

inductive CommandOption.Kind where
  | value
  | path
  | args
  | flag
  | repeatFlag
  deriving DecidableEq

structure CommandOption where
  settings : List String
  kind : CommandOption.Kind
  flag : Option String
  joinWith : Option String
  negateFlag : Option String
  literalValues : List String
  stock : Option Json
  defaultFrom : Option DefaultReference
  transform : Option Transform

namespace CommandOption

def Kind.all : List Kind := [.value, .path, .args, .flag, .repeatFlag]

def Kind.name : Kind → String
  | value => "value"
  | path => "path"
  | args => "args"
  | flag => "flag"
  | repeatFlag => "repeatflag"

def readSettings (entry : Entries) (context : String) : Checked (List String) :=
  match entry.get? "setting" with
  | some (.str name) => .ok [name]
  | some (.arr names) =>
    let names := names.filterMap Json.display?
    if names.isEmpty then fault context .noSettingName else .ok names
  | _ => fault context (.mustBe "'setting'" .textOrTexts)

def readKind (entry : Entries) (context : String) : Checked Kind :=
  match entry.get? "type" with
  | none | some .null => .ok .value
  | some (.str raw) =>
    match Kind.all.find? (·.name = Text.asciiLowerText (Text.trim raw)) with
    | some kind => .ok kind
    | none => fault context (.unsupported "option type" raw)
  | some _ => fault context (.mustBe "'type'" .text)

def readLiterals (entry : Entries) (context : String) : Checked (List String) :=
  match entry.get? "literalValues" with
  | none | some .null => .ok []
  | some (.str value) => .ok [value]
  | some (.arr values) => .ok (values.filterMap Json.display?)
  | some _ => fault context (.mustBe "'literalValues'" .textOrTexts)

def readTransform (entry : Entries) (context : String) : Checked (Option Transform) :=
  match entry.get? "transform" with
  | none | some .null => .ok none
  | some (.str raw) =>
    match Transform.named? (Text.trim raw) with
    | some transform => .ok (some transform)
    | none => fault context (.unsupported "transform" raw)
  | some _ => fault context (.mustBeWhenProvided "'transform'" .text)

def read (value : Json) (context : String) : Checked CommandOption := do
  let entry ← requireObject value context (.mustBe "option" .object)
  let settings ← readSettings entry context
  let kind ← readKind entry context
  let flag ← optionalTrimmed entry "flag" context
  let joinWith ← optionalTrimmed entry "joinWith" context
  let negateFlag ← optionalTrimmed entry "negateFlag" context
  let literalValues ← readLiterals entry context
  let defaultFrom ← optionalTrimmed entry "defaultFrom" context
  let transform ← readTransform entry context
  if kind = .repeatFlag ∧ flag = none then fault context .flagMissing
  else return {
    settings, kind, flag, joinWith, negateFlag, literalValues, transform
    stock := Json.present (entry.get? "default")
    defaultFrom := defaultFrom.map DefaultReference.read }

def readFrom (context : String) : (index : Nat) → List Json → Checked (List CommandOption)
  | _, [] => .ok []
  | index, value :: rest => do
    let option ← read value s!"{context}[{index}]"
    return option :: (← readFrom context (index + 1) rest)

def readAll (value : Option Json) (context : String) : Checked (List CommandOption) :=
  match value with
  | none | some .null => .ok []
  | some (.arr entries) => readFrom context 0 entries
  | some _ => fault context (.mustBe "'options'" .objects)

end CommandOption
end LintTools
