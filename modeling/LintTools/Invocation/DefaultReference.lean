import LintTools.Invocation.PythonVersion

/-! References to default values: fields of the shared configuration, values worked out for the run,
and other settings of the same tool. An unknown reference has no value. -/
namespace LintTools

inductive StaticDefault where
  | lineLength | sqlDialect | maxComplexity | maxArguments | banditLevel | banditConfidence
  | pylintFailUnder | maxWarnings | typeChecking | toolRoot
  deriving DecidableEq

inductive DynamicDefault where
  | targetVersion | targetVersionTag | targetVersionNumber | pylintPlugins
  deriving DecidableEq

inductive DefaultReference where
  | fixed (source : StaticDefault)
  | computed (source : DynamicDefault)
  | toolSetting (name : String)
  | unknown (token : String)
  deriving DecidableEq

namespace StaticDefault

def all : List StaticDefault :=
  [lineLength, sqlDialect, maxComplexity, maxArguments, banditLevel, banditConfidence,
    pylintFailUnder, maxWarnings, typeChecking, toolRoot]

def token : StaticDefault → String
  | lineLength => "execution.line_length"
  | sqlDialect => "execution.sql_dialect"
  | maxComplexity => "complexity.max_complexity"
  | maxArguments => "complexity.max_arguments"
  | banditLevel => "severity.bandit_level"
  | banditConfidence => "severity.bandit_confidence"
  | pylintFailUnder => "severity.pylint_fail_under"
  | maxWarnings => "severity.max_warnings"
  | typeChecking => "strictness.type_checking"
  | toolRoot => "tool.root"

def value? (source : StaticDefault) (ctx : Context) : Option Json :=
  let config := ctx.config
  match source with
  | lineLength => some (.small config.execution.lineLength)
  | sqlDialect => some (.str config.execution.sqlDialect)
  | maxComplexity => config.complexity.maxComplexity.map .small
  | maxArguments => config.complexity.maxArguments.map .small
  | banditLevel => some (.str config.severity.banditLevel.label)
  | banditConfidence => some (.str config.severity.banditConfidence.label)
  | pylintFailUnder => config.severity.pylintFailUnder.map .real
  | maxWarnings => config.severity.maxWarnings.map .small
  | typeChecking => some (.str config.typeChecking.label)
  | toolRoot => some (.str ctx.root.text)

end StaticDefault

def insertText (text : String) : List String → List String
  | [] => [text]
  | other :: rest =>
    match compare text other with
    | .lt => text :: other :: rest
    | .eq => other :: rest
    | .gt => other :: insertText text rest

def sortedTexts (texts : List String) : List String :=
  texts.foldl (fun sorted text => insertText text sorted) []

namespace DynamicDefault

def all : List DynamicDefault :=
  [targetVersion, targetVersionTag, targetVersionNumber, pylintPlugins]

def token : DynamicDefault → String
  | targetVersion => "python.target_version"
  | targetVersionTag => "python.target_version_tag"
  | targetVersionNumber => "python.target_version_number"
  | pylintPlugins => "python.discover_pylint_plugins"

def plugins? (ctx : Context) : Option Json :=
  let plugins := sortedTexts
    ((ctx.config.execution.pylintPlugins.map Text.trim).filter (!·.isEmpty))
  if plugins.isEmpty then none else some (.texts plugins)

def value? (source : DynamicDefault) (ctx : Context) : Option Json :=
  match source with
  | targetVersion => some (.str (PythonVersion.target ctx).number)
  | targetVersionTag => some (.str (PythonVersion.target ctx).tag)
  | targetVersionNumber => some (.str (PythonVersion.target ctx).number)
  | pylintPlugins => plugins? ctx

end DynamicDefault

namespace DefaultReference

def read (token : String) : DefaultReference :=
  match StaticDefault.all.find? (·.token = token) with
  | some source => fixed source
  | none =>
    match DynamicDefault.all.find? (·.token = token) with
    | some source => computed source
    | none =>
      match Text.after? "tool_setting.".toList token.toList with
      | some name => toolSetting (String.ofList name)
      | none => unknown token

def value? (reference : DefaultReference) (ctx : Context) : Option Json :=
  match reference with
  | fixed source => source.value? ctx
  | computed source => source.value? ctx
  | toolSetting name => ctx.setting? [name]
  | unknown _ => none

end DefaultReference
end LintTools
