import LintTools.CommandOption.Basic
import LintTools.Path.Resolver

/-! The arguments that an option adds to a command. Only path options look anything up, and each
option renders on its own. -/
namespace LintTools.CommandOption

def value? (option : CommandOption) (ctx : Context) : Option Json :=
  ((ctx.setting? option.settings).or option.stock).or
    (option.defaultFrom.bind (·.value? ctx))

/-- A value behind its flag; a flag that ends in an equals sign forms one argument with it. -/
def flagged (flag : Option String) (value : String) : List String :=
  match flag with
  | none => [value]
  | some flag =>
    if flag.toList.getLast? = some '=' then [flag ++ value] else [flag, value]

def listArguments (option : CommandOption) (value : Json) : List String :=
  let values := value.toTexts
  if values.isEmpty then []
  else match option.joinWith with
    | some separator => flagged option.flag (Text.join separator values)
    | none => values.flatMap (flagged option.flag)

def switchArguments (option : CommandOption) (value : Json) : List String :=
  (if value.flag then option.flag else option.negateFlag).toList

def repeatArguments (option : CommandOption) (value : Json) : List String :=
  let count := value.repeatCount
  if count = 0 then option.negateFlag.toList
  else match option.flag with
    | none => []
    | some flag => List.replicate count flag

variable {m : Type → Type} [Monad m]

def pathArguments (paths : PathLookup m) (option : CommandOption) (ctx : Context) (entry : Json) :
    m (List String) := do
  match entry with
  | .null => return []
  | .str text =>
    if option.literalValues.contains text then return flagged option.flag text
    else return flagged option.flag (← paths.resolve ctx.root text).text
  | other => return flagged option.flag (← paths.resolve ctx.root other.display).text

def pathEntries : Json → List Json
  | .arr items => items
  | other => [other]

def render (paths : PathLookup m) (option : CommandOption) (ctx : Context) (value : Json) :
    m (List String) :=
  match option.kind with
  | .value => pure (flagged option.flag value.display)
  | .path => do
    return (← (pathEntries value).mapM (pathArguments paths option ctx)).flatten
  | .args => pure (option.listArguments value)
  | .flag => pure (option.switchArguments value)
  | .repeatFlag => pure (option.repeatArguments value)

def arguments (paths : PathLookup m) (ctx : Context) (option : CommandOption) :
    m (List String) :=
  match option.value? ctx with
  | none => pure []
  | some value =>
    match option.transform with
    | none => option.render paths ctx value
    | some transform => option.render paths ctx (transform.apply value ctx)

def allArguments (paths : PathLookup m) (ctx : Context) (options : List CommandOption) :
    m (List String) := do
  return (← options.mapM (arguments paths ctx)).flatten

end LintTools.CommandOption
