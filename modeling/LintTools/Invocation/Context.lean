import LintTools.Config.Basic
import LintTools.Json.Coerce
import LintTools.Path.Resolve

/-! One invocation of a tool: the root it runs in, its settings, the shared configuration and the
files that the caller has selected. -/
namespace LintTools

structure Context where
  root : Path
  settings : Entries
  config : Config
  files : List Path
  surroundings : Surroundings

namespace Context

def settingNamed? (ctx : Context) (name : String) : Option Json :=
  Json.present (ctx.settings.get? name)

def settingSpelled? (ctx : Context) (name : String) : Option Json :=
  (ctx.settingNamed? name).or (ctx.settingNamed? (Text.replaceChar '-' '_' name))

def setting? (ctx : Context) (names : List String) : Option Json :=
  names.findSome? ctx.settingSpelled?

def settingTexts (ctx : Context) (name : String) : List String :=
  ((ctx.setting? [name]).map Json.toTexts).getD []

def anchor (ctx : Context) (path : Path) : Path := ctx.root ++ path

end Context
end LintTools
