import LintTools.Command.Basic
import LintTools.CommandOption.Arguments

/-! Commands that are a fixed start, the mapped options, and the caller's files. -/
namespace LintTools

structure OptionMap where
  base : List String
  options : List CommandOption
  appendFiles : Bool

namespace OptionMap

def context : String := "command_option_map"

def read (config : Json) : Checked OptionMap := do
  let entry ← requireObject config context (.mustBe "configuration" .object)
  let base ← requireArguments entry "base" context
  let options ← CommandOption.readAll (entry.get? "options") (context ++ ".options")
  return { base, options, appendFiles := lenientFlag entry "appendFiles" true }

def files (map : OptionMap) (ctx : Context) : List String :=
  if map.appendFiles then ctx.files.map (·.text) else []

def build {m : Type → Type} [Monad m] (paths : PathLookup m) (map : OptionMap) (ctx : Context) :
    m Command := do
  return map.base ++ (← CommandOption.allArguments paths ctx map.options) ++ map.files ctx

end OptionMap
end LintTools
