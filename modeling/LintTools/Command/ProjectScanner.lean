import LintTools.Command.Basic
import LintTools.CommandOption.Arguments
import LintTools.Target.Plan

/-! Commands that scan a project: a fixed start, what to leave out, the options, and the targets,
none of which lies under a path that is left out. -/
namespace LintTools

structure ProjectScanner where
  base : List String
  options : List CommandOption
  excludeSettings : List String
  includeDiscovery : Bool
  excludeFlag : Option String
  separator : String
  plan : Option TargetPlan

namespace ProjectScanner

def context : String := "command_project_scanner"

def readExclude (entry : Entries) : Checked Entries :=
  match entry.get? "exclude" with
  | none | some .null => .ok []
  | some (.obj exclude) => .ok exclude
  | some _ => fault context (.mustBeWhenProvided "'exclude'" .object)

def readPlan (entry : Entries) : Checked (Option TargetPlan) :=
  match entry.get? "targets" with
  | none | some .null => .ok none
  | some targets => some <$> TargetPlan.read targets (context ++ ".targets")

def read (config : Json) : Checked ProjectScanner := do
  let entry ← requireObject config context (.mustBe "configuration" .object)
  let base ← requireArguments entry "base" context
  let options ← CommandOption.readAll (entry.get? "options") (context ++ ".options")
  let exclude ← readExclude entry
  let excludeFlag ← optionalTextOr (.mustBeWhenProvided "exclude.flag" .text)
    (exclude.get? "flag") context
  let separator ← filledTextOr "," (.mustBe "exclude.separator" .filledText)
    (exclude.get? "separator") context
  let plan ← readPlan entry
  let excludeSettings ← looseTexts (exclude.get? "settings") context
    (.mustBe "exclude.settings" .textList)
  return {
    base, options, excludeSettings, excludeFlag, separator, plan
    includeDiscovery := lenientFlag exclude "includeDiscovery" false }

def excludeNames (root path : Path) : List String :=
  path.normal.text :: match path.normal.below? root.normal with
    | none => []
    | some below => [if below.text.isEmpty then "." else below.text]

def excludeArguments (excluded : List Path) (root : Path) : List String :=
  sortedTexts (excluded.flatMap (excludeNames root))

def exclusion (scanner : ProjectScanner) (ctx : Context) (excluded : List Path) : List String :=
  match scanner.excludeFlag with
  | none => []
  | some flag =>
    let names := excludeArguments excluded ctx.root
    if names.isEmpty then [] else [flag, Text.join scanner.separator names]

variable {m : Type → Type} [Monad m]

def excluded (paths : PathLookup m) (scanner : ProjectScanner) (ctx : Context) :
    m (List Path) := do
  let named ← (scanner.excludeSettings.flatMap ctx.settingTexts).mapM (paths.resolve ctx.root)
  let found := if scanner.includeDiscovery then ctx.config.discovery.excludes.map ctx.anchor else []
  return Path.addAll (Path.distinct named) found

def targets (paths : PathLookup m) (scanner : ProjectScanner) (ctx : Context)
    (excluded : List Path) : m (List String) :=
  match scanner.plan with
  | none => pure []
  | some plan => plan.targets paths ctx excluded

def build (paths : PathLookup m) (scanner : ProjectScanner) (ctx : Context) : m Command := do
  let excluded ← scanner.excluded paths ctx
  let options ← CommandOption.allArguments paths ctx scanner.options
  let targets ← scanner.targets paths ctx excluded
  return scanner.base ++ scanner.exclusion ctx excluded ++ options ++ targets

end ProjectScanner
end LintTools
