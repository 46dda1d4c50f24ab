import LintTools.Catalog.Entry
import LintTools.Invocation.Context
import LintTools.Path.Resolver

/-! Targets of a project scanner, from the first source that has any: files of the caller, settings
and discovery, the first usable fallback, and the root. They come out in path order, each once. -/
namespace LintTools

structure TargetPlan where
  settings : List String
  includeRoots : Bool
  includeExplicit : Bool
  fallback : List String
  defaultToRoot : Bool
  filterExcluded : Bool
  leader : Option String

namespace TargetPlan

def read (value : Json) (context : String) : Checked TargetPlan := do
  let entry ← requireObject value context (.mustBe "" .object)
  let leader ← optionalTextOr (.mustBeWhenProvided "prefix" .text) (entry.get? "prefix") context
  let settings ← looseTexts (entry.get? "settings") context (.mustBe "settings" .textList)
  let fallback ← looseTexts (entry.get? "fallback") context (.mustBe "fallback" .textList)
  return {
    settings, fallback, leader
    includeRoots := lenientFlag entry "includeDiscoveryRoots" false
    includeExplicit := lenientFlag entry "includeDiscoveryExplicit" false
    defaultToRoot := lenientFlag entry "defaultToRoot" false
    filterExcluded := lenientFlag entry "filterExcluded" true }

def isExcluded (plan : TargetPlan) (excluded : List Path) (candidate : Path) : Bool :=
  plan.filterExcluded && candidate.isUnderAny excluded

def callerFiles (plan : TargetPlan) (ctx : Context) (excluded : List Path) : List Path :=
  Path.distinct (ctx.files.filter fun file => !plan.isExcluded excluded (ctx.anchor file))

def discoveredRoots (plan : TargetPlan) (ctx : Context) (excluded : List Path) : List Path :=
  if plan.includeRoots then
    (ctx.config.discovery.roots.map fun directory => (ctx.anchor directory).normal).filter
      fun directory =>
        directory.components != ctx.root.normalComponents && !plan.isExcluded excluded directory
  else []

def explicitDirectories (plan : TargetPlan) (ctx : Context) (excluded : List Path) : List Path :=
  if plan.includeExplicit then
    let directories := ctx.config.discovery.explicitFiles.filterMap fun file =>
      (ctx.anchor file).normal.parent?
    directories.filter fun directory => !plan.isExcluded excluded directory
  else []

variable {m : Type → Type} [Monad m]

def configured (paths : PathLookup m) (plan : TargetPlan) (ctx : Context)
    (excluded : List Path) : m (List Path) := do
  let named ← (plan.settings.flatMap ctx.settingTexts).mapM (paths.resolve ctx.root)
  let named := Path.distinct (named.filter fun path => !plan.isExcluded excluded path)
  return Path.addAll (Path.addAll named (plan.discoveredRoots ctx excluded))
    (plan.explicitDirectories ctx excluded)

/-- The first of the fallbacks that exists and is not excluded; a single dot always exists. -/
def firstFallback? (paths : PathLookup m) (plan : TargetPlan) (ctx : Context)
    (excluded : List Path) : List String → m (Option Path)
  | [] => return none
  | text :: rest => do
    let candidate ← paths.resolve ctx.root text
    if (text == "." || ctx.surroundings.pathExists candidate) &&
        !plan.isExcluded excluded candidate then return some candidate
    else firstFallback? paths plan ctx excluded rest

def ownTargets (paths : PathLookup m) (plan : TargetPlan) (ctx : Context)
    (excluded : List Path) : m (List Path) := do
  let configured ← plan.configured paths ctx excluded
  if !configured.isEmpty then return configured
  match ← plan.firstFallback? paths ctx excluded plan.fallback with
  | some fallback => return [fallback]
  | none =>
    if plan.defaultToRoot && !plan.isExcluded excluded ctx.root then return [ctx.root.normal]
    else return []

def led (plan : TargetPlan) (targets : List Path) : List String :=
  targets.flatMap fun target => plan.leader.toList ++ [target.text]

def targets (paths : PathLookup m) (plan : TargetPlan) (ctx : Context) (excluded : List Path) :
    m (List String) := do
  let files := plan.callerFiles ctx excluded
  if !files.isEmpty then return files.map (·.text)
  return plan.led (← plan.ownTargets paths ctx excluded)

end TargetPlan
end LintTools
