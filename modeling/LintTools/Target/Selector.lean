import LintTools.Catalog.Entry
import LintTools.Invocation.Context
import LintTools.Path.Resolver

/-! Targets of a downloaded tool: the caller's files that pass every filter, else a fallback
directory, else the root. -/
namespace LintTools

structure TargetSelector where
  suffixes : List String
  contains : List String
  requirements : List (List String)
  fallbackDirectory : Option String
  defaultToRoot : Bool

namespace TargetSelector

def kindName : String := "filePattern"

def checkKind (entry : Entries) (context : String) : Checked Unit :=
  match entry.get? "type" with
  | none | some .null => .ok ()
  | some (.str raw) =>
    if Text.trim raw = kindName then .ok ()
    else fault context (.unsupported "target selector type" (Text.trim raw))
  | some _ => fault context (.mustBe "'type'" .text)

def read (value : Json) (context : String) : Checked TargetSelector := do
  let entry ← requireObject value context (.mustBe "target selector" .object)
  checkKind entry context
  let suffixes ← strictTexts (entry.get? "suffixes") "suffixes" context
  let contains ← strictTexts (entry.get? "contains") "contains" context
  let required ← strictTexts (entry.get? "pathMustInclude") "pathMustInclude" context
  let fallbackDirectory ← optionalFilled entry "fallbackDirectory" context
  let defaultToRoot ← strictFlag entry "defaultToRoot" false context
  return {
    suffixes, contains, fallbackDirectory, defaultToRoot
    requirements := (required.map Path.requirement).filter (!·.isEmpty) }

def fitsText (selector : TargetSelector) (file : Path) : Bool :=
  let text := file.text.toList
  (selector.suffixes.isEmpty ||
      selector.suffixes.any fun suffix => Text.endsWith suffix.toList text) &&
    (selector.contains.isEmpty ||
      selector.contains.any fun fragment => Text.occursIn fragment.toList text)

variable {m : Type → Type} [Monad m]

def fits (paths : PathLookup m) (selector : TargetSelector) (ctx : Context) (file : Path) :
    m Bool := do
  if selector.fitsText file then paths.meets file ctx.root selector.requirements
  else return false

def fallback? (paths : PathLookup m) (selector : TargetSelector) (ctx : Context)
    (excluded : List Path) : m (Option Path) :=
  match selector.fallbackDirectory with
  | none => return none
  | some text => do
    let directory ← paths.resolve ctx.root text
    if ctx.surroundings.pathExists directory && !directory.isUnderAny excluded then
      return some directory
    else return none

def select (paths : PathLookup m) (selector : TargetSelector) (ctx : Context)
    (excluded : List Path) : m (List String) := do
  let files ← ctx.files.filterM (selector.fits paths ctx)
  if !files.isEmpty then return files.map (·.text)
  match ← selector.fallback? paths ctx excluded with
  | some directory => return [directory.text]
  | none => return if selector.defaultToRoot then [ctx.root.text] else []

end TargetSelector
end LintTools
