import LintTools.Artifact
import LintTools.Command.Basic
import LintTools.CommandOption.Arguments
import LintTools.Target.Selector

/-! Commands that run a fetched binary: a start in which a placeholder stands for its path, the
options, and the selected targets. -/
namespace LintTools

structure DownloadedBinary where
  download : Entries
  version : Option String
  placeholder : String
  base : List String
  options : List CommandOption
  selector : Option TargetSelector

namespace DownloadedBinary

def context : String := "command_download_binary"

def stockPlaceholder : String := "$\x7bbinary\x7d"

def readBase (entry : Entries) : Checked (List String) :=
  match entry.get? "base" with
  | none | some .null => .ok []
  | some (.arr parts) => .ok (parts.filterMap Json.display?)
  | some _ => fault context (.mustBe "'base'" .arguments)

def readSelector (entry : Entries) : Checked (Option TargetSelector) :=
  match entry.get? "targets" with
  | none | some .null => .ok none
  | some targets => some <$> TargetSelector.read targets (context ++ ".targets")

def withPlaceholder (placeholder : String) (base : List String) : List String :=
  if base.contains placeholder then base else placeholder :: base

def read (config : Json) : Checked DownloadedBinary := do
  let entry ← requireObject config context (.mustBe "configuration" .object)
  let download ← requireObjectAt entry "download" context
  let placeholder ← filledTextOr stockPlaceholder (.mustBe "'binaryPlaceholder'" .filledText)
    (entry.get? "binaryPlaceholder") context
  let base ← readBase entry
  let selector ← readSelector entry
  let version ← optionalText entry "version" context
  let options ← CommandOption.readAll (entry.get? "options") (context ++ ".options")
  return {
    download, version, placeholder, options, selector
    base := withPlaceholder placeholder base }

def request (binary : DownloadedBinary) (ctx : Context) : ArtifactRequest where
  download := binary.download
  version := binary.version
  cacheRoot := cacheRoot ctx.root
  context := context ++ ".download"

def start (binary : DownloadedBinary) (path : Path) : List String :=
  binary.base.map fun part => if part = binary.placeholder then path.text else part

variable {m : Type → Type} [Monad m]

def targets (paths : PathLookup m) (binary : DownloadedBinary) (ctx : Context) :
    m (List String) :=
  match binary.selector with
  | none => pure []
  | some selector => selector.select paths ctx []

def build (paths : PathLookup m) (provider : ArtifactProvider) (binary : DownloadedBinary)
    (ctx : Context) : m (Except ArtifactError Command) :=
  match provider (binary.request ctx) with
  | .error error => pure (.error error)
  | .ok path => do
    let options ← CommandOption.allArguments paths ctx binary.options
    let targets ← binary.targets paths ctx
    return .ok (binary.start path ++ options ++ targets)

end DownloadedBinary
end LintTools
