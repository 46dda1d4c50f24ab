import LintTools.Catalog.Entry
import LintTools.Invocation.Context
import LintTools.Text.Quoted

/-! Binaries that have to be fetched before a tool can run. Who fetches them is left open: a
provider answers a request with a path or says why it cannot. -/
namespace LintTools

structure ArtifactRequest where
  download : Entries
  version : Option String
  cacheRoot : Path
  context : String

inductive ArtifactError where
  | unavailable (context reason : String)
  | missing (context : String) (path : Path)

abbrev ArtifactProvider := ArtifactRequest → Except ArtifactError Path

namespace ArtifactError

def message : ArtifactError → String
  | unavailable context reason => s!"{context}: artifact not available: {reason}"
  | missing context path => s!"{context}: artifact '{path.text}' does not exist"

end ArtifactError

namespace ArtifactProvider

def unavailable : ArtifactProvider := fun request =>
  .error (.unavailable request.context "no artifact provider configured")

def installed (s : Surroundings) (path : Path) : ArtifactProvider := fun request =>
  if s.pathExists path then .ok path else .error (.missing request.context path)

end ArtifactProvider

def cacheRoot (root : Path) : Path := root ++ ⟨".lint-cache"⟩

structure Installer where
  download : Entries
  version : Option String
  label : String

namespace Installer

def context : String := "install_download_artifact"

def stockLabel : String := "install_download_artifact.download"

def read (config : Json) : Checked Installer := do
  let entry ← requireObject config context (.mustBe "configuration" .object)
  let download ← requireObjectAt entry "download" context
  let version ← optionalText entry "version" context
  let label ← optionalFilled entry "contextLabel" context
  return { download, version, label := label.getD stockLabel }

def install (installer : Installer) (provider : ArtifactProvider) (ctx : Context) :
    Except ArtifactError Path :=
  provider {
    download := installer.download
    version := installer.version
    cacheRoot := cacheRoot ctx.root
    context := installer.label }

end Installer
end LintTools
