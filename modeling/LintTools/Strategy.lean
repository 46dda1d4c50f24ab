import LintTools.Artifact
import LintTools.Command.DownloadedBinary
import LintTools.Command.OptionMap
import LintTools.Command.ProjectScanner
import LintTools.Diagnostic.Extractor
import LintTools.Report.JsonReport
import LintTools.Report.TextReport

/-! Strategies that a catalog may name: ways to build a command, to read the output of a tool, and
to install one. Each name has one reader for its configuration. -/
namespace LintTools

inductive CommandStrategy where
  | optionMap (map : OptionMap)
  | projectScanner (scanner : ProjectScanner)
  | downloadedBinary (binary : DownloadedBinary)

def CommandStrategy.build {m : Type → Type} [Monad m] (paths : PathLookup m)
    (provider : ArtifactProvider) (strategy : CommandStrategy) (ctx : Context) :
    m (Except ArtifactError Command) :=
  match strategy with
  | .optionMap map => do return .ok (← map.build paths ctx)
  | .projectScanner scanner => do return .ok (← scanner.build paths ctx)
  | .downloadedBinary binary => binary.build paths provider ctx

inductive OutputParser where
  | extractor (rules : Extractor)
  | json (report : JsonReport)
  | text (report : TextReport)

namespace OutputParser

def findings (parser : OutputParser) (root : Path) (output : String) : List Diagnostic :=
  match parser with
  | extractor rules => rules.parse output
  | json report => report.diagnostics root (Payload.load .document output.toList)
  | text report => report.diagnostics output

def parse (parser : OutputParser) (root : Path) (output : String) : List Diagnostic :=
  (parser.findings root output).filter (!·.message.isEmpty)

end OutputParser

inductive Strategy where
  | command (strategy : CommandStrategy)
  | parser (parser : OutputParser)
  | installer (installer : Installer)

namespace Strategy

def readReport {α : Type} (named? : String → Option α) (context : String) (config : Json) :
    Checked α := do
  let entry ← requireObject config context (.mustBe "configuration" .object)
  match entry.get? "transform" with
  | some (.str raw) =>
    match named? (Text.trim raw) with
    | some report => return report
    | none => fault (context ++ ".transform") (.unknown "transform" (Text.trim raw))
  | _ => fault context (.expected "transform" .text)

def registry : List (String × (Json → Checked Strategy)) := [
  ("command_download_binary",
    fun config => (command ∘ .downloadedBinary) <$> DownloadedBinary.read config),
  ("command_option_map", fun config => (command ∘ .optionMap) <$> OptionMap.read config),
  ("command_project_scanner",
    fun config => (command ∘ .projectScanner) <$> ProjectScanner.read config),
  ("install_download_artifact", fun config => installer <$> Installer.read config),
  ("json_parser",
    fun config => (parser ∘ .json) <$> readReport JsonReport.named? "json_parser" config),
  ("parser_json_diagnostics", fun config => (parser ∘ .extractor) <$> Extractor.read config),
  ("text_parser",
    fun config => (parser ∘ .text) <$> readReport TextReport.named? "text_parser" config)]

def names : List String := registry.map (·.1)

def read (name : String) (config : Json) : Checked Strategy :=
  match registry.lookup name with
  | some reader => reader config
  | none => fault "strategy" (.unknown "strategy" name)

end Strategy
end LintTools
