import LintTools.CommandLine.Request
import LintTools.Config.Reader
import LintTools.Tool

/-! One run of the program over any way to read files: what it prints, or why it fails. Definitions
come first, then settings, configuration and the binary. -/
namespace LintTools.CommandLine

inductive Failure where
  | catalog (fault : Fault)
  | artifact (error : ArtifactError)
  | config
  | json
  | io
  | missingStrategy (tool role : String)

namespace Failure

def kind : Failure → String
  | catalog _ => "CatalogIntegrity"
  | artifact _ => "Artifact"
  | config => "Config"
  | json => "Json"
  | io => "IO"
  | missingStrategy _ _ => "MissingStrategy"

private def quoted (text : String) : String := String.ofList (Text.quoted text.toList)

private def braced (name : String) (fields : List (String × String)) : String :=
  name ++ " \x7b " ++ Text.join ", " (fields.map fun (field, value) => field ++ ": " ++ value) ++
    " \x7d"

def detail? : Failure → Option String
  | catalog fault =>
    some ("CatalogIntegrity(" ++ braced "CatalogIntegrityError"
      [("context", quoted fault.context), ("reason", quoted fault.reason.wording)] ++ ")")
  | artifact (.unavailable context reason) =>
    some ("Artifact(" ++ braced "Unavailable"
      [("context", quoted context), ("reason", quoted reason)] ++ ")")
  | artifact (.missing context path) =>
    some ("Artifact(" ++ braced "Missing"
      [("context", quoted context), ("path", quoted path.text)] ++ ")")
  | missingStrategy tool role =>
    some (braced "MissingStrategy" [("tool", quoted tool), ("role", quoted role)])
  | _ => none

def text (failure : Failure) : String := failure.detail?.getD failure.kind

end Failure

structure Machine (m : Type → Type) where
  content : Path → m (Option String)
  input : m (Option String)
  home : m (Option Path)
  currentDirectory : m Path
  existing : List Path → m (List Path)

def probes (s : Surroundings) (root : Path) (command : Option CommandStrategy) : List Path :=
  match command with
  | some (.projectScanner scanner) =>
    (scanner.plan.toList.flatMap (·.fallback)).map (Path.resolve s root)
  | some (.downloadedBinary binary) =>
    (binary.selector.bind (·.fallbackDirectory)).toList.map (Path.resolve s root)
  | _ => []

def outputLine (text : String) : String := if text.isEmpty then "" else text ++ "\n"

def stockCapacity : Nat := 1024

variable {m : Type → Type} [Monad m]

def contentOf (machine : Machine m) (path : Path) (missing : Failure) :
    ExceptT Failure m String := do
  match ← machine.content path with
  | some text => return text
  | none => throw missing

def loadTool (machine : Machine m) (path : Path) : ExceptT Failure m Tool := do
  match Json.parse? (← contentOf machine path .io) with
  | none => throw .json
  | some definition =>
    match Tool.read definition with
    | .ok tool => return tool
    | .error fault => throw (.catalog fault)

def loadSettings (machine : Machine m) : Option Path → ExceptT Failure m Entries
  | none => return []
  | some path => do
    match Json.parse? (← contentOf machine path .io) with
    | some (.obj settings) => return settings
    | _ => throw .json

def loadConfig (machine : Machine m) : Option Path → ExceptT Failure m Config
  | none => return Config.stock
  | some path => do
    match Config.read? (← contentOf machine path .config) with
    | some config => return config
    | none => throw .config

def surroundings (machine : Machine m) (asked : Surroundings → List Path) : m Surroundings := do
  let bare : Surroundings := ⟨← machine.home, ← machine.currentDirectory, fun _ => false⟩
  let found ← machine.existing (asked bare)
  return { bare with pathExists := found.contains }

def commandText (style : OutputStyle) (command : Command) : String :=
  match style with
  | .json => command.json.text
  | .raw => command.display

def diagnosticsText (style : OutputStyle) (diagnostics : List Diagnostic) : String :=
  match style with
  | .json => (Json.arr (diagnostics.map (·.json))).text
  | .raw => Text.join "\n" (diagnostics.map (·.summary))

def BuildRequest.run (machine : Machine m) (request : BuildRequest) :
    ExceptT Failure m String := do
  let tool ← loadTool machine request.definition
  let settings ← loadSettings machine request.settings
  let config ← loadConfig machine request.config
  let asked := fun s => probes s request.root tool.command ++ request.binary.toList
  let seen ← liftM (surroundings machine asked)
  let provider := match request.binary with
    | some path => ArtifactProvider.installed seen path
    | none => ArtifactProvider.unavailable
  let ctx : Context := ⟨request.root, settings, config, request.files, seen⟩
  match ((tool.build (Resolver.lookup seen) provider ctx).run (Resolver.fresh stockCapacity)).1 with
  | .ok (some command) => return outputLine (commandText request.style command)
  | .ok none => throw (.missingStrategy tool.name "command")
  | .error error => throw (.artifact error)

def ParseRequest.run (machine : Machine m) (request : ParseRequest) :
    ExceptT Failure m String := do
  let tool ← loadTool machine request.definition
  match tool.parser with
  | none => throw (.missingStrategy tool.name "parser")
  | some parser =>
    let output ← match request.input with
      | some path => contentOf machine path .io
      | none => do
        match ← machine.input with
        | some text => pure text
        | none => throw .io
    return outputLine (diagnosticsText request.style (parser.parse request.root output))

def Request.run (machine : Machine m) : Request → ExceptT Failure m String
  | .build request => request.run machine
  | .parse request => request.run machine

end LintTools.CommandLine
