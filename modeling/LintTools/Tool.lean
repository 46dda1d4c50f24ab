import LintTools.Strategy

/-! Tools of the catalog: a name, a way to build its command, a way to read its output, and
installers. Each part must name a strategy of its own sort. -/
namespace LintTools

structure Tool where
  name : String
  command : Option CommandStrategy
  parser : Option OutputParser
  installers : List Installer

namespace Tool

def readReference (reference : Json) (context : String) : Checked Strategy := do
  let entry ← requireObject reference context (.mustBe "strategy reference" .object)
  match entry.get? "strategy" with
  | some (.str name) => Strategy.read name ((entry.get? "config").getD (.obj []))
  | _ => fault context (.mustBe "'strategy'" .text)

def readName (entry : Entries) : Checked String :=
  match entry.get? "name" with
  | some (.str name) =>
    if (Text.trim name).isEmpty then fault "tool" (.mustBe "'name'" .filledText) else .ok name
  | _ => fault "tool" (.mustBe "'name'" .filledText)

def readCommand (entry : Entries) (context : String) : Checked (Option CommandStrategy) :=
  match entry.get? "command" with
  | none | some .null => .ok none
  | some reference => do
    match ← readReference reference context with
    | .command strategy => return some strategy
    | _ => fault context .notACommand

def readParser (entry : Entries) (context : String) : Checked (Option OutputParser) :=
  match entry.get? "parser" with
  | none | some .null => .ok none
  | some reference => do
    match ← readReference reference context with
    | .parser parser => return some parser
    | _ => fault context .notAParser

def readInstaller (reference : Json) (context : String) : Checked Installer := do
  match ← readReference reference context with
  | .installer installer => return installer
  | _ => fault context .notAnInstaller

def readInstallersFrom (context : String) : (index : Nat) → List Json → Checked (List Installer)
  | _, [] => .ok []
  | index, reference :: rest => do
    let installer ← readInstaller reference s!"{context}[{index}]"
    return installer :: (← readInstallersFrom context (index + 1) rest)

def readInstallers (entry : Entries) (context : String) : Checked (List Installer) :=
  match entry.get? "installers" with
  | none | some .null => .ok []
  | some (.arr references) => readInstallersFrom context 0 references
  | some _ => fault context (.mustBe "'installers'" .array)

def read (definition : Json) : Checked Tool := do
  let entry ← requireObject definition "tool" (.mustBe "definition" .object)
  let name ← readName entry
  let command ← readCommand entry (name ++ ".command")
  let parser ← readParser entry (name ++ ".parser")
  let installers ← readInstallers entry (name ++ ".installers")
  return { name, command, parser, installers }

def build {m : Type → Type} [Monad m] (paths : PathLookup m) (provider : ArtifactProvider)
    (tool : Tool) (ctx : Context) : m (Except ArtifactError (Option Command)) :=
  match tool.command with
  | none => pure (.ok none)
  | some strategy => do return (← strategy.build paths provider ctx).map some

def parse (tool : Tool) (root : Path) (output : String) : List Diagnostic :=
  match tool.parser with
  | none => []
  | some parser => parser.parse root output

def install (tool : Tool) (provider : ArtifactProvider) (ctx : Context) :
    Except ArtifactError (List Path) :=
  tool.installers.mapM fun installer => installer.install provider ctx

end Tool
end LintTools
