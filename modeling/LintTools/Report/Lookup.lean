import LintTools.Json.Coerce
import LintTools.Path.Relative

/-! What JSON reports are asked for: texts, numbers and lists under alternative names, and file
paths below the root. -/
namespace LintTools.Report

def text? (item : Json) (names : List String) : Option String :=
  names.findSome? fun name => ((item.get? name).bind (·.text?)).filter (!·.isEmpty)

def number? (item : Json) (names : List String) : Option Int :=
  names.findSome? fun name => (item.get? name).bind (·.toInt?)

def message (item : Json) (names : List String) : String :=
  ((text? item names).map Text.trim).getD ""

def below? (item : Json) (names : List String) : Option Json := Json.present (item.follow? names)

def elements (value : Option Json) : List Json := (value.bind (·.items?)).getD []

def records : Json → List Json
  | .arr items => items
  | .obj entries => [.obj entries]
  | _ => []

def wrapped (names : List String) : Json → List Json
  | .arr items => items
  | .obj entries => elements (names.findSome? (Entries.get? entries))
  | _ => []

def reportedPath (root : Path) (path : Option String) : Option String :=
  (path.filter (!·.isEmpty)).map fun path =>
    match Path.below? ⟨path⟩ root with
    | some relative => relative.text
    | none => path

end LintTools.Report
