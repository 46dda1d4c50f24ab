import LintTools.Diagnostic.Basic
import LintTools.Report.Lookup
import LintTools.Report.Severity
import LintTools.Text.Run

/-! Built-in readings of the JSON reports of known tools. Every report is a list of records, each
turned into diagnostics on its own; what has another shape gives none. -/
namespace LintTools

inductive JsonReport where
  | ruff | pylint | pyright | mypy | selene | eslint | stylelint | actionlint | hadolint | bandit
  | sqlfluff | golangciLint | cargoClippy | kubeLinter | dockerfilelint
  deriving DecidableEq

namespace JsonReport
open Report

def all : List JsonReport :=
  [ruff, pylint, pyright, mypy, selene, eslint, stylelint, actionlint, hadolint, bandit, sqlfluff,
    golangciLint, cargoClippy, kubeLinter, dockerfilelint]

def name : JsonReport → String
  | ruff => "ruff"
  | pylint => "pylint"
  | pyright => "pyright"
  | mypy => "mypy"
  | selene => "selene"
  | eslint => "eslint"
  | stylelint => "stylelint"
  | actionlint => "actionlint"
  | hadolint => "hadolint"
  | bandit => "bandit"
  | sqlfluff => "sqlfluff"
  | golangciLint => "golangci_lint"
  | cargoClippy => "cargo_clippy"
  | kubeLinter => "kube_linter"
  | dockerfilelint => "dockerfilelint"

def named? (text : String) : Option JsonReport := all.find? (·.name = text)

def severityAt (item : Json) (names : List String) (known : List (String × Severity))
    (other absent : Severity) : Option String :=
  some (match text? item names with
    | some label => Severity.ofLabel known other label
    | none => absent).label

def ruffItem (root : Path) (item : Json) : Diagnostic :=
  let code := text? item ["code"]
  { file := reportedPath root (text? item ["filename", "file"])
    line := (below? item ["location", "row"]).bind (·.toInt?)
    column := (below? item ["location", "column"]).bind (·.toInt?)
    severity := some (Severity.ofCode code .warning).label
    code
    tool := some "ruff"
    message := message item ["message"] }

/-- The header of a report of repeated code, with the places of the copies behind it. Copies are
listed on lines of their own behind two equals signs. -/
def foldCopies (text : String) : String :=
  match Text.filledLines text.toList with
  | [] => ""
  | header :: lines =>
    let copies := ((lines.filterMap (Text.after? ['=', '='])).map Text.strip).filter (!·.isEmpty)
    if copies.isEmpty then String.ofList header
    else String.ofList header ++ " (" ++ Text.join "; " (copies.map String.ofList) ++ ")"

def pylintItem (root : Path) (item : Json) : Diagnostic :=
  let code := ((text? item ["symbol"]).map (Text.replaceChar '_' '-')).or
    (text? item ["message-id"])
  let text := message item ["message"]
  { file := reportedPath root (text? item ["path", "filename"])
    line := number? item ["line"]
    column := number? item ["column"]
    severity := severityAt item ["type"]
      [("fatal", .error), ("error", .error), ("convention", .notice), ("refactor", .notice),
        ("info", .note)] .warning .warning
    code
    tool := some "pylint"
    message := if code = some "duplicate-code" then foldCopies text else text }

def pyrightItem (root : Path) (item : Json) : Diagnostic :=
  { file := reportedPath root (text? item ["file", "path"])
    line := (below? item ["range", "start", "line"]).bind (·.toInt?)
    column := (below? item ["range", "start", "character"]).bind (·.toInt?)
    severity := severityAt item ["severity"]
      [("error", .error), ("information", .notice), ("hint", .note)] .warning .warning
    code := text? item ["rule"]
    tool := some "pyright"
    message := message item ["message"] }

def lastName? (name : String) : Option String :=
  ((Text.pieces '.' name.toList).getLast?.filter (!·.isEmpty)).map String.ofList

def mypyItem (root : Path) (item : Json) : Diagnostic :=
  { file := reportedPath root (text? item ["path", "file"])
    line := number? item ["line"]
    column := number? item ["column"]
    severity := severityAt item ["severity"] [("error", .error), ("note", .note)] .warning .error
    code := text? item ["code", "error_code"]
    tool := some "mypy"
    function := (text? item ["function", "name", "target", "symbol"]).bind lastName?
    message := message item ["message"] }

/-- A position counted from one, from one counted from zero. Behind the largest signed number the
count goes on with the smallest one. -/
def oneBased? (value : Option Json) : Option Int :=
  match value with
  | some (.num (.whole n _)) => if Text.isSigned n then some (Text.wrapSigned (n + 1)) else none
  | _ => none

def seleneExtras (record : Json) : List String :=
  let notes := (elements (record.get? "notes")).filterMap (·.text?)
  let labels := (elements (record.get? "secondary_labels")).filterMap fun label =>
    (label.get? "message").bind (·.text?)
  ((notes ++ labels).map Text.trim).filter (!·.isEmpty)

def seleneItem (root : Path) (record : Json) : Diagnostic :=
  let primary := record.get? "primary_label"
  let span := primary.bind (·.get? "span")
  let extras := seleneExtras record
  let text := message record ["message"]
  { file := reportedPath root (primary.bind fun primary => text? primary ["filename"])
    line := oneBased? (span.bind (·.get? "start_line"))
    column := oneBased? (span.bind (·.get? "start_column"))
    severity := severityAt record ["severity"]
      [("error", .error), ("note", .note), ("help", .note), ("info", .notice)] .warning .warning
    code := text? record ["code"]
    tool := some "selene"
    message :=
      if extras.isEmpty || text.isEmpty then text
      else text ++ " (" ++ Text.join "; " extras ++ ")" }

def eslintSeverity (item : Json) : Severity :=
  match (number? item ["severity"]).getD 1 with
  | 2 => .error
  | 1 => .warning
  | _ => .notice

def eslintFile (file : Json) : List Diagnostic :=
  (elements (file.get? "messages")).map fun item =>
    { file := text? file ["filePath", "filename"]
      line := number? item ["line"]
      column := number? item ["column"]
      severity := some (eslintSeverity item).label
      code := text? item ["ruleId"]
      tool := some "eslint"
      message := message item ["message"] }

def stylelintFile (file : Json) : List Diagnostic :=
  (elements (file.get? "warnings")).map fun item =>
    { file := text? file ["source", "file"]
      line := number? item ["line"]
      column := number? item ["column"]
      severity := severityAt item ["severity"] [("error", .error)] .warning .warning
      code := text? item ["rule"]
      tool := some "stylelint"
      message := message item ["text"] }

def actionlintItem (item : Json) : Diagnostic :=
  { file := text? item ["path"]
    line := number? item ["line"]
    column := number? item ["column"]
    severity := severityAt item ["severity"] [("error", .error), ("note", .note)] .warning .error
    code := text? item ["kind"]
    tool := some "actionlint"
    message := message item ["message"] }

def hadolintItem (item : Json) : Diagnostic :=
  { file := text? item ["file"]
    line := number? item ["line"]
    column := number? item ["column"]
    severity := severityAt item ["level"]
      [("error", .error), ("info", .notice), ("style", .note)] .warning .warning
    code := text? item ["code"]
    tool := some "hadolint"
    message := message item ["message"] }

def banditSeverity (label : Option String) : Severity :=
  match label.map fun label => label.toList.map Text.capital with
  | some ['H', 'I', 'G', 'H'] => .error
  | some ['L', 'O', 'W'] => .notice
  | _ => .warning

def banditItem (item : Json) : Diagnostic :=
  { file := text? item ["filename"]
    line := number? item ["line_number"]
    severity := some (banditSeverity (text? item ["issue_severity"])).label
    code := text? item ["test_id"]
    tool := some "bandit"
    message := message item ["issue_text"] }

def sqlfluffFile (file : Json) : List Diagnostic :=
  (elements (file.get? "violations")).map fun item =>
    { file := text? file ["filepath"]
      line := number? item ["line_no"]
      column := number? item ["line_pos"]
      severity := severityAt item ["severity"]
        [("warn", .warning), ("warning", .warning), ("info", .notice)] .error .error
      code := text? item ["code"]
      tool := some "sqlfluff"
      message := message item ["description"] }

def golangciPosition (issue : Json) : Json :=
  (((issue.get? "Pos").or (issue.get? "position")).filter (·.isObject)).getD issue

def golangciItem (issue : Json) : Diagnostic :=
  let position := golangciPosition issue
  { file := (text? position ["Filename", "filename"]).or (text? issue ["file"])
    line := number? position ["Line", "line"]
    column := number? position ["Column", "column"]
    severity := severityAt issue ["Severity", "severity"]
      [("error", .error), ("info", .notice)] .warning .warning
    code := text? issue ["Code", "code"]
    tool := some ((text? issue ["FromLinter", "source"]).getD "golangci-lint")
    message := message issue ["Text", "text"] }

def clippySpan? (item : Json) : Option Json :=
  let spans := elements (item.get? "spans")
  (spans.find? fun span =>
    match span.get? "is_primary" with
    | some (.bool primary) => primary
    | _ => false).or spans.head?

def clippyItem (item : Json) : Diagnostic :=
  let span := clippySpan? item
  { file := span.bind fun span => text? span ["file_name"]
    line := span.bind fun span => number? span ["line_start"]
    column := span.bind fun span => number? span ["column_start"]
    severity := severityAt item ["level"]
      [("error", .error), ("note", .note), ("help", .note)] .warning .warning
    code := (below? item ["code", "code"]).bind (·.text?)
    tool := some "cargo-clippy"
    message := message item ["message"] }

def clippyMessage? (record : Json) : Option Json :=
  if text? record ["reason"] = some "compiler-message" then
    (record.get? "message").filter (·.isObject)
  else none

def kubeItem (report : Json) : Diagnostic :=
  { file := ((below? report ["Object", "Metadata", "FilePath"]).or
        (below? report ["Object", "Metadata", "filePath"])).bind (·.text?)
    severity := some Severity.error.label
    code := text? report ["Check"]
    tool := some "kube-linter"
    message :=
      (((below? report ["Diagnostic", "Message"]).bind (·.text?)).map Text.trim).getD "" }

def titled (title description : String) : String :=
  if title.isEmpty then description
  else if description.isEmpty then title
  else title ++ ": " ++ description

def dockerfilelintFile (file : Json) : List Diagnostic :=
  (elements (file.get? "issues")).map fun issue =>
    { file := text? file ["file"]
      line := (number? issue ["line"]).filter (· != 0)
      severity := some Severity.warning.label
      code := text? issue ["category"]
      tool := some "dockerfilelint"
      message := titled (message issue ["title"]) (message issue ["description"]) }

/-- The records of a report. Some tools wrap them in an object, some give a lone record bare. -/
def records (report : JsonReport) (payload : Json) : List Json :=
  match report with
  | ruff => wrapped ["diagnostics"] payload
  | pyright =>
    match payload with
    | .obj _ => wrapped ["generalDiagnostics", "diagnostics"] payload
    | _ => []
  | selene | cargoClippy => Report.records payload
  | bandit => wrapped ["results"] payload
  | golangciLint => wrapped ["Issues", "issues"] payload
  | kubeLinter => wrapped ["Reports"] payload
  | dockerfilelint => wrapped ["files"] payload
  | pylint | mypy | eslint | stylelint | actionlint | hadolint | sqlfluff =>
    elements (some payload)

def ofObject (item : Json → Diagnostic) (record : Json) : List Diagnostic :=
  if record.isObject then [item record] else []

def recordDiagnostics (report : JsonReport) (root : Path) (record : Json) : List Diagnostic :=
  match report with
  | ruff => ofObject (ruffItem root) record
  | pylint => ofObject (pylintItem root) record
  | pyright => ofObject (pyrightItem root) record
  | mypy => ofObject (mypyItem root) record
  | selene =>
    if text? record ["type"] = some "diagnostic" then [seleneItem root record] else []
  | eslint => eslintFile record
  | stylelint => stylelintFile record
  | actionlint => [actionlintItem record]
  | hadolint => [hadolintItem record]
  | bandit => [banditItem record]
  | sqlfluff => sqlfluffFile record
  | golangciLint => ofObject golangciItem record
  | cargoClippy => (clippyMessage? record).toList.map clippyItem
  | kubeLinter => [kubeItem record]
  | dockerfilelint => dockerfilelintFile record

def diagnostics (report : JsonReport) (root : Path) (payload : Json) : List Diagnostic :=
  (report.records payload).flatMap (report.recordDiagnostics root)

end JsonReport
end LintTools
