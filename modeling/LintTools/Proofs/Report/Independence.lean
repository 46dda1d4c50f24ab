import LintTools.Report.JsonReport

/-! Records of a JSON report do not know of each other. Lists of records put together give what each of
them gives, in their order, and it makes no difference whether a list stands by itself or inside the
object that some tools put around it. -/
namespace LintTools.JsonReport
open Report

def wrapperKeys : JsonReport → List String
  | ruff => ["diagnostics"]
  | bandit => ["results"]
  | golangciLint => ["Issues","issues"]
  | kubeLinter => ["Reports"]
  | dockerfilelint => ["files"]
  | _ => []

theorem records_array (report : JsonReport) (bare : report ≠ .pyright) (items : List Json) :
    report.records (.arr items) = items := by
  cases report with
  | pyright => exact absurd rfl bare
  | _ => rfl

theorem records_wrapped (report : JsonReport) (wraps : report.wrapperKeys ≠ []) (entries : Entries) :
    report.records (.obj entries) = elements (report.wrapperKeys.findSome? entries.get?) := by
  cases report with
  | ruff | bandit | golangciLint | kubeLinter | dockerfilelint => rfl
  | _ => exact absurd rfl wraps

theorem array_diagnostics (report : JsonReport) (bare : report ≠ .pyright) (root : Path)
    (items : List Json) :
    report.diagnostics root (.arr items) = items.flatMap (report.recordDiagnostics root) := by
  rw [diagnostics,records_array report bare]

theorem pyright_array (root : Path) (items : List Json) :
    pyright.diagnostics root (.arr items) = [] := rfl

theorem wrapped_diagnostics (report : JsonReport) (wraps : report.wrapperKeys ≠ []) (root : Path)
    (entries : Entries) : report.diagnostics root (.obj entries) =
      report.diagnostics root (.arr (elements (report.wrapperKeys.findSome? entries.get?))) := by
  have bare : report ≠ .pyright := by
    rintro rfl
    exact wraps rfl
  rw [diagnostics,records_wrapped report wraps,array_diagnostics report bare]

section Stray
variable (record : Json) (stray : record.isObject = false)
include stray

theorem get?_stray (name : String) : record.get? name = none := by
  cases record with
  | obj entries => cases stray
  | _ => rfl

theorem text?_stray (names : List String) : text? record names = none := by
  rw [text?,List.findSome?_eq_none_iff]
  intro name _
  rw [get?_stray record stray name]
  rfl

theorem message_stray (names : List String) : message record names = "" := by
  rw [message,text?_stray record stray names]
  rfl

/-- Whatever is made of a record that is no object has nothing to say. -/
theorem recordDiagnostics_stray (report : JsonReport) (root : Path) (d : Diagnostic)
    (member : d ∈ report.recordDiagnostics root record) : d.message = "" := by
  cases report with
  | ruff | pylint | pyright | mypy | golangciLint =>
    rw [recordDiagnostics,ofObject,stray] at member
    cases member
  | selene =>
    rw [recordDiagnostics,text?_stray record stray] at member
    cases member
  | cargoClippy =>
    rw [recordDiagnostics,clippyMessage?,text?_stray record stray] at member
    cases member
  | eslint =>
    rw [recordDiagnostics,eslintFile,get?_stray record stray] at member
    cases member
  | stylelint =>
    rw [recordDiagnostics,stylelintFile,get?_stray record stray] at member
    cases member
  | sqlfluff =>
    rw [recordDiagnostics,sqlfluffFile,get?_stray record stray] at member
    cases member
  | dockerfilelint =>
    rw [recordDiagnostics,dockerfilelintFile,get?_stray record stray] at member
    cases member
  | actionlint | hadolint | bandit =>
    obtain rfl := List.mem_singleton.mp member
    exact message_stray record stray _
  | kubeLinter =>
    obtain rfl := List.mem_singleton.mp member
    have nowhere : below? record ["Diagnostic","Message"] = none := by
      simp [below?,Json.follow?,get?_stray record stray,Json.present]
    rw [kubeItem,nowhere]
    rfl

end Stray

/-- The diagnostics of a list of records are those of its parts, one record after the other, and a
record that is no object adds none that would be shown. An object that holds a list under the first
of its keys that is there gives what the list gives. -/
theorem records_independent (report : JsonReport) (root : Path) :
    (∀ items others, report.diagnostics root (.arr (items ++ others)) =
      report.diagnostics root (.arr items) ++ report.diagnostics root (.arr others)) ∧
    (report ≠ .pyright → ∀ record,
      report.diagnostics root (.arr [record]) = report.recordDiagnostics root record ∧
        (record.isObject = false → ∀ d ∈ report.diagnostics root (.arr [record]), d.message = "")) ∧
    ∀ entries items, report.wrapperKeys.findSome? (Entries.get? entries) = some (.arr items) →
      report.diagnostics root (.obj entries) = report.diagnostics root (.arr items) := by
  refine ⟨?_,?_,?_⟩
  · intro items others
    by_cases bare : report = .pyright
    · subst bare
      simp only [pyright_array,List.append_nil]
    · simp only [array_diagnostics report bare,List.flatMap_append]
  · intro bare record
    have single : report.diagnostics root (.arr [record]) = report.recordDiagnostics root record := by
      rw [array_diagnostics report bare,List.flatMap_singleton]
    refine ⟨single,?_⟩
    intro stray d member
    exact recordDiagnostics_stray record stray report root d (single ▸ member)
  · intro entries items found
    have wraps : report.wrapperKeys ≠ [] := by
      intro none
      rw [none] at found
      cases found
    rw [wrapped_diagnostics report wraps,found]
    rfl

def twoLists : Entries :=
  [("Issues",.arr [.str "summary",.obj [("Text",.str " unchecked error ")]]),
    ("issues",.arr [.obj [("text",.str "shadowed")]])]

theorem twoLists_first :
    golangciLint.wrapperKeys.findSome? (Entries.get? twoLists) =
        some (.arr [.str "summary",.obj [("Text",.str " unchecked error ")]]) ∧
      golangciLint ≠ .pyright ∧
      golangciLint.diagnostics ⟨"/repo"⟩ (.obj twoLists) =
        golangciLint.diagnostics ⟨"/repo"⟩
          (.arr [.str "summary",.obj [("Text",.str " unchecked error ")]]) ∧
      golangciLint.diagnostics ⟨"/repo"⟩ (.arr [.str "summary"]) =
        golangciLint.recordDiagnostics ⟨"/repo"⟩ (.str "summary") ∧
      golangciLint.diagnostics ⟨"/repo"⟩ (.obj twoLists) =
        [{ severity := some "warning"
           tool := some "golangci-lint"
           message := "unchecked error" }] := by
  have bare : golangciLint ≠ .pyright := by decide
  have independent := records_independent golangciLint ⟨"/repo"⟩
  exact ⟨rfl,bare,independent.2.2 twoLists _ rfl,(independent.2.1 bare (.str "summary")).1,
    by decide +kernel⟩

end LintTools.JsonReport
