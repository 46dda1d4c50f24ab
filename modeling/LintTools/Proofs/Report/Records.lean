import LintTools.Proofs.Text.Trimmed
import LintTools.Report.JsonReport

/-! Diagnostics of built-in reports say something that can be shown as it stands. Whatever shape the
records of a JSON report have, messages come out trimmed, severities are among four labels, and
the tool is named. -/
namespace LintTools

structure Diagnostic.WellFormed (d : Diagnostic) : Prop where
  trimmed : Text.trim d.message = d.message
  severity : ∃ label ∈ ["error","warning","notice","note"], d.severity = some label
  tool : ∃ tool, d.tool = some tool ∧ tool ≠ ""

theorem Severity.label_listed (severity : Severity) :
    severity.label ∈ ["error","warning","notice","note"] := by
  cases severity <;> decide

/-- What the reports have in common: a severity by its label, and the name of the tool. -/
theorem Diagnostic.WellFormed.of_trimmed {d : Diagnostic} (severity : Severity) (tool : String)
    (trimmed : Text.Trimmed d.message.toList) (rated : d.severity = some severity.label)
    (named : d.tool = some tool) (filled : tool ≠ "") : d.WellFormed :=
  ⟨(Text.trim_eq_self_iff d.message).mpr trimmed,⟨severity.label,severity.label_listed,rated⟩,
    tool,named,filled⟩

namespace JsonReport
open Report LintTools.Text

theorem trimmed_getD (text : Option String) : Trimmed ((text.map trim).getD "").toList := by
  cases text with
  | none => exact trimmed_nil
  | some text => exact trim_trimmed text

theorem message_trimmed (item : Json) (names : List String) :
    Trimmed (message item names).toList :=
  trimmed_getD (text? item names)

theorem foldCopies_trimmed (text : String) : Trimmed (foldCopies text).toList := by
  rw [foldCopies]
  cases lines : filledLines text.toList with
  | nil => exact trimmed_nil
  | cons header others =>
    have member : header ∈ filledLines text.toList := by simp [lines]
    have filled : header ≠ [] := by simpa using (List.mem_filter.mp member).2
    have trimmed := ofList_strip_trimmed header
    rw [strip_of_mem_filledLines text.toList header member] at trimmed
    dsimp only
    split
    · exact trimmed
    · exact trimmed.noted _ (by simpa using filled)

theorem seleneItem_trimmed (root : Path) (record : Json) :
    Trimmed (seleneItem root record).message.toList := by
  have trimmed := message_trimmed record ["message"]
  dsimp only [seleneItem]
  split
  · exact trimmed
  · rename_i extended
    simp only [Bool.or_eq_true,String.isEmpty_iff,not_or] at extended
    exact trimmed.noted _ extended.2

theorem titled_trimmed (title description : String) (before : Trimmed title.toList)
    (behind : Trimmed description.toList) : Trimmed (titled title description).toList := by
  rw [titled]
  split
  · exact behind
  · rename_i headed
    split
    · exact before
    · rename_i described
      rw [String.isEmpty_iff] at headed described
      exact before.joined ": " behind headed described

theorem text_filled (item : Json) (names : List String) (text : String)
    (found : text? item names = some text) : text ≠ "" := by
  obtain ⟨name,_,held⟩ := List.exists_of_findSome?_eq_some found
  simpa using (Option.filter_eq_some_iff.mp held).2

theorem golangciItem_wellFormed (issue : Json) : (golangciItem issue).WellFormed := by
  refine .of_trimmed _ _ (message_trimmed issue ["Text","text"]) rfl rfl ?_
  cases linter : text? issue ["FromLinter","source"] with
  | none => decide
  | some tool => exact text_filled issue _ tool linter

theorem mem_ofObject (item : Json → Diagnostic) (record : Json) (d : Diagnostic)
    (member : d ∈ ofObject item record) : d = item record := by
  rw [ofObject] at member
  split at member
  · exact List.mem_singleton.mp member
  · simp at member

/-- The diagnostics of one record, report by report. -/
theorem recordDiagnostics_wellFormed (report : JsonReport) (root : Path) (record : Json)
    (d : Diagnostic) (member : d ∈ report.recordDiagnostics root record) : d.WellFormed := by
  cases report with
  | ruff =>
    obtain rfl := mem_ofObject _ record d member
    exact .of_trimmed _ "ruff" (message_trimmed record ["message"]) rfl rfl (by decide)
  | pylint =>
    obtain rfl := mem_ofObject _ record d member
    refine .of_trimmed _ "pylint" ?_ rfl rfl (by decide)
    dsimp only [pylintItem]
    split
    · exact foldCopies_trimmed _
    · exact message_trimmed record ["message"]
  | pyright =>
    obtain rfl := mem_ofObject _ record d member
    exact .of_trimmed _ "pyright" (message_trimmed record ["message"]) rfl rfl (by decide)
  | mypy =>
    obtain rfl := mem_ofObject _ record d member
    exact .of_trimmed _ "mypy" (message_trimmed record ["message"]) rfl rfl (by decide)
  | selene =>
    rw [recordDiagnostics] at member
    split at member
    · obtain rfl := List.mem_singleton.mp member
      exact .of_trimmed _ "selene" (seleneItem_trimmed root record) rfl rfl (by decide)
    · simp at member
  | eslint =>
    obtain ⟨item,_,rfl⟩ := List.mem_map.mp member
    exact .of_trimmed _ "eslint" (message_trimmed item ["message"]) rfl rfl (by decide)
  | stylelint =>
    obtain ⟨item,_,rfl⟩ := List.mem_map.mp member
    exact .of_trimmed _ "stylelint" (message_trimmed item ["text"]) rfl rfl (by decide)
  | actionlint =>
    obtain rfl := List.mem_singleton.mp member
    exact .of_trimmed _ "actionlint" (message_trimmed record ["message"]) rfl rfl (by decide)
  | hadolint =>
    obtain rfl := List.mem_singleton.mp member
    exact .of_trimmed _ "hadolint" (message_trimmed record ["message"]) rfl rfl (by decide)
  | bandit =>
    obtain rfl := List.mem_singleton.mp member
    exact .of_trimmed _ "bandit" (message_trimmed record ["issue_text"]) rfl rfl (by decide)
  | sqlfluff =>
    obtain ⟨item,_,rfl⟩ := List.mem_map.mp member
    exact .of_trimmed _ "sqlfluff" (message_trimmed item ["description"]) rfl rfl (by decide)
  | golangciLint =>
    obtain rfl := mem_ofObject _ record d member
    exact golangciItem_wellFormed record
  | cargoClippy =>
    obtain ⟨item,_,rfl⟩ := List.mem_map.mp member
    exact .of_trimmed _ "cargo-clippy" (message_trimmed item ["message"]) rfl rfl (by decide)
  | kubeLinter =>
    obtain rfl := List.mem_singleton.mp member
    exact .of_trimmed .error "kube-linter" (trimmed_getD _) rfl rfl (by decide)
  | dockerfilelint =>
    obtain ⟨issue,_,rfl⟩ := List.mem_map.mp member
    have trimmed := titled_trimmed _ _ (message_trimmed issue ["title"])
      (message_trimmed issue ["description"])
    exact .of_trimmed .warning "dockerfilelint" trimmed rfl rfl (by decide)

theorem diagnostics_wellFormed (report : JsonReport) (root : Path) (payload : Json)
    (d : Diagnostic) (member : d ∈ report.diagnostics root payload) : d.WellFormed := by
  obtain ⟨record,_,inside⟩ := List.mem_flatMap.mp member
  exact recordDiagnostics_wellFormed report root record d inside

end JsonReport
end LintTools
