import LintTools.Proofs.Report.Lines
import LintTools.Strategy

/-! What the parsers of built-in reports return, for any output and from any root: diagnostics with
a message, a severity and a tool. -/
namespace LintTools.OutputParser

inductive OfReport : OutputParser → Prop
  | json (report : JsonReport) : OfReport (.json report)
  | text (report : TextReport) : OfReport (.text report)

theorem findings_wellFormed (parser : OutputParser) (root : Path) (output : String)
    (reports : parser.OfReport) : ∀ d ∈ parser.findings root output, d.WellFormed := by
  intro d member
  cases reports with
  | json report => exact report.diagnostics_wellFormed root _ d member
  | text report => exact report.diagnostics_wellFormed output d member

/-- Every returned diagnostic is well-formed and has a message. -/
theorem parse_presentable (parser : OutputParser) (root : Path) (output : String)
    (reports : parser.OfReport) :
    ∀ d ∈ parser.parse root output, d.message ≠ "" ∧ d.WellFormed := by
  intro d member
  obtain ⟨found,filled⟩ := List.mem_filter.mp member
  exact ⟨by simpa using filled,findings_wellFormed parser root output reports d found⟩

def blockOutput : String := " Error: invalid key\n    at a.toml:3:5\n  see the manual \nhint:\n"

def blockDiagnostic : Diagnostic :=
  { file := some "a.toml"
    line := some 3
    column := some 5
    severity := some "error"
    message := "invalid key (see the manual) (hint:)"
    tool := some "tombi" }

theorem blockOutput_presentable : OfReport (.text .tombi) ∧
    blockDiagnostic ∈ parse (.text .tombi) ⟨"/"⟩ blockOutput ∧ blockDiagnostic.message ≠ "" ∧
    blockDiagnostic.WellFormed := by
  have reports : OfReport (.text .tombi) := .text .tombi
  have returned : blockDiagnostic ∈ parse (.text .tombi) ⟨"/"⟩ blockOutput := by decide +kernel
  exact ⟨reports,returned,parse_presentable (.text .tombi) ⟨"/"⟩ blockOutput reports _ returned⟩

end LintTools.OutputParser
