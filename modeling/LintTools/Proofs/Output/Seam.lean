import LintTools.Proofs.Output.LineByLine
import LintTools.Proofs.Report.Lines

/-! Parsers for which every line of the output stands alone. What they find in a text that is cut at
a line end is what they find in its two parts, so a line that gives nothing takes nothing away from
the others either. -/
namespace LintTools.OutputParser
open Payload

/-- Text reports but for the one in blocks, and extractors of one document a line. -/
inductive ReadsLines : OutputParser → Prop
  | text (report : TextReport) (single : report ≠ .tombi) : ReadsLines (.text report)
  | extractor (rules : Extractor) (format : rules.format = .lines) (whole : rules.itemPath = none) :
      ReadsLines (.extractor rules)

theorem load_lines (output : List Char) : load .lines output = .arr (lineObjects output) := by
  rw [load]
  split
  next empty =>
    have blank := (Text.strip_eq_nil_iff output).mp empty
    rw [lineObjects,(Text.filledLines_eq_nil_iff output).mpr blank]
    rfl
  next => exact ofLines_strip output

theorem lineObjects_append (before after : List Char) :
    lineObjects (before ++ '\n' :: after) = lineObjects before ++ lineObjects after := by
  rw [lineObjects,Text.filledLines_append,List.filterMap_append]
  rfl

theorem text_findings (report : TextReport) (root : Path) (output : String)
    (single : report ≠ .tombi) : findings (.text report) root output =
      (Text.filledLines output.toList).filterMap report.line? := by
  rw [findings,report.diagnostics_lines single]

theorem extractor_findings (rules : Extractor) (root : Path) (output : String)
    (format : rules.format = .lines) (whole : rules.itemPath = none) :
    findings (.extractor rules) root output =
      ((lineObjects output.toList).filter (·.isObject)).filterMap rules.diagnostic? := by
  rw [findings,Extractor.parse,format,load_lines,Extractor.diagnostics,
    extractor_items rules whole _ _ .array]

theorem findings_append (parser : OutputParser) (root : Path) (before after : String)
    (reads : parser.ReadsLines) : parser.findings root (before ++ "\n" ++ after) =
      parser.findings root before ++ parser.findings root after := by
  have cut : (before ++ "\n" ++ after).toList = before.toList ++ '\n' :: after.toList := by simp
  cases reads with
  | text report single =>
    simp only [text_findings report root _ single,cut,Text.filledLines_append,
      List.filterMap_append]
  | extractor rules format whole =>
    simp only [extractor_findings rules root _ format whole,cut,lineObjects_append,
      List.filter_append,List.filterMap_append]

/-- A text is parsed as its parts before and after a line end are. Lines that give nothing can be
left out. -/
theorem parse_at_line_end (parser : OutputParser) (root : Path) (before after : String)
    (reads : parser.ReadsLines) :
    parser.parse root (before ++ "\n" ++ after) =
        parser.parse root before ++ parser.parse root after ∧
      ∀ garbled, parser.parse root garbled = [] →
        parser.parse root (before ++ "\n" ++ garbled ++ "\n" ++ after) =
          parser.parse root (before ++ "\n" ++ after) := by
  have apart (first second : String) : parser.parse root (first ++ "\n" ++ second) =
      parser.parse root first ++ parser.parse root second := by
    rw [parse,findings_append parser root first second reads,List.filter_append]
    rfl
  refine ⟨apart before after,?_⟩
  intro garbled nothing
  rw [apart,apart,apart,nothing,List.append_nil]

def unusedLine : String := "init.lua:3:7: (W211) unused variable 'x'\r"

def brokenLine : String := "init.lua:5:1: (W"

def expectedLine : String := "\u2003init.lua:9:1: (E011) expected expression"

theorem brokenLine_ignored : ReadsLines (.text .luacheck) ∧
    parse (.text .luacheck) ⟨"/"⟩ brokenLine = [] ∧
    parse (.text .luacheck) ⟨"/"⟩ (unusedLine ++ "\n" ++ brokenLine ++ "\n" ++ expectedLine) =
      parse (.text .luacheck) ⟨"/"⟩ unusedLine ++ parse (.text .luacheck) ⟨"/"⟩ expectedLine := by
  have reads : ReadsLines (.text .luacheck) := .text .luacheck (by decide)
  have nothing : parse (.text .luacheck) ⟨"/"⟩ brokenLine = [] := by decide +kernel
  obtain ⟨apart,ignored⟩ :=
    parse_at_line_end (.text .luacheck) ⟨"/"⟩ unusedLine expectedLine reads
  exact ⟨reads,nothing,(ignored brokenLine nothing).trans apart⟩

end LintTools.OutputParser
