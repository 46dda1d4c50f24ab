import LintTools.Proofs.Report.Pattern
import LintTools.Proofs.Report.Printed

/-! Summary lines. They are told from diagnostics by how they begin, before the form of a line is
tried, and a line in the form of these tools begins with a file. So a diagnostic is shown just when
its file does not begin like a summary. -/
namespace LintTools.TextReport
open Report LintTools.Text

/-- What stands before the first colon, with this colon. In a line that begins with a file this is
all that the beginning of a summary is compared with. -/
def throughColon (line : List Char) : List Char := line.takeWhile isNotColon ++ [':']

def Summarised (report : TextReport) (line : List Char) : Prop :=
  ∃ start ∈ report.summaries, start.toList <+: throughColon line

theorem colon_mem (report : TextReport) (line : List Char) (summarised : report.summaries ≠ [])
    (inside : line ∈ report.pattern) : ':' ∈ line := by
  cases report with
  | tsc => contradiction
  | yamllint => contradiction
  | tombi => contradiction
  | lualint | luacheck | dotenvLinter | cpplint =>
    simp only [pattern,mul_assoc] at inside
    obtain ⟨file,_,_,behind,rfl⟩ := Language.mem_mul.mp inside
    obtain ⟨_,rfl,rest,_,rfl⟩ := Language.mem_mul.mp behind
    simp

theorem throughColon_append (file rest : List Char) (apart : ':' ∉ file) :
    throughColon (file ++ ':' :: rest) = file ++ [':'] := by
  have all : ∀ c ∈ file, isNotColon c = true := by
    intro c member
    rw [isNotColon,bne_iff_ne]
    rintro rfl
    exact apart member
  rw [throughColon,List.takeWhile_append_of_pos all,List.takeWhile_cons_of_neg (by decide),
    List.append_nil]

theorem isSummary_iff (report : TextReport) (line : List Char) (inside : line ∈ report.pattern) :
    report.isSummary line = true ↔ report.Summarised line := by
  have plain : ∀ start ∈ report.summaries, ':' ∉ start.toList.dropLast := by
    cases report <;> decide
  rw [isSummary,List.any_eq_true]
  apply exists_congr
  intro start
  refine and_congr_right fun member => ?_
  have colon := colon_mem report line (List.ne_nil_of_mem member) inside
  obtain ⟨file,rest,rfl,apart⟩ := List.eq_append_cons_of_mem colon
  rw [startsWith_iff,throughColon_append file rest apart]
  constructor
  · exact prefix_through ':' _ file rest (plain start member)
  · exact fun starts => starts.trans ⟨rest,by simp⟩

theorem diagnostics_line (report : TextReport) (byLines : report ≠ .tombi) (line : String)
    (single : '\n' ∉ line.toList) :
    report.diagnostics line = (report.line? (strip line.toList)).toList := by
  rw [diagnostics_lines report byLines,filledLines_line _ single]
  split
  · rename_i blank
    rw [blank]
    cases report <;> rfl
  · rw [List.filterMap_cons]
    cases report.line? (strip line.toList) <;> rfl

theorem restOfLine_strip (line : List Char) (single : '\n' ∉ line) : RestOfLine (strip line) :=
  ⟨(strip_trimmed line).2,fun member => single ((strip_sublist line).subset member)⟩

/-- A line gives its diagnostic exactly when, trimmed, it has the form of the tool and does not
begin like a summary before its first colon is over. -/
theorem diagnostic_shown_iff (report : TextReport) (byLines : report ≠ .tombi) (line : String)
    (single : '\n' ∉ line.toList) :
    (∃ d, report.diagnostics line = [d]) ↔
      strip line.toList ∈ report.pattern ∧ ¬report.Summarised (strip line.toList) := by
  have one : (∃ d, report.diagnostics line = [d]) ↔
      (report.line? (strip line.toList)).isSome = true := by
    rw [diagnostics_line report byLines line single]
    cases report.line? (strip line.toList) <;> simp
  have form := form?_isSome_iff report _ (restOfLine_strip line.toList single)
  rw [one,← form,line?]
  constructor
  · intro shown
    split at shown
    · contradiction
    · rename_i plain
      exact ⟨shown,mt (isSummary_iff report _ (form.mp shown)).mpr plain⟩
  · rintro ⟨found,plain⟩
    rwa [if_neg (mt (isSummary_iff report _ (form.mp found)).mp plain)]

def totalsLine : String := "  Totals.lua:3:7: (W211) unused variable Total: x \r"

theorem totalsLine_shown :
    TextReport.luacheck ≠ .tombi ∧ '\n' ∉ totalsLine.toList ∧
    ∃ d, TextReport.luacheck.diagnostics totalsLine = [d] := by
  have single : '\n' ∉ totalsLine.toList := by decide
  refine ⟨by decide,single,?_⟩
  rw [diagnostic_shown_iff .luacheck (by decide) totalsLine single]
  constructor
  · rw [← form?_isSome_iff .luacheck _ (restOfLine_strip _ single)]
    decide +kernel
  · rintro ⟨start,member,starts⟩
    obtain rfl := List.mem_singleton.mp member
    revert starts
    decide +kernel

def Lost (report : TextReport) (line : String) : Prop :=
  strip line.toList ∈ report.pattern ∧ report.diagnostics line = []

theorem lost_of_form (report : TextReport) (line : String) (single : '\n' ∉ line.toList)
    (formed : (report.form? (strip line.toList)).isSome = true)
    (nothing : (report.diagnostics line).isEmpty = true) : report.Lost line :=
  ⟨(form?_isSome_iff report _ (restOfLine_strip _ single)).mp formed,List.isEmpty_iff.mp nothing⟩

/-- Findings are lost in files that begin like a summary of their tool. -/
theorem summaryNames_lost :
    lualint.Lost "Usage.lua:12: *** global SET of foo" ∧
    luacheck.Lost "Total:3:7: (W211) unused variable x" ∧
    dotenvLinter.Lost "Checking.env:2 UnorderedKey: The BAR key should go before the FOO key" ∧
    cpplint.Lost "Total errors.cc:5:  Missing space after ,  [whitespace/comma] [3]" := by
  refine ⟨?_,?_,?_,?_⟩
  · exact lost_of_form lualint _ (by decide) (by decide +kernel) (by decide +kernel)
  · exact lost_of_form luacheck _ (by decide) (by decide +kernel) (by decide +kernel)
  · exact lost_of_form dotenvLinter _ (by decide) (by decide +kernel) (by decide +kernel)
  · exact lost_of_form cpplint _ (by decide) (by decide +kernel) (by decide +kernel)

end LintTools.TextReport
