import LintTools.Proofs.Report.Records
import LintTools.Report.TextReport

/-! Diagnostics of text reports. A line form is a chain of readings that ends in one record, so what
holds of the record holds of whatever the line gives. A block starts with a message that is not
empty, and what its lines add stands behind it in parentheses. -/
namespace LintTools
namespace TextReport
open Report LintTools.Text

theorem bind_gives {α β : Type} {holds : β → Prop} {found : Option α} {next : α → Option β}
    (each : ∀ value, ∀ result ∈ next value, holds result) :
    ∀ result ∈ found >>= next, holds result := by
  intro result member
  obtain ⟨value,_,inside⟩ := Option.bind_eq_some_iff.mp member
  exact each value result inside

theorem pure_gives {α : Type} {holds : α → Prop} {value : α} (held : holds value) :
    ∀ result ∈ (pure value : Option α), holds result := by
  rintro _ ⟨⟩
  exact held

theorem part_trimmed (cs : List Char) : Trimmed ((part? cs).getD "").toList := by
  rw [part?]
  split
  · exact trimmed_nil
  · exact ofList_strip_trimmed cs

theorem tscLine_wellFormed (cs : List Char) : ∀ d ∈ tscLine? cs, d.WellFormed := by
  unfold tscLine?
  repeat refine bind_gives fun _ => ?_
  exact pure_gives (.of_trimmed _ "tsc" (part_trimmed _) rfl rfl (by decide))

theorem lualintLine_wellFormed (cs : List Char) : ∀ d ∈ lualintLine? cs, d.WellFormed := by
  unfold lualintLine?
  repeat refine bind_gives fun _ => ?_
  exact pure_gives (.of_trimmed .warning "lualint" (part_trimmed _) rfl rfl (by decide))

theorem luacheckLine_wellFormed (cs : List Char) : ∀ d ∈ luacheckLine? cs, d.WellFormed := by
  unfold luacheckLine?
  repeat refine bind_gives fun _ => ?_
  dsimp only
  -- The test on the letter is one more reading; with or without it the record is the same.
  split
  all_goals
    repeat refine bind_gives fun _ => ?_
    exact pure_gives (.of_trimmed _ "luacheck" (part_trimmed _) rfl rfl (by decide))

theorem yamllintLine_wellFormed (cs : List Char) : ∀ d ∈ yamllintLine? cs, d.WellFormed := by
  unfold yamllintLine?
  repeat refine bind_gives fun _ => ?_
  exact pure_gives (.of_trimmed _ "yamllint" (part_trimmed _) rfl rfl (by decide))

theorem dotenvLine_wellFormed (cs : List Char) : ∀ d ∈ dotenvLine? cs, d.WellFormed := by
  unfold dotenvLine?
  repeat refine bind_gives fun _ => ?_
  exact pure_gives (.of_trimmed .warning "dotenv-linter" (part_trimmed _) rfl rfl (by decide))

theorem cpplintLine_wellFormed (cs : List Char) : ∀ d ∈ cpplintLine? cs, d.WellFormed := by
  unfold cpplintLine?
  repeat refine bind_gives fun _ => ?_
  exact pure_gives (.of_trimmed .warning "cpplint" (part_trimmed _) rfl rfl (by decide))

end TextReport

namespace Report.Tombi
open LintTools.Text LintTools.TextReport

def Opened (d : Diagnostic) : Prop := d.WellFormed ∧ d.message ≠ ""

/-- The rest of a line behind blanks, if there is any, has a visible start. -/
theorem strip_rest (cs message : List Char) (rest : rest? (dropBlank cs) = some message) :
    strip message ≠ [] := by
  rw [rest?] at rest
  split at rest
  · contradiction
  · rename_i filled
    obtain rfl := Option.some.inj rest
    intro blank
    have empty : dropBlank (dropBlank cs) = [] :=
      List.dropWhile_eq_nil_iff.mpr ((strip_eq_nil_iff (dropBlank cs)).mp blank)
    have again : dropBlank (dropBlank cs) = dropBlank cs := List.dropWhile_idempotent isBlank cs
    exact filled (by rw [← again,empty]; rfl)

theorem header_opened (line : List Char) : ∀ d ∈ header? line, Opened d := by
  intro d found
  obtain ⟨level,_,behind⟩ := Option.bind_eq_some_iff.mp found
  obtain ⟨message,rest,same⟩ := Option.bind_eq_some_iff.mp behind
  obtain rfl := Option.some.inj same
  refine ⟨.of_trimmed level.1 "tombi" (ofList_strip_trimmed message) rfl rfl (by decide),?_⟩
  simpa using strip_rest _ message rest

theorem extend_opened (line : List Char) (d : Diagnostic) (opened : Opened d) :
    Opened (extend line d) := by
  rw [extend]
  split
  · exact ⟨⟨opened.1.trimmed,opened.1.severity,opened.1.tool⟩,opened.2⟩
  · have noted := ((trim_eq_self_iff d.message).mp opened.1.trimmed).noted (String.ofList line)
      opened.2
    refine ⟨⟨(trim_eq_self_iff _).mpr noted,opened.1.severity,opened.1.tool⟩,?_⟩
    simp

/-- What every header opens with and every further line keeps holds of all blocks. -/
theorem diagnosticsFrom_holds {holds : Diagnostic → Prop}
    (headers : ∀ line, ∀ d ∈ header? line, holds d)
    (extended : ∀ line d, holds d → holds (extend line d)) (opened : Option Diagnostic)
    (lines : List (List Char)) (start : ∀ d ∈ opened, holds d) :
    ∀ d ∈ diagnosticsFrom opened lines, holds d := by
  induction lines generalizing opened with
  | nil =>
    intro d member
    exact start d (Option.mem_toList.mp member)
  | cons line lines ih =>
    rw [diagnosticsFrom]
    -- A header closes what is open and opens the next; any other line extends it.
    split
    · rename_i next header
      intro d member
      rcases List.mem_append.mp member with closed | later
      · exact start d (Option.mem_toList.mp closed)
      · exact ih (some next) (fun d same => headers line d (header.trans same)) d later
    · apply ih
      intro d member
      obtain ⟨before,given,rfl⟩ := Option.map_eq_some_iff.mp member
      exact extended line before (start before given)

end Report.Tombi

namespace TextReport
open Report LintTools.Text

/-- Every form gives well-formed diagnostics only. -/
theorem form_wellFormed (report : TextReport) (line : List Char) :
    ∀ d ∈ report.form? line, d.WellFormed := by
  cases report with
  | tsc => exact tscLine_wellFormed line
  | lualint => exact lualintLine_wellFormed line
  | luacheck => exact luacheckLine_wellFormed line
  | yamllint => exact yamllintLine_wellFormed line
  | dotenvLinter => exact dotenvLine_wellFormed line
  | cpplint => exact cpplintLine_wellFormed line
  | tombi => exact fun d member => (Tombi.header_opened line d member).1

theorem diagnostics_lines (report : TextReport) (single : report ≠ .tombi) (output : String) :
    report.diagnostics output = (filledLines output.toList).filterMap report.line? := by
  rw [diagnostics]
  exact single

/-- What every form gives holds of all diagnostics, if the lines of a block keep it. -/
theorem diagnostics_holds {holds : Diagnostic → Prop} (report : TextReport)
    (forms : ∀ line, ∀ d ∈ report.form? line, holds d)
    (extended : report = .tombi → ∀ line d, holds d → holds (Tombi.extend line d))
    (output : String) : ∀ d ∈ report.diagnostics output, holds d := by
  by_cases blocks : report = .tombi
  · subst blocks
    exact Tombi.diagnosticsFrom_holds forms (extended rfl) none _ (by simp)
  · rw [diagnostics_lines report blocks]
    intro d member
    obtain ⟨line,_,given⟩ := List.mem_filterMap.mp member
    rw [line?] at given
    split at given
    · contradiction
    · exact forms line d given

theorem diagnostics_wellFormed (report : TextReport) (output : String) (d : Diagnostic)
    (member : d ∈ report.diagnostics output) : d.WellFormed := by
  by_cases blocks : report = .tombi
  · subst blocks
    exact (diagnostics_holds .tombi Tombi.header_opened (fun _ => Tombi.extend_opened) output
      d member).1
  · exact diagnostics_holds report (form_wellFormed report) (fun same => absurd same blocks) output
      d member

end TextReport
end LintTools
