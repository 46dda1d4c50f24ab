import LintTools.Report.Tombi

/-! Built-in readings of the text reports of known tools. But for one, every line stands alone;
lines of another form and summary lines give nothing. -/
namespace LintTools

inductive TextReport where
  | tsc | lualint | luacheck | yamllint | dotenvLinter | cpplint | tombi
  deriving DecidableEq

namespace TextReport
open Report

def all : List TextReport := [tsc, lualint, luacheck, yamllint, dotenvLinter, cpplint, tombi]

def name : TextReport → String
  | tsc => "tsc"
  | lualint => "lualint"
  | luacheck => "luacheck"
  | yamllint => "yamllint"
  | dotenvLinter => "dotenv_linter"
  | cpplint => "cpplint"
  | tombi => "tombi"

def named? (text : String) : Option TextReport := all.find? (·.name = text)

def summaries : TextReport → List String
  | lualint => ["Usage"]
  | luacheck => ["Total:"]
  | dotenvLinter => ["Checking", "Nothing to check", "No problems found"]
  | cpplint => ["Done processing", "Total errors"]
  | _ => []

def isSummary (report : TextReport) (line : List Char) : Bool :=
  report.summaries.any fun start => Text.startsWith start.toList line

def form? : TextReport → List Char → Option Diagnostic
  | tsc => tscLine?
  | lualint => lualintLine?
  | luacheck => luacheckLine?
  | yamllint => yamllintLine?
  | dotenvLinter => dotenvLine?
  | cpplint => cpplintLine?
  | tombi => Tombi.header?

def line? (report : TextReport) (line : List Char) : Option Diagnostic :=
  if report.isSummary line then none else report.form? line

def diagnostics (report : TextReport) (output : String) : List Diagnostic :=
  match report with
  | tombi => Tombi.diagnostics output.toList
  | report => (Text.filledLines output.toList).filterMap report.line?

end TextReport
end LintTools
