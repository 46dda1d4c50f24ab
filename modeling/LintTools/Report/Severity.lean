import LintTools.Text.Case

/-! The severities of built-in reports, from rule codes and from the labels of each tool. -/
namespace LintTools

inductive Severity where
  | error | warning | notice | note
  deriving DecidableEq

namespace Severity

def all : List Severity := [error, warning, notice, note]

def label : Severity → String
  | error => "error"
  | warning => "warning"
  | notice => "notice"
  | note => "note"

def named? (text : String) : Option Severity := all.find? (·.label = text)

/-- Codes that begin with E or F are errors and with W warnings, in either case; others have the
`stock` severity. -/
def ofCode (code : Option String) (stock : Severity) : Severity :=
  match code.bind fun code => code.toList.head? with
  | none => stock
  | some first =>
    let first := Text.asciiUpper first
    if first = 'E' ∨ first = 'F' then error else if first = 'W' then warning else stock

def ofLabel (known : List (String × Severity)) (other : Severity) (label : String) : Severity :=
  (known.lookup (String.ofList (Text.lower label.toList))).getD other

end Severity
end LintTools
