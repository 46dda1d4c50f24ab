import LintTools.Json.Printer
import LintTools.Text.Blank
import LintTools.Text.Quoted

/-! A command as its arguments, ready to be run, and the line that shows it. -/
namespace LintTools

abbrev Command := List String

namespace Command

def argument (text : String) : List Char :=
  let cs := text.toList
  if cs.isEmpty || cs.any Text.isBlank then Text.quoted cs else cs

def display (command : Command) : String :=
  String.ofList ([' '].intercalate (command.map argument))

def json (command : Command) : Json := .arr (command.map .str)

end Command
end LintTools
