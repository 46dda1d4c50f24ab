import LintTools.Json.Basic
import LintTools.Text.Blank
import LintTools.Text.Numeral

/-! A diagnostic in the form common to all tools. Lines and columns count from one. -/
namespace LintTools

structure Diagnostic where
  file : Option String := none
  line : Option Int := none
  column : Option Int := none
  severity : Option String := none
  message : String
  code : Option String := none
  tool : Option String := none
  group : Option String := none
  function : Option String := none
  deriving DecidableEq

namespace Diagnostic

/-- A whole number as JSON; numbers here stay within 64 bits. -/
private def number? (n : Option Int) : Option Json := n.bind Json.ofInt?

def attributes (d : Diagnostic) : Entries :=
  [("file", d.file.map Json.str), ("line", number? d.line), ("column", number? d.column),
    ("severity", d.severity.map .str), ("message", some (.str d.message)),
    ("code", d.code.map .str), ("tool", d.tool.map .str), ("group", d.group.map .str),
    ("function", d.function.map .str)].filterMap fun (name, value) => value.map (name, ·)

def json (d : Diagnostic) : Json := .obj d.attributes

def summary (d : Diagnostic) : String :=
  let number := fun (n : Option Int) => n.map fun n => String.ofList (Text.showInteger n)
  let place := Text.join ":" ([d.file, number d.line, number d.column].filterMap id)
  (if place.isEmpty then "" else place ++ ": ") ++
    (match d.severity with
      | some severity => severity ++ " "
      | none => "") ++
    (match d.code with
      | some code => "[" ++ code ++ "] "
      | none => "") ++ d.message

end Diagnostic
end LintTools
