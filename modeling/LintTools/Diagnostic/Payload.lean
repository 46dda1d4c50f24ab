import LintTools.Json.Reader
import LintTools.Text.Blank

/-! Captured output as one JSON value: a single document, or the array of the documents on its
lines. Lines that are no document are passed over. -/
namespace LintTools

inductive InputFormat where
  | document
  | lines
  deriving DecidableEq

namespace InputFormat

def name : InputFormat → String
  | document => "json"
  | lines => "json-lines"

def named? (text : String) : Option InputFormat :=
  if text = "json" then some document
  else if ["json-lines", "jsonlines", "ndjson"].contains text then some lines
  else none

end InputFormat

namespace Payload

def ofLines (output : List Char) : Json := .arr ((Text.filledLines output).filterMap Json.read?)

def load (format : InputFormat) (output : List Char) : Json :=
  match Text.strip output with
  | [] => .arr []
  | text =>
    match format with
    | .lines => ofLines text
    | .document => (Json.read? text).getD (ofLines text)

end Payload
end LintTools
