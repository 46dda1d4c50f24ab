import LintTools.Diagnostic.Basic
import LintTools.Diagnostic.Field
import LintTools.Diagnostic.Payload

/-! Diagnostics from JSON output by a table of field rules. An item without a message is passed
over; every other attribute is drawn on its own. -/
namespace LintTools

structure Extractor where
  itemPath : Option JsonPath
  format : InputFormat
  rules : List (Field × FieldRule)

namespace Extractor

def context : String := FieldRule.context

def readItemPath (entry : Entries) : Checked (Option JsonPath) :=
  match entry.get? "path" with
  | none | some .null => .ok none
  | some (.str path) =>
    if (Text.trim path).isEmpty then .ok none else some <$> FieldRule.readPath true path
  | some _ => fault context (.mustBe "'path'" .text)

def readFormat (entry : Entries) : Checked InputFormat :=
  match entry.get? "inputFormat" with
  | none | some .null => .ok .document
  | some (.str raw) =>
    match InputFormat.named? (String.ofList (Text.lower (Text.strip raw.toList))) with
    | some format => .ok format
    | none => fault context .inputFormat
  | some _ => fault context (.mustBeWhenProvided "'inputFormat'" .text)

def readRule (name : String) (value : Json) : Checked (Field × FieldRule) := do
  match Field.named? name with
  | some field => return (field, ← FieldRule.read field value)
  | none => fault context (.unsupportedField name)

def read (config : Json) : Checked Extractor := do
  let entry ← requireObject config context (.mustBe "configuration" .object)
  let itemPath ← readItemPath entry
  let format ← readFormat entry
  let mappings ← requireObjectAt entry "mappings" context
  let rules ← mappings.mapM fun (name, value) => readRule name value
  if (rules.lookup .message).isNone then fault context .messageMissing
  else return { itemPath, format, rules }

def items (e : Extractor) (payload : Json) : List Json :=
  match e.itemPath, payload with
  | some path, payload => path.values payload
  | none, .arr items => items
  | none, .null => []
  | none, payload => [payload]

def field? (e : Extractor) (field : Field) (item : Json) : Option Json :=
  (e.rules.lookup field).bind fun rule => rule.value? item

def message? (e : Extractor) (item : Json) : Option String :=
  ((e.field? .message item).map (·.display)).filter (!·.isEmpty)

def diagnostic? (e : Extractor) (item : Json) : Option Diagnostic :=
  (e.message? item).map fun message =>
    let text := fun field => (e.field? field item).bind (·.display?)
    let number := fun field => (e.field? field item).bind (·.toInt?)
    { message
      file := text .file
      line := number .line
      column := number .column
      severity := text .severity
      code := text .code
      tool := text .tool
      group := text .group
      function := text .function }

def diagnostics (e : Extractor) (payload : Json) : List Diagnostic :=
  ((e.items payload).filter (·.isObject)).filterMap e.diagnostic?

def parse (e : Extractor) (output : String) : List Diagnostic :=
  e.diagnostics (Payload.load e.format output.toList)

end Extractor
end LintTools
