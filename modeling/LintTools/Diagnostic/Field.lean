import LintTools.Catalog.Entry
import LintTools.JsonPath.Written

/-! How one attribute of a diagnostic is drawn from an item: a constant, or the value at a path,
looked up in a dictionary whose keys ignore case, with a default behind both. -/
namespace LintTools

inductive Field where
  | file | line | column | code | message | severity | tool | group | function
  deriving DecidableEq

namespace Field

def all : List Field := [file, line, column, code, message, severity, tool, group, function]

def name : Field → String
  | file => "file"
  | line => "line"
  | column => "column"
  | code => "code"
  | message => "message"
  | severity => "severity"
  | tool => "tool"
  | group => "group"
  | function => "function"

def named? (text : String) : Option Field := all.find? (·.name = text)

end Field

inductive FieldRule.Source where
  | constant (value : Json)
  | path (path : Option JsonPath)

structure FieldRule where
  source : FieldRule.Source
  stock : Option Json
  dictionary : Entries

namespace FieldRule

def context : String := "parser_json_diagnostics"

def readPath (wildcards : Bool) (path : String) : Checked JsonPath :=
  match JsonPath.read wildcards path with
  | .ok path => .ok path
  | .error error => fault context (.badPath error)

def dictionaryOf (entries : Entries) : Entries :=
  Entries.ofPairs (entries.flatMap fun (key, value) =>
    [(Text.caselessKey key, value), (key, value)])

def readEntry (field : Field) (entry : Entries) : Checked FieldRule := do
  let path ← match entry.get? "path" with
    | none | some .null => pure none
    | some (.str path) => some <$> readPath false path
    | some _ => fault context (.fieldPathShape field.name)
  let dictionary ← match entry.get? "map" with
    | none | some .null => pure []
    | some (.obj entries) => pure (dictionaryOf entries)
    | some _ => fault context (.fieldMapShape field.name)
  return {
    dictionary
    source := match entry.get? "value" with
      | some value => .constant value
      | none => .path path
    stock := Json.present (entry.get? "default") }

def read (field : Field) (value : Json) : Checked FieldRule :=
  match value with
  | .str path => do return ⟨.path (some (← readPath false path)), none, []⟩
  | .obj entry => readEntry field entry
  | _ => fault context (.mustBe s!"mapping for field '{field.name}'" .textOrObject)

def inDictionary? (rule : FieldRule) (value : Json) : Option Json :=
  Json.present (match value with
    | .str text =>
      (rule.dictionary.get? (Text.caselessKey text)).or (rule.dictionary.get? text)
    | other => rule.dictionary.get? (Text.caselessKey other.display))

def value? (rule : FieldRule) (item : Json) : Option Json :=
  match rule.source with
  | .constant value => Json.present (some value)
  | .path path =>
    match Json.present (path.bind fun path => path.value? item) with
    | none => rule.stock
    | some value =>
      if rule.dictionary.isEmpty then some value
      else (rule.inDictionary? value).or rule.stock

end FieldRule
end LintTools
