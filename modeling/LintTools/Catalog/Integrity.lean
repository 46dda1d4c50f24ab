import LintTools.JsonPath.Written

/-! What can be wrong with a catalog entry. A fault names the place of the entry and the reason;
each reason has one wording. -/
namespace LintTools

inductive Shape where
  | object | text | filledText | textOrTexts | textList | arguments | flag | array | objects
  | textOrObject

def Shape.wording : Shape → String
  | object => "an object"
  | text => "a string"
  | filledText => "a non-empty string"
  | textOrTexts => "a string or array of strings"
  | textList => "string or array of strings"
  | arguments => "an array of arguments"
  | flag => "a boolean"
  | array => "an array"
  | objects => "an array of objects"
  | textOrObject => "a string or object"

inductive Reason where
  | mustBe (subject : String) (shape : Shape)
  | mustBeWhenProvided (subject : String) (shape : Shape)
  | expected (subject : String) (shape : Shape)
  | noArgument (key : String)
  | noSettingName
  | unsupported (kind name : String)
  | unknown (kind name : String)
  | unsupportedField (name : String)
  | fieldPathShape (field : String)
  | fieldMapShape (field : String)
  | messageMissing
  | inputFormat
  | flagMissing
  | notACommand
  | notAParser
  | notAnInstaller
  | badPath (error : JsonPath.Error)
  | stated (text : String)

def Reason.wording : Reason → String
  | mustBe subject shape =>
    (if subject.isEmpty then "" else subject ++ " ") ++ "must be " ++ shape.wording
  | mustBeWhenProvided subject shape => s!"{subject} must be {shape.wording} when provided"
  | expected subject shape => s!"expected '{subject}' to be {shape.wording}"
  | noArgument key => s!"'{key}' must contain at least one argument"
  | noSettingName => "'setting' must provide at least one entry"
  | unsupported kind name => s!"unsupported {kind} '{name}'"
  | unknown kind name => s!"unknown {kind} '{name}'"
  | unsupportedField name => s!"unsupported field '{name}' in mappings"
  | fieldPathShape field => s!"field '{field}' has non-string 'path' configuration"
  | fieldMapShape field => s!"field '{field}' has non-object 'map' configuration"
  | messageMissing => "missing required field mapping(s): message"
  | inputFormat => "'inputFormat' must be one of 'json' or 'json-lines'"
  | flagMissing => "repeatFlag requires a 'flag' entry"
  | notACommand => "strategy does not build commands"
  | notAParser => "strategy does not parse diagnostics"
  | notAnInstaller => "strategy does not install artifacts"
  | badPath error => error.message
  | stated text => text

structure Fault where
  context : String
  reason : Reason

def Fault.message (fault : Fault) : String := s!"{fault.context}: {fault.reason.wording}"

abbrev Checked (α : Type) := Except Fault α

def fault {α : Type} (context : String) (reason : Reason) : Checked α := .error ⟨context, reason⟩

end LintTools
