import LintTools.Catalog.Integrity
import LintTools.Json.Coerce

/-! Shape checks on catalog entries. For optional keys a null is as good as an absent key, but not
for flags and loose lists: these go by their stock value only when the key is absent. -/
namespace LintTools

def requireObject (value : Json) (context : String) (reason : Reason) : Checked Entries :=
  match value with
  | .obj entries => .ok entries
  | _ => fault context reason

def requireObjectAt (entry : Entries) (key context : String) : Checked Entries :=
  match entry.get? key with
  | some (.obj entries) => .ok entries
  | _ => fault context (.mustBe s!"'{key}'" .object)

def optionalTextOr (reason : Reason) (value : Option Json) (context : String) :
    Checked (Option String) :=
  match value with
  | none | some .null => .ok none
  | some (.str text) => .ok (some text)
  | some _ => fault context reason

def optionalText (entry : Entries) (key context : String) : Checked (Option String) :=
  optionalTextOr (.mustBeWhenProvided s!"'{key}'" .text) (entry.get? key) context

def optionalTrimmed (entry : Entries) (key context : String) : Checked (Option String) := do
  let text ← optionalText entry key context
  return (text.map Text.trim).filter (!·.isEmpty)

def optionalFilled (entry : Entries) (key context : String) : Checked (Option String) :=
  let reason := Reason.mustBeWhenProvided s!"'{key}'" .filledText
  match entry.get? key with
  | none | some .null => .ok none
  | some (.str text) => if (Text.trim text).isEmpty then fault context reason else .ok (some text)
  | some _ => fault context reason

def filledTextOr (stock : String) (reason : Reason) (value : Option Json) (context : String) :
    Checked String :=
  match value with
  | none | some .null => .ok stock
  | some (.str text) => if text.isEmpty then fault context reason else .ok text
  | some _ => fault context reason

/-- A text or an array, whose elements are shown as texts. A null is of the wrong shape. -/
def looseTexts (value : Option Json) (context : String) (reason : Reason) :
    Checked (List String) :=
  match value with
  | none => .ok []
  | some (.str text) => .ok [text]
  | some (.arr items) => .ok (items.filterMap Json.display?)
  | some _ => fault context reason

def textsFrom (field context : String) : (index : Nat) → List Json → Checked (List String)
  | _, [] => .ok []
  | index, .str text :: rest => do return text :: (← textsFrom field context (index + 1) rest)
  | index, _ :: _ => fault context (.expected s!"{field}[{index}]" .text)

def strictTexts (value : Option Json) (field context : String) : Checked (List String) :=
  match value with
  | none | some .null => .ok []
  | some (.str text) => .ok [text]
  | some (.arr items) => textsFrom field context 0 items
  | some _ => fault context (.mustBe s!"'{field}'" .textOrTexts)

def requireArguments (entry : Entries) (key context : String) : Checked (List String) :=
  match entry.get? key with
  | some (.arr []) => fault context (.noArgument key)
  | some (.arr items) => .ok (items.map Json.display)
  | _ => fault context (.expected key .arguments)

def lenientFlag (entry : Entries) (key : String) (stock : Bool) : Bool :=
  match entry.get? key with
  | none => stock
  | some value => value.isTruthy

def strictFlag (entry : Entries) (key : String) (stock : Bool) (context : String) : Checked Bool :=
  match entry.get? key with
  | none => .ok stock
  | some (.bool flag) => .ok flag
  | some _ => fault context (.mustBe s!"'{key}'" .flag)

end LintTools
