import LintTools.Double.Basic

/-! TOML values. Dates and times are only told apart from other values; numbers that are not finite
are one case. A number may be well spelled and still have no value; that is no fault of the document
as long as nobody asks for it. -/
namespace LintTools.Toml

inductive Value where
  | text (value : String)
  | whole (value : Int)
  /-- A finite number, or `none` for an infinity or a result that is no number. -/
  | real (value : Option Double)
  /-- A number without a value: out of range, or with digits that its base does not have. -/
  | unreadable
  | flag (value : Bool)
  | moment
  | array (items : List Value)
  | table (entries : List (String × Value))
  deriving Inhabited

mutual

def Value.isReadable : Value → Bool
  | .unreadable => false
  | .array items => areReadable items
  | .table entries => entriesReadable entries
  | _ => true

def areReadable : List Value → Bool
  | [] => true
  | value :: rest => value.isReadable && areReadable rest

def entriesReadable : List (String × Value) → Bool
  | [] => true
  | (_, value) :: rest => value.isReadable && entriesReadable rest

end

abbrev Reader (α : Type) := List Char → Option (α × List Char)

def isLayout (c : Char) : Bool := c = ' ' || c = '\t'

def skipLayout (cs : List Char) : List Char := cs.dropWhile isLayout

def isControl (c : Char) : Bool := (c.toNat < 0x20 && c != '\t') || c.toNat == 0x7F

def newline? : List Char → Option (List Char)
  | '\n' :: rest => some rest
  | '\r' :: '\n' :: rest => some rest
  | _ => none

def skipComment (cs : List Char) : List Char :=
  match cs with
  | '#' :: rest => rest.dropWhile fun c => !isControl c
  | _ => cs

end LintTools.Toml
