import LintTools.Double.Basic

/-! JSON values. Numbers are whole numbers of 64 bits, signed or not, or doubles; the entries of an
object stand in the order of their names, each name once. -/
namespace LintTools

inductive Number where
  | whole (value : Int)
      (inRange : -9223372036854775808 ≤ value ∧ value < 18446744073709551616)
  | double (value : Double)
  deriving DecidableEq

inductive Json where
  | null
  | bool (value : Bool)
  | num (value : Number)
  | str (value : String)
  | arr (items : List Json)
  | obj (entries : List (String × Json))
  deriving Inhabited

abbrev Entries := List (String × Json)

namespace Entries

def get? (entries : Entries) (name : String) : Option Json := entries.lookup name

def insert (name : String) (value : Json) : Entries → Entries
  | [] => [(name, value)]
  | (other, old) :: rest =>
    match compare name other with
    | .lt => (name, value) :: (other, old) :: rest
    | .eq => (name, value) :: rest
    | .gt => (other, old) :: insert name value rest

def ofPairs (pairs : List (String × Json)) : Entries :=
  pairs.foldl (fun entries (name, value) => entries.insert name value) []

end Entries

namespace Json

def isNull : Json → Bool
  | null => true
  | _ => false

def entries? : Json → Option Entries
  | obj entries => some entries
  | _ => none

def items? : Json → Option (List Json)
  | arr items => some items
  | _ => none

def text? : Json → Option String
  | str text => some text
  | _ => none

def get? (value : Json) (name : String) : Option Json :=
  value.entries?.bind (·.get? name)

def follow? (value : Json) (names : List String) : Option Json :=
  names.foldlM (fun value name => value.get? name) value

def isObject (value : Json) : Bool := value.entries?.isSome

def present (value : Option Json) : Option Json := value.filter (!·.isNull)

def ofInt? (n : Int) : Option Json :=
  if h : -9223372036854775808 ≤ n ∧ n < 18446744073709551616 then some (num (.whole n h))
  else none

end Json
end LintTools
