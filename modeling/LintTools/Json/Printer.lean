import LintTools.Double.Shortest
import LintTools.Json.Basic
import LintTools.Text.Numeral

/-! Compact JSON text: no spaces, and escapes only where a character may not stand for itself. -/
namespace LintTools

def Number.text : Number → List Char
  | .whole value _ => Text.showInteger value
  | .double value => value.text

namespace Json

def escape (c : Char) : List Char :=
  match c with
  | '"' => ['\\', '"']
  | '\\' => ['\\', '\\']
  | '\x08' => ['\\', 'b']
  | '\x0c' => ['\\', 'f']
  | '\n' => ['\\', 'n']
  | '\r' => ['\\', 'r']
  | '\t' => ['\\', 't']
  | c =>
    if c.toNat < 0x20 then
      ['\\', 'u', '0', '0', Nat.digitChar (c.toNat / 16), Nat.digitChar (c.toNat % 16)]
    else [c]

def stringText (text : String) : List Char := '"' :: text.toList.flatMap escape ++ ['"']

mutual

def chars : Json → List Char
  | null => ['n', 'u', 'l', 'l']
  | bool true => ['t', 'r', 'u', 'e']
  | bool false => ['f', 'a', 'l', 's', 'e']
  | num value => value.text
  | str text => stringText text
  | arr items => '[' :: itemChars items ++ [']']
  | obj entries => '\x7b' :: entryChars entries ++ ['\x7d']

def itemChars : List Json → List Char
  | [] => []
  | [item] => chars item
  | item :: others => chars item ++ ',' :: itemChars others

def entryChars : List (String × Json) → List Char
  | [] => []
  | [(name, value)] => stringText name ++ ':' :: chars value
  | (name, value) :: others => stringText name ++ ':' :: chars value ++ ',' :: entryChars others

end

def text (value : Json) : String := String.ofList value.chars

end Json
end LintTools
