import LintTools.Json.Numeral

/-! JSON documents from text. Containers nest at most 127 deep, lone surrogates are refused, and
nothing but white space may follow the value. Reading is bounded by twice the length of the text,
as every second call takes a character. -/
namespace LintTools.Json

def isSpace (c : Char) : Bool := c = ' ' || c = '\t' || c = '\n' || c = '\r'

def skipSpace (cs : List Char) : List Char := cs.dropWhile isSpace

def hexValue? (c : Char) : Option Nat :=
  if '0' ≤ c ∧ c ≤ '9' then some (c.toNat - 48)
  else if 'a' ≤ c ∧ c ≤ 'f' then some (c.toNat - 87)
  else if 'A' ≤ c ∧ c ≤ 'F' then some (c.toNat - 55)
  else none

def hexUnit? (a b c d : Char) : Option Nat := do
  return 4096 * (← hexValue? a) + 256 * (← hexValue? b) + 16 * (← hexValue? c) + (← hexValue? d)

def isHighSurrogate (unit : Nat) : Bool := 0xD800 ≤ unit && unit ≤ 0xDBFF

def isLowSurrogate (unit : Nat) : Bool := 0xDC00 ≤ unit && unit ≤ 0xDFFF

def pairChar? (high low : Nat) : Option Char :=
  if isHighSurrogate high && isLowSurrogate low then
    some (Char.ofNat (0x10000 + 1024 * (high - 0xD800) + (low - 0xDC00)))
  else none

def unitChar? (unit : Nat) : Option Char :=
  if isHighSurrogate unit || isLowSurrogate unit then none else some (Char.ofNat unit)

def simpleEscape? (c : Char) : Option Char :=
  match c with
  | '"' => some '"'
  | '\\' => some '\\'
  | '/' => some '/'
  | 'b' => some '\x08'
  | 'f' => some '\x0c'
  | 'n' => some '\n'
  | 'r' => some '\r'
  | 't' => some '\t'
  | _ => none

def consText (c : Option Char) (tail : Option (List Char × List Char)) :
    Option (List Char × List Char) := do
  let c ← c
  let (text, rest) ← tail
  return (c :: text, rest)

def stringBody? : List Char → Option (List Char × List Char)
  | [] => none
  | '"' :: rest => some ([], rest)
  | '\\' :: 'u' :: a :: b :: c :: d :: '\\' :: 'u' :: e :: f :: g :: h :: rest =>
    match hexUnit? a b c d with
    | none => none
    | some unit =>
      if isHighSurrogate unit then
        consText ((hexUnit? e f g h).bind (pairChar? unit)) (stringBody? rest)
      else consText (unitChar? unit) (stringBody? ('\\' :: 'u' :: e :: f :: g :: h :: rest))
  | '\\' :: 'u' :: a :: b :: c :: d :: rest =>
    consText ((hexUnit? a b c d).bind unitChar?) (stringBody? rest)
  | '\\' :: c :: rest => consText (simpleEscape? c) (stringBody? rest)
  | c :: rest => if c.toNat < 0x20 then none else consText (some c) (stringBody? rest)

def scalar? (cs : List Char) : Option (Json × List Char) :=
  match cs with
  | '"' :: rest => (stringBody? rest).map fun (text, rest) => (str (String.ofList text), rest)
  | 'n' :: 'u' :: 'l' :: 'l' :: rest => some (null, rest)
  | 't' :: 'r' :: 'u' :: 'e' :: rest => some (bool true, rest)
  | 'f' :: 'a' :: 'l' :: 's' :: 'e' :: rest => some (bool false, rest)
  | _ => do
    let (literal, rest) ← literal? cs
    return (num (← literal.number?), rest)

mutual

/-- The value at the start of `cs`, with `depth - 1` containers still allowed to open. -/
def value? : (fuel depth : Nat) → List Char → Option (Json × List Char)
  | 0, _, _ => none
  | fuel + 1, depth, cs =>
    match skipSpace cs with
    | '{' :: rest =>
      if depth ≤ 1 then none
      else match skipSpace rest with
        | '}' :: rest => some (obj [], rest)
        | _ => (members? fuel (depth - 1) rest).map fun (pairs, rest) =>
          (obj (Entries.ofPairs pairs), rest)
    | '[' :: rest =>
      if depth ≤ 1 then none
      else match skipSpace rest with
        | ']' :: rest => some (arr [], rest)
        | _ => (elements? fuel (depth - 1) rest).map fun (items, rest) => (arr items, rest)
    | rest => scalar? rest

def elements? : (fuel depth : Nat) → List Char → Option (List Json × List Char)
  | 0, _, _ => none
  | fuel + 1, depth, cs => do
    let (item, rest) ← value? fuel depth cs
    match skipSpace rest with
    | ',' :: rest =>
      let (items, rest) ← elements? fuel depth rest
      return (item :: items, rest)
    | ']' :: rest => return ([item], rest)
    | _ => none

def members? : (fuel depth : Nat) → List Char → Option (List (String × Json) × List Char)
  | 0, _, _ => none
  | fuel + 1, depth, cs =>
    match skipSpace cs with
    | '"' :: rest => do
      let (name, rest) ← stringBody? rest
      match skipSpace rest with
      | ':' :: rest =>
        let (item, rest) ← value? fuel depth rest
        let entry := (String.ofList name, item)
        match skipSpace rest with
        | ',' :: rest =>
          let (entries, rest) ← members? fuel depth rest
          return (entry :: entries, rest)
        | '}' :: rest => return ([entry], rest)
        | _ => none
      | _ => none
    | _ => none

end

def nestingLimit : Nat := 128

def read? (cs : List Char) : Option Json :=
  match value? (2 * cs.length + 2) nestingLimit cs with
  | some (value, rest) => if (skipSpace rest).isEmpty then some value else none
  | none => none

def parse? (text : String) : Option Json := read? text.toList

end LintTools.Json
