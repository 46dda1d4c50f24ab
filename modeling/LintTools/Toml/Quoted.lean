import LintTools.Json.Reader
import LintTools.Toml.Basic

/-! The four kinds of quoted text in TOML: with escapes or literal, on one line or several. -/
namespace LintTools.Toml

def scalarChar? (n : Nat) : Option Char :=
  if n < 0xD800 ∨ (0xDFFF < n ∧ n < 0x110000) then some (Char.ofNat n) else none

def hexNumber? (cs : List Char) : Option Nat :=
  cs.foldlM (fun n c => (Json.hexValue? c).map (16 * n + ·)) 0

def escape? (c : Char) : Option Char :=
  match c with
  | 'b' => some '\x08'
  | 'e' => some '\x1b'
  | 't' => some '\t'
  | 'n' => some '\n'
  | 'f' => some '\x0c'
  | 'r' => some '\r'
  | '"' => some '"'
  | '\\' => some '\\'
  | _ => none

private def consText (c : Option Char) (tail : Option (List Char × List Char)) :
    Option (List Char × List Char) := do
  let c ← c
  let (text, rest) ← tail
  return (c :: text, rest)

def basicBody? : Reader (List Char)
  | [] => none
  | '"' :: rest => some ([], rest)
  | '\\' :: 'x' :: a :: b :: rest =>
    consText ((hexNumber? [a, b]).bind scalarChar?) (basicBody? rest)
  | '\\' :: 'u' :: a :: b :: c :: d :: rest =>
    consText ((hexNumber? [a, b, c, d]).bind scalarChar?) (basicBody? rest)
  | '\\' :: 'U' :: a :: b :: c :: d :: e :: f :: g :: h :: rest =>
    consText ((hexNumber? [a, b, c, d, e, f, g, h]).bind scalarChar?) (basicBody? rest)
  | '\\' :: c :: rest => consText (escape? c) (basicBody? rest)
  | c :: rest => if isControl c then none else consText (some c) (basicBody? rest)

def literalBody? : Reader (List Char)
  | [] => none
  | '\'' :: rest => some ([], rest)
  | c :: rest => if isControl c then none else consText (some c) (literalBody? rest)

def endsLine (cs : List Char) : Bool := (newline? (skipLayout cs)).isSome

/-- The end of a text on several lines: three closing quotes, with up to two that belong to the
text before them. -/
def closing? (quote : Char) (cs : List Char) : Option (List Char × List Char) :=
  let count := (cs.takeWhile (· = quote)).length
  if count < 3 then none
  else
    let own := min (count - 3) 2
    some (List.replicate own quote, cs.drop (own + 3))

/-- Text with escapes over several lines, whose line ends are kept as they are; `joining` skips the
blanks behind a backslash that ends its line. -/
def longBasicBody? : (joining : Bool) → Reader (List Char)
  | _, [] => none
  | joining, '\r' :: '\n' :: rest =>
    if joining then longBasicBody? true rest
    else consText (some '\r') (consText (some '\n') (longBasicBody? false rest))
  | joining, '\n' :: rest =>
    if joining then longBasicBody? true rest else consText (some '\n') (longBasicBody? false rest)
  | _, '\\' :: 'x' :: a :: b :: rest =>
    consText ((hexNumber? [a, b]).bind scalarChar?) (longBasicBody? false rest)
  | _, '\\' :: 'u' :: a :: b :: c :: d :: rest =>
    consText ((hexNumber? [a, b, c, d]).bind scalarChar?) (longBasicBody? false rest)
  | _, '\\' :: 'U' :: a :: b :: c :: d :: e :: f :: g :: h :: rest =>
    consText ((hexNumber? [a, b, c, d, e, f, g, h]).bind scalarChar?) (longBasicBody? false rest)
  | _, '\\' :: c :: rest =>
    if endsLine (c :: rest) then longBasicBody? true (c :: rest)
    else consText (escape? c) (longBasicBody? false rest)
  | joining, c :: rest =>
    if joining && isLayout c then longBasicBody? true rest
    else match closing? '"' (c :: rest) with
      | some result => some result
      | none => if isControl c then none else consText (some c) (longBasicBody? false rest)

def longLiteralBody? : Reader (List Char)
  | [] => none
  | '\r' :: '\n' :: rest => consText (some '\r') (consText (some '\n') (longLiteralBody? rest))
  | '\n' :: rest => consText (some '\n') (longLiteralBody? rest)
  | c :: rest =>
    match closing? '\'' (c :: rest) with
    | some result => some result
    | none => if isControl c then none else consText (some c) (longLiteralBody? rest)

def dropFirstNewline (cs : List Char) : List Char := (newline? cs).getD cs

def shortText? : Reader String := fun cs =>
  match cs with
  | '"' :: rest => (basicBody? rest).map fun (text, rest) => (String.ofList text, rest)
  | '\'' :: rest => (literalBody? rest).map fun (text, rest) => (String.ofList text, rest)
  | _ => none

def quotedText? : Reader String := fun cs =>
  match cs with
  | '"' :: '"' :: '"' :: rest =>
    (longBasicBody? false (dropFirstNewline rest)).map fun (text, rest) =>
      (String.ofList text, rest)
  | '\'' :: '\'' :: '\'' :: rest =>
    (longLiteralBody? (dropFirstNewline rest)).map fun (text, rest) => (String.ofList text, rest)
  | _ => shortText? cs

end LintTools.Toml
