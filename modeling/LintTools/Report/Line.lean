import LintTools.Diagnostic.Basic
import LintTools.Report.Severity
import LintTools.Text.DecimalDigit
import LintTools.Text.Run

/-! Lines of text reports. A line holds one diagnostic when it has the form of its tool throughout;
where a form leaves a choice, texts are as short and runs as long as the rest of the line allows.
Lines come without blanks at their ends. -/
namespace LintTools.Report
open Text

def run? (p : Char → Bool) (cs : List Char) : Option (List Char × List Char) :=
  if (cs.takeWhile p).isEmpty then none else some (cs.takeWhile p, cs.dropWhile p)

def blanks? (cs : List Char) : Option (List Char) := (run? isBlank cs).map (·.2)

def digits? (cs : List Char) : Option (List Char × List Char) := run? isDecimalDigit cs

def firstCut? {α : Type} (p : List Char → Option α) : List Char → Option (List Char × α)
  | [] => (p []).map ([], ·)
  | c :: rest =>
    match p (c :: rest) with
    | some found => some ([], found)
    | none => (firstCut? p rest).map fun (before, found) => (c :: before, found)

def part? (cs : List Char) : Option String :=
  if (strip cs).isEmpty then none else some (String.ofList (strip cs))

def isUpperLetter (c : Char) : Bool := 'A' ≤ c && c ≤ 'Z'

def isNotColon (c : Char) : Bool := c != ':'

def rest? (cs : List Char) : Option (List Char) := if cs.isEmpty then none else some cs

def behindColon? (cs : List Char) : Option (List Char) :=
  match dropBlank cs with
  | ':' :: rest => if (dropBlank rest).isEmpty then some [':'] else some (dropBlank rest)
  | cs => rest? cs

def codeRun? (cs : List Char) : Option (List Char × List Char × List Char) := do
  let (letters, cs) ← run? isUpperLetter cs
  let (digits, cs) ← digits? cs
  return (letters, digits, cs)

/-- An optional code and the message behind it. With nothing behind a code its last digit is the
message, if another one is left. -/
def codeAndMessage? (cs : List Char) : Option (Option (List Char) × List Char) :=
  match codeRun? cs with
  | none => (behindColon? cs).map (none, ·)
  | some (letters, digits, rest) =>
    match behindColon? rest with
    | some message => some (some (letters ++ digits), message)
    | none =>
      if digits.length < 2 then (behindColon? cs).map (none, ·)
      else some (some (letters ++ digits.dropLast), digits.drop (digits.length - 1))

/-- `file(line,column): error CODE: message` -/
def tscLine? (cs : List Char) : Option Diagnostic := do
  let (file, cs) ← run? (fun c => c != ':' && c != '(') cs
  let (line, cs) ← digits? (← after? ['('] cs)
  let (column, cs) ← digits? (← after? [','] cs)
  let cs := dropBlank (← after? [')', ':'] cs)
  let (severity, cs) ← ((after? "error".toList cs).map (Severity.error, ·)).or
    ((after? "warning".toList cs).map (Severity.warning, ·))
  let (code, message) ← codeAndMessage? (dropBlank cs)
  return {
    file := part? file
    line := readSigned line
    column := readSigned column
    severity := some severity.label
    code := code.bind part?
    tool := some "tsc"
    message := (part? message).getD "" }

/-- `file:line: message`, with stars that may stand before the message. -/
def lualintLine? (cs : List Char) : Option Diagnostic := do
  let (file, cs) ← run? isNotColon cs
  let (line, cs) ← digits? (← after? [':'] cs)
  let cs := dropBlank (← after? [':'] cs)
  let starred := (after? ['*', '*', '*'] cs).bind fun cs => rest? (dropBlank cs)
  let message ← starred.or (rest? cs)
  return {
    file := part? file
    line := readSigned line
    severity := some Severity.warning.label
    tool := some "lualint"
    message := (part? message).getD "" }

/-- `file:line:column: (CODE) message` -/
def luacheckLine? (cs : List Char) : Option Diagnostic := do
  let (file, cs) ← run? isNotColon cs
  let (line, cs) ← digits? (← after? [':'] cs)
  let (column, cs) ← digits? (← after? [':'] cs)
  let cs ← after? ['('] (← blanks? (← after? [':'] cs))
  let letter ← cs.head?
  let (digits, cs) ← digits? cs.tail
  if !isUpperLetter letter then none
  let message ← rest? (← blanks? (← after? [')'] cs))
  return {
    file := part? file
    line := readSigned line
    column := readSigned column
    severity := some (if letter = 'E' then Severity.error else .warning).label
    code := part? (letter :: digits)
    tool := some "luacheck"
    message := (part? message).getD "" }

def yamllintPlace? (cs : List Char) :
    Option (List Char × List Char × List Char × List Char) := do
  let (line, cs) ← digits? (← after? [':'] cs)
  let (column, cs) ← digits? (← after? [':'] cs)
  let cs ← blanks? (← after? [':'] cs)
  let (level, cs) ← run? (· != ']') (← after? ['['] cs)
  let cs ← blanks? (← after? [']'] cs)
  return (line, column, level, cs)

def codeAtEnd? (cs : List Char) : Option (Option (List Char)) :=
  if cs.isEmpty then some none
  else do
    let (code, cs) ← run? (· != ')') (← after? ['('] (← blanks? cs))
    if cs = [')'] then some (some code) else none

/-- `file:line:column: [level] message (code)`, with or without the code. -/
def yamllintLine? (cs : List Char) : Option Diagnostic := do
  let (file, line, column, level, cs) ← firstCut? yamllintPlace? cs
  let (message, code) ← firstCut? codeAtEnd? cs
  return {
    file := part? file
    line := readSigned line
    column := readSigned column
    severity := some
      (if lower level = "error".toList then Severity.error else Severity.warning).label
    code := code.bind part?
    tool := some "yamllint"
    message := (part? message).getD "" }

def isCodeChar (c : Char) : Bool :=
  isUpperLetter c || ('a' ≤ c && c ≤ 'z') || isDigit c || c = '_' || c = '-'

/-- `file:line CODE: message` -/
def dotenvLine? (cs : List Char) : Option Diagnostic := do
  let (file, cs) ← run? isNotColon cs
  let (line, cs) ← digits? (← after? [':'] cs)
  let (code, cs) ← run? isCodeChar (← blanks? cs)
  let message ← rest? (← blanks? (← after? [':'] cs))
  return {
    file := part? file
    line := readSigned line
    severity := some Severity.warning.label
    code := part? code
    tool := some "dotenv-linter"
    message := (part? message).getD "" }

def confidenceAtEnd? (cs : List Char) : Option (List Char) := do
  let (code, cs) ← run? (· != ']') (← after? ['['] (← blanks? cs))
  let (_, cs) ← digits? (← after? ['['] (← blanks? (← after? [']'] cs)))
  if cs = [']'] then some code else none

def messageAndCode? : List Char → Option (List Char × List Char)
  | [] => none
  | c :: rest => (firstCut? confidenceAtEnd? rest).map fun (message, code) => (c :: message, code)

/-- `file:line:  message  [code] [confidence]`. Blanks before the message belong to it only where
the line has no other reading. -/
def cpplintLine? (cs : List Char) : Option Diagnostic := do
  let (file, cs) ← run? isNotColon cs
  let (line, cs) ← digits? (← after? [':'] cs)
  let cs ← after? [':'] cs
  let count := (cs.takeWhile isBlank).length
  let (message, code) ← (List.range count).findSome? fun kept =>
    messageAndCode? (cs.drop (count - kept))
  return {
    file := part? file
    line := readSigned line
    severity := some Severity.warning.label
    code := part? code
    tool := some "cpplint"
    message := (part? message).getD "" }

end LintTools.Report
