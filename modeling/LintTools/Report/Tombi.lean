import LintTools.Report.Line

/-! Reports in blocks: a header line with a level and a message, then lines with the place of the
finding or more of its message. Terminal colours are taken out first. -/
namespace LintTools.Report.Tombi
open Text

def colourLength? (cs : List Char) : Option Nat :=
  match cs with
  | '\x1b' :: '[' :: rest =>
    let body := rest.takeWhile fun c => isDigit c || c = ';'
    match rest.dropWhile fun c => isDigit c || c = ';' with
    | 'm' :: _ => some (body.length + 3)
    | _ => none
  | _ => none

def dropColours : (skip : Nat) → List Char → List Char
  | _, [] => []
  | skip + 1, _ :: rest => dropColours skip rest
  | 0, c :: rest =>
    match colourLength? (c :: rest) with
    | some length => dropColours (length - 1) rest
    | none => c :: dropColours 0 rest

def levels : List (String × Severity) :=
  [("error", .error), ("warning", .warning), ("info", .notice), ("hint", .note), ("note", .note)]

def afterWord? (word : String) (cs : List Char) : Option (List Char) :=
  if sameAscii (cs.take word.length) word.toList then some (cs.drop word.length) else none

def header? (line : List Char) : Option Diagnostic := do
  let (severity, cs) ← levels.findSome? fun (word, severity) =>
    ((afterWord? word line).bind (after? [':'])).map (severity, ·)
  let message ← rest? (dropBlank cs)
  return {
    severity := some severity.label
    tool := some "tombi"
    message := String.ofList (strip message) }

def positionAtEnd? (cs : List Char) : Option (Option (List Char) × Option (List Char)) :=
  if cs.isEmpty then some (none, none)
  else do
    let (line, cs) ← digits? (← after? [':'] cs)
    if cs.isEmpty then return (some line, none)
    let (column, cs) ← digits? (← after? [':'] cs)
    if cs.isEmpty then return (some line, some column) else none

/-- File, line and column of a place line `at file:line:column`. -/
def place? (line : List Char) :
    Option (List Char × Option (List Char) × Option (List Char)) := do
  match ← blanks? (← afterWord? "at" line) with
  | [] => none
  | c :: rest =>
    let (file, position) ← firstCut? positionAtEnd? rest
    return (c :: file, position)

def extend (line : List Char) (d : Diagnostic) : Diagnostic :=
  match place? line with
  | some (file, number, column) =>
    { d with
      file := part? file
      line := number.bind readSigned
      column := column.bind readSigned }
  | none => { d with message := d.message ++ " (" ++ String.ofList line ++ ")" }

def diagnosticsFrom : (opened : Option Diagnostic) → List (List Char) → List Diagnostic
  | opened, [] => opened.toList
  | opened, line :: lines =>
    match header? line with
    | some next => opened.toList ++ diagnosticsFrom (some next) lines
    | none => diagnosticsFrom (opened.map (extend line)) lines

def diagnostics (output : List Char) : List Diagnostic :=
  diagnosticsFrom none (filledLines (dropColours 0 output))

end LintTools.Report.Tombi
