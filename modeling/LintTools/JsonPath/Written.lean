import LintTools.JsonPath.Basic
import LintTools.Text.Blank
import LintTools.Text.Numeral

/-! The written form of paths: keys behind points, keys and positions in brackets, quotes around
what is taken literally. Reading goes through the text once; writing gives a form that reads
back. -/
namespace LintTools.JsonPath

inductive Error where
  | unmatchedBracket (path : String)
  | wildcardNotPermitted (path : String)
  deriving DecidableEq

def Error.message : Error → String
  | .unmatchedBracket path => s!"unmatched '[' in path '{path}'"
  | .wildcardNotPermitted path => s!"wildcards are not permitted in field paths ('{path}')"

def Step.text : Step → List Char
  | .key name =>
    let cs := name.toList
    if cs.any fun c => c = '.' || c = '[' || c = ']' then ['[', '"'] ++ cs ++ ['"', ']']
    else '.' :: cs
  | .index position => '[' :: Text.showInteger position ++ [']']
  | .every => ['[', '*', ']']

def text (path : JsonPath) : String := String.ofList ('$' :: path.steps.flatMap Step.text)

def readIndex? (cs : List Char) : Option Int :=
  match cs with
  | '+' :: _ => none
  | _ => Text.readSigned cs

def unquote (cs : List Char) : List Char :=
  match cs with
  | '"' :: rest =>
    match rest.reverse with
    | '"' :: inner => inner.reverse
    | _ => cs
  | _ => cs

def bracketStep (wildcards : Bool) (path : String) (content : List Char) : Except Error Step :=
  if content = [] ∨ content = ['*'] then
    if wildcards then .ok .every else .error (.wildcardNotPermitted path)
  else
    let cleaned := unquote content
    match readIndex? cleaned with
    | some position => .ok (.index position)
    | none => .ok (.key (String.ofList cleaned))

def keyStep (gathered : List Char) : List Step :=
  let key := Text.strip gathered
  if key.isEmpty then [] else [.key (String.ofList key)]

inductive Place where
  | keys | quote | bracket

/-- Reads the rest of a path behind the characters `gathered` for the present step. A quote or
bracket is entered only when it will be closed. -/
def scan (wildcards : Bool) (path : String) :
    Place → (gathered : List Char) → List Char → Except Error (List Step)
  | .keys, gathered, [] => .ok (keyStep gathered)
  | .quote, gathered, [] => .ok (keyStep gathered)
  | .bracket, _, [] => .error (.unmatchedBracket path)
  | .quote, gathered, c :: rest =>
    if c = '"' then scan wildcards path .keys gathered rest
    else scan wildcards path .quote (gathered ++ [c]) rest
  | .bracket, gathered, c :: rest =>
    if c = ']' then do
      let step ← bracketStep wildcards path (Text.strip gathered)
      return step :: (← scan wildcards path .keys [] rest)
    else scan wildcards path .bracket (gathered ++ [c]) rest
  | .keys, gathered, c :: rest =>
    if c = '.' then do return keyStep gathered ++ (← scan wildcards path .keys [] rest)
    else if c = '"' ∧ rest.contains '"' then scan wildcards path .quote gathered rest
    else if c = '[' then
      if rest.contains ']' then do
        return keyStep gathered ++ (← scan wildcards path .bracket [] rest)
      else .error (.unmatchedBracket path)
    else scan wildcards path .keys (gathered ++ [c]) rest

def Step.isRoot (step : Step) : Bool := step = .key "" || step = .key "$"

def read (wildcards : Bool) (path : String) : Except Error JsonPath := do
  let steps ← scan wildcards path .keys [] (Text.strip path.toList)
  return ⟨steps.filter (!·.isRoot)⟩

end LintTools.JsonPath
