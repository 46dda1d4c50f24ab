import LintTools.Path.Basic
import LintTools.Text.Run

/-! What the command line asks for: to show the command of a tool, or to show the diagnostics in its
output. Arguments are read in one pass; any that do not fit make the whole request void. -/
namespace LintTools.CommandLine

inductive OutputStyle where
  | json | raw
  deriving DecidableEq

structure BuildRequest where
  definition : Path
  files : List Path
  root : Path
  settings : Option Path
  config : Option Path
  binary : Option Path
  style : OutputStyle

structure ParseRequest where
  definition : Path
  input : Option Path
  root : Path
  style : OutputStyle

inductive Request where
  | build (request : BuildRequest)
  | parse (request : ParseRequest)

structure Words where
  options : List (String × String)
  others : List String

def Words.addOption? (words : Words) (name value : String) : Option Words :=
  if (words.options.lookup name).isSome then none
  else some { words with options := (name, value) :: words.options }

def Words.addOther (words : Words) (word : String) : Words :=
  { words with others := words.others ++ [word] }

def isPlain (word : String) : Bool :=
  match word.toList with
  | '-' :: _ :: _ => false
  | _ => true

def optionName (cs : List Char) : String := String.ofList (cs.takeWhile (· != '='))

def fusedValue? (cs : List Char) : Option String :=
  match cs.dropWhile (· != '=') with
  | _ :: value => some (String.ofList value)
  | [] => none

/-- Gathers words; every option in `known` takes a value, and `-o` is short for `--output`. -/
def gather? (known : List String) : Words → List String → Option Words
  | words, [] => some words
  | words, word :: rest =>
    match word.toList with
    | ['-', '-'] => some (rest.foldl Words.addOther words)
    | '-' :: '-' :: text =>
      let name := optionName text
      if known.contains name then
        match fusedValue? text with
        | some value => (words.addOption? name value).bind fun words => gather? known words rest
        | none =>
          match rest with
          | value :: rest =>
            if isPlain value then
              (words.addOption? name value).bind fun words => gather? known words rest
            else none
          | [] => none
      else none
    | '-' :: 'o' :: '=' :: value =>
      (words.addOption? "output" (String.ofList value)).bind fun words => gather? known words rest
    | ['-', 'o'] =>
      match rest with
      | value :: rest =>
        if isPlain value then
          (words.addOption? "output" value).bind fun words => gather? known words rest
        else none
      | [] => none
    | '-' :: 'o' :: value =>
      (words.addOption? "output" (String.ofList value)).bind fun words => gather? known words rest
    | '-' :: _ :: _ => none
    | _ => gather? known (words.addOther word) rest

def path? (word : String) : Option Path := if word.isEmpty then none else some ⟨word⟩

def Words.optionalPath? (words : Words) (name : String) : Option (Option Path) :=
  match words.options.lookup name with
  | none => some none
  | some value => (path? value).map some

def Words.root? (words : Words) : Option Path :=
  (words.optionalPath? "root").map (·.getD ⟨"."⟩)

def Words.style? (words : Words) : Option OutputStyle :=
  match words.options.lookup "output" with
  | none => some .raw
  | some value => if value = "json" then some .json else if value = "raw" then some .raw else none

def readBuild? (args : List String) : Option Request := do
  let words ← gather? ["root", "settings", "config", "binary", "output"] ⟨[], []⟩ args
  match ← words.others.mapM path? with
  | [] => none
  | definition :: files =>
    return .build {
      definition, files
      root := ← words.root?
      settings := ← words.optionalPath? "settings"
      config := ← words.optionalPath? "config"
      binary := ← words.optionalPath? "binary"
      style := ← words.style? }

def readParse? (args : List String) : Option Request := do
  let words ← gather? ["input", "root", "output"] ⟨[], []⟩ args
  match ← words.others.mapM path? with
  | [definition] =>
    return .parse {
      definition
      input := ← words.optionalPath? "input"
      root := ← words.root?
      style := ← words.style? }
  | _ => none

def Request.read? : List String → Option Request
  | "build" :: args => readBuild? args
  | "parse" :: args => readParse? args
  | _ => none

end LintTools.CommandLine
