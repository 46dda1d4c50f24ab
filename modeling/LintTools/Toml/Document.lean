import LintTools.Toml.Quoted
import LintTools.Toml.Scalar

/-! TOML documents: statements read line by line, then gathered into one table. A table is opened by
one header only, and keys with points extend only tables that such keys have made. -/
namespace LintTools.Toml

inductive Node where
  | leaf (value : Value)
  /-- A table that no header has opened yet is `implicit`, one made by a key with points also
  `dotted`. -/
  | table (isImplicit dotted : Bool) (entries : List (String × Node))
  | tables (items : List (List (String × Node)))

abbrev Nodes := List (String × Node)

def Nodes.set (name : String) (node : Node) : Nodes → Nodes
  | [] => [(name, node)]
  | (other, old) :: rest =>
    if other = name then (name, node) :: rest else (other, old) :: Nodes.set name node rest

def openTable : List String → Nodes → Option Nodes
  | [], _ => none
  | [name], nodes =>
    match nodes.lookup name with
    | none => some (nodes.set name (.table false false []))
    | some (.table true false inner) => some (nodes.set name (.table false false inner))
    | some _ => none
  | name :: path, nodes =>
    match nodes.lookup name with
    | none => (openTable path []).map fun inner => nodes.set name (.table true false inner)
    | some (.table isImplicit dotted inner) =>
      (openTable path inner).map fun inner => nodes.set name (.table isImplicit dotted inner)
    | some (.tables (latest :: older)) =>
      (openTable path latest).map fun latest => nodes.set name (.tables (latest :: older))
    | some _ => none

def appendTable : List String → Nodes → Option Nodes
  | [], _ => none
  | [name], nodes =>
    match nodes.lookup name with
    | none => some (nodes.set name (.tables [[]]))
    | some (.tables items) => some (nodes.set name (.tables ([] :: items)))
    | some _ => none
  | name :: path, nodes =>
    match nodes.lookup name with
    | none => (appendTable path []).map fun inner => nodes.set name (.table true false inner)
    | some (.table isImplicit dotted inner) =>
      (appendTable path inner).map fun inner => nodes.set name (.table isImplicit dotted inner)
    | some (.tables (latest :: older)) =>
      (appendTable path latest).map fun latest => nodes.set name (.tables (latest :: older))
    | some _ => none

def putValue (value : Value) : (fits : Bool) → List String → Nodes → Option Nodes
  | _, [], _ => none
  | fits, [name], nodes =>
    if fits && (nodes.lookup name).isNone then some (nodes.set name (.leaf value)) else none
  | _, name :: path, nodes =>
    match nodes.lookup name with
    | none => (putValue value true path []).map fun inner => nodes.set name (.table true true inner)
    | some (.table true dotted inner) =>
      (putValue value dotted path inner).map fun inner =>
        nodes.set name (.table true dotted inner)
    | some (.tables (latest :: older)) =>
      (putValue value false path latest).map fun latest =>
        nodes.set name (.tables (latest :: older))
    | some _ => none

def within (change : Nodes → Option Nodes) : List String → Nodes → Option Nodes
  | [], nodes => change nodes
  | name :: path, nodes =>
    match nodes.lookup name with
    | some (.table isImplicit dotted inner) =>
      (within change path inner).map fun inner => nodes.set name (.table isImplicit dotted inner)
    | some (.tables (latest :: older)) =>
      (within change path latest).map fun latest => nodes.set name (.tables (latest :: older))
    | _ => none

mutual

def Node.value : Node → Value
  | .leaf value => value
  | .table _ _ entries => .table (nodeValues entries)
  | .tables items => .array (tableValues items).reverse

def nodeValues : List (String × Node) → List (String × Value)
  | [] => []
  | (name, node) :: rest => (name, node.value) :: nodeValues rest

def tableValues : List (List (String × Node)) → List Value
  | [] => []
  | entries :: rest => .table (nodeValues entries) :: tableValues rest

end

def isBareChar (c : Char) : Bool :=
  ('a' ≤ c && c ≤ 'z') || ('A' ≤ c && c ≤ 'Z') || ('0' ≤ c && c ≤ '9') || c = '_' || c = '-'

def simpleKey? : Reader String := fun cs =>
  match cs.takeWhile isBareChar with
  | [] => shortText? cs
  | bare => some (String.ofList bare, cs.dropWhile isBareChar)

def key? : (fuel : Nat) → Reader (List String)
  | 0, _ => none
  | fuel + 1, cs => do
    let (name, rest) ← simpleKey? (skipLayout cs)
    match skipLayout rest with
    | '.' :: rest =>
      let (path, rest) ← key? fuel rest
      return (name :: path, rest)
    | rest => return ([name], rest)

/-- The greatest number of parts of a key, and of arrays and inline tables inside each other. -/
def nestingLimit : Nat := 80

def path? : Reader (List String) := fun cs =>
  (key? (cs.length + 1) cs).filter (·.1.length ≤ nestingLimit)

def skipLines : (fuel : Nat) → List Char → List Char
  | 0, cs => cs
  | fuel + 1, cs =>
    let cs := skipComment (skipLayout cs)
    match newline? cs with
    | some rest => skipLines fuel rest
    | none => cs

mutual

/-- A value. Each of the three readers calls the next with less fuel, and every second call takes
a character. -/
def value? : (fuel depth : Nat) → Reader Value
  | 0, _, _ => none
  | fuel + 1, depth, cs =>
    match cs with
    | '[' :: rest => if depth = 0 then none else items? fuel (depth - 1) [] rest
    | '{' :: rest =>
      if depth = 0 then none
      else pairs? fuel (depth - 1) [] rest
    | '"' :: _ => (quotedText? cs).map fun (text, rest) => (.text text, rest)
    | '\'' :: _ => (quotedText? cs).map fun (text, rest) => (.text text, rest)
    | _ => scalar? cs

def items? : (fuel depth : Nat) → (read : List Value) → Reader Value
  | 0, _, _, _ => none
  | fuel + 1, depth, read, cs =>
    match skipLines (cs.length + 1) cs with
    | ']' :: rest => some (.array read.reverse, rest)
    | cs => do
      let (value, rest) ← value? fuel depth cs
      match skipLines (rest.length + 1) rest with
      | ',' :: rest => items? fuel depth (value :: read) rest
      | ']' :: rest => return (.array (value :: read).reverse, rest)
      | _ => none

def pairs? : (fuel depth : Nat) → (read : Nodes) → Reader Value
  | 0, _, _, _ => none
  | fuel + 1, depth, read, cs =>
    match skipLines (cs.length + 1) cs with
    | '\x7d' :: rest => some (.table (nodeValues read), rest)
    | cs => do
      let (path, rest) ← path? cs
      let rest ← char? '=' (skipLines (rest.length + 1) rest)
      let (value, rest) ← value? fuel depth (skipLines (rest.length + 1) rest)
      let read ← putValue value true path read
      match skipLines (rest.length + 1) rest with
      | ',' :: rest => pairs? fuel depth read rest
      | '\x7d' :: rest => return (.table (nodeValues read), rest)
      | _ => none

end

inductive Statement where
  | openTable (path : List String)
  | appendTable (path : List String)
  | put (path : List String) (value : Value)

def statement? : Reader Statement := fun cs =>
  match cs with
  | '[' :: '[' :: rest => do
    let (path, rest) ← path? rest
    let rest ← char? ']' (← char? ']' (skipLayout rest))
    return (.appendTable path, rest)
  | '[' :: rest => do
    let (path, rest) ← path? rest
    let rest ← char? ']' (skipLayout rest)
    return (.openTable path, rest)
  | _ => do
    let (path, rest) ← path? cs
    let rest ← char? '=' (skipLayout rest)
    let (value, rest) ← value? (2 * rest.length + 2) nestingLimit (skipLayout rest)
    return (.put path value, rest)

structure Gathering where
  nodes : Nodes
  path : List String

def Gathering.step (g : Gathering) : Statement → Option Gathering
  | .openTable path => (Toml.openTable path g.nodes).map (⟨·, path⟩)
  | .appendTable path => (Toml.appendTable path g.nodes).map (⟨·, path⟩)
  | .put path value => (within (putValue value true path) g.path g.nodes).map (⟨·, g.path⟩)

def lines? : (fuel : Nat) → Gathering → List Char → Option Gathering
  | 0, _, _ => none
  | fuel + 1, g, cs => do
    let cs := skipLayout cs
    let blank := match cs with
      | [] => true
      | c :: _ => c = '#' || c = '\n' || c = '\r'
    let (g, rest) ←
      if blank then some (g, cs)
      else (statement? cs).bind fun (statement, rest) => (g.step statement).map (·, rest)
    match skipComment (skipLayout rest) with
    | [] => return g
    | rest => lines? fuel g (← newline? rest)

def read? (text : String) : Option (List (String × Value)) :=
  let cs := match text.toList with
    | '\ufeff' :: rest => rest
    | cs => cs
  (lines? (cs.length + 1) ⟨[], []⟩ cs).map fun g => nodeValues g.nodes

end LintTools.Toml
