import LintTools.Text.Blank

/-! Paths as written, and their components. Empty pieces and dots inside a path do not count, a dot
at its start does; two paths are equal when their components are. -/
namespace LintTools

structure Path where
  text : String
  deriving DecidableEq

inductive Path.Component where
  | root
  | current
  | parent
  | name (text : String)
  deriving DecidableEq

namespace Path

def Component.rank : Component → Nat
  | root => 0
  | current => 1
  | parent => 2
  | name _ => 3

def Component.label : Component → String
  | root => ""
  | current => "."
  | parent => ".."
  | name text => text

instance : Ord Component where
  compare a b := (compare a.rank b.rank).then (compare a.label b.label)

def pieceComponent? (piece : List Char) : Option Component :=
  if piece = [] ∨ piece = ['.'] then none
  else if piece = ['.', '.'] then some .parent
  else some (.name (String.ofList piece))

def componentsOf (cs : List Char) : List Component :=
  match cs with
  | '/' :: rest => .root :: (Text.pieces '/' rest).filterMap pieceComponent?
  | _ =>
    match Text.pieces '/' cs with
    | ['.'] :: rest => .current :: rest.filterMap pieceComponent?
    | pieces => pieces.filterMap pieceComponent?

def components (path : Path) : List Component := componentsOf path.text.toList

def isAbsolute (path : Path) : Bool := path.text.toList.head? == some '/'

def joinLabels (components : List Component) : List Char :=
  ['/'].intercalate (components.map fun c => c.label.toList)

def render (components : List Component) : Path :=
  match components with
  | .root :: rest => ⟨String.ofList ('/' :: joinLabels rest)⟩
  | _ => ⟨String.ofList (joinLabels components)⟩

def append (base other : Path) : Path :=
  if other.isAbsolute then other
  else if base.text.isEmpty || base.text.toList.getLast? == some '/' then
    ⟨base.text ++ other.text⟩
  else ⟨base.text ++ "/" ++ other.text⟩

instance : Append Path := ⟨append⟩

instance : Ord Path where
  compare p q := compare p.components q.components

def put (path : Path) : List Path → List Path
  | [] => [path]
  | other :: rest =>
    match compare path other with
    | .lt => path :: other :: rest
    | .eq => path :: rest
    | .gt => other :: put path rest

/-- The distinct paths of a list in component order; of equal ones the last spelling stays. -/
def distinct (paths : List Path) : List Path := paths.foldl (fun kept path => put path kept) []

def add (path : Path) : List Path → List Path
  | [] => [path]
  | other :: rest =>
    match compare path other with
    | .lt => path :: other :: rest
    | .eq => other :: rest
    | .gt => other :: add path rest

def addAll (kept paths : List Path) : List Path := paths.foldl (fun kept path => add path kept) kept

end Path
end LintTools
