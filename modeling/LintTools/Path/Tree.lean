import LintTools.Path.Basic

/-! A finite tree of directories and files, and the paths that exist in it. A path is walked from
the root one component at a time, so a file or a missing directory ends the walk. -/
namespace LintTools.Path

structure Tree where
  directories : List (List Component)
  files : List (List Component)

namespace Tree

private def openings (components : List Component) : List (List Component) :=
  (List.range (components.length + 1)).map components.take

def ofPaths (directories files : List Path) : Tree :=
  ⟨[.root] :: (directories.flatMap fun d => openings d.components) ++
      files.flatMap fun f => openings f.components.dropLast,
    files.map (·.components)⟩

def walk (tree : Tree) (fileEnds : Bool) : (here rest : List Component) → Bool
  | here, [] => tree.directories.contains here
  | here, .parent :: rest =>
    tree.directories.contains here &&
      walk tree fileEnds (if here.length ≤ 1 then here else here.dropLast) rest
  | here, .name text :: rest =>
    let next := here ++ [.name text]
    (rest.isEmpty && fileEnds && tree.files.contains next) || walk tree fileEnds next rest
  | here, _ :: rest => walk tree fileEnds here rest

/-- Whether a path exists, relative ones being taken from `currentDirectory`. A separator or a dot
behind the last name asks for a directory. -/
def holds (tree : Tree) (currentDirectory path : Path) : Bool :=
  let start := if path.isAbsolute then [.root] else currentDirectory.components
  let fileEnds := (Text.pieces '/' path.text.toList).getLast?.any fun piece =>
    (pieceComponent? piece).isSome
  !path.text.isEmpty && walk tree fileEnds start path.components

end Tree
end LintTools.Path
