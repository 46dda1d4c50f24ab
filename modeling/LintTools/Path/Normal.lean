import LintTools.Path.Basic

/-! Normal form of paths: dots are dropped and each parent step cancels the name before it, without
a look at the disk. A path lies under another when the normal form of the one starts with that of
the other. -/
namespace LintTools.Path

/-- Folds components behind `done`, nearest first. A parent step at the root stays there, and one
with no name to cancel is kept. -/
def fold : (done components : List Component) → List Component
  | done, [] => done.reverse
  | done, .current :: rest => fold done rest
  | .name _ :: above, .parent :: rest => fold above rest
  | .root :: above, .parent :: rest => fold (.root :: above) rest
  | done, c :: rest => fold (c :: done) rest

def normalComponents (path : Path) : List Component := fold [] path.components

def normal (path : Path) : Path := render path.normalComponents

def parent? (path : Path) : Option Path :=
  match path.components.getLast? with
  | none => none
  | some .root => none
  | some _ => some (render path.components.dropLast)

def isUnder (candidate base : Path) : Bool :=
  base.normalComponents.isPrefixOf candidate.normalComponents

def isUnderAny (candidate : Path) (bases : List Path) : Bool := bases.any candidate.isUnder

end LintTools.Path
