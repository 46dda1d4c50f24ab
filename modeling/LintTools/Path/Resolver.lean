import LintTools.Path.Requirement
import LintTools.Path.Resolve

/-! Shared path look-ups. A resolver remembers the first answer for each key, and keys compare paths
by component, so the first spelling decides for equal later ones. Look-ups that remember nothing
are the plain meaning of the same interface. -/
namespace LintTools

/-- The two look-ups that may be shared, as actions of `m`. -/
structure PathLookup (m : Type → Type) where
  resolve : (root : Path) → (text : String) → m Path
  parts : (candidate root : Path) → m (List String)

def PathLookup.direct (s : Surroundings) : PathLookup Id where
  resolve root text := Path.resolve s root text
  parts candidate root := Path.parts candidate root

structure Resolver where
  capacity : Nat
  resolved : List ((List Path.Component × String) × Path)
  parted : List ((List Path.Component × List Path.Component) × List String)

namespace Resolver

def fresh (capacity : Nat) : Resolver := ⟨capacity, [], []⟩

def resolve (s : Surroundings) (root : Path) (text : String) (r : Resolver) : Path × Resolver :=
  let key := (root.components, text)
  match r.resolved.lookup key with
  | some path => (path, r)
  | none =>
    let path := Path.resolve s root text
    (path, { r with resolved := (key, path) :: r.resolved })

def parts (candidate root : Path) (r : Resolver) : List String × Resolver :=
  let key := (candidate.components, root.components)
  match r.parted.lookup key with
  | some segments => (segments, r)
  | none =>
    let segments := Path.parts candidate root
    (segments, { r with parted := (key, segments) :: r.parted })

def lookup (s : Surroundings) : PathLookup (StateM Resolver) where
  resolve root text := resolve s root text
  parts candidate root := parts candidate root

end Resolver

variable {m : Type → Type} [Monad m]

def PathLookup.meets (paths : PathLookup m) (candidate root : Path)
    (requirements : List (List String)) : m Bool := do
  if requirements.isEmpty then return true
  let parts ← paths.parts candidate root
  return !parts.isEmpty && requirements.all (Path.hasSequence parts)

end LintTools
