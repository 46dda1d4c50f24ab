import LintTools.Proofs.Path.Anchoring
import LintTools.Proofs.Path.Segments
import LintTools.Path.Resolver

/-! Relative files and the same files joined to an absolute root. Below the root both have the names
and parent steps of the relative one, and as long as there are any, the texts do not count. -/
namespace LintTools.Path

theorem segment?_dotless (cs : List Component) :
    (cs.filter (· ≠ .current)).filterMap Component.segment? = cs.filterMap Component.segment? := by
  rw [List.filterMap_filter]
  congr 1
  funext c
  cases c <;> rfl

theorem Proper.root_first (cs : List Component) (proper : Proper cs) (member : .root ∈ cs) :
    cs.head? = some .root := by
  cases proper with
  | relative _ each => exact False.elim (each .root member)
  | rooted => rfl
  | dotted inner each =>
    rcases List.mem_cons.mp member with same | inside
    · cases same
    · exact False.elim (each .root inside)

section Joined
variable (root file : Path) (rooted : root.isAbsolute = true) (relative : file.isAbsolute = false)
include relative

/-- The components of a relative path other than a dot at its start are segments. -/
theorem relative_segments (stepping : ∃ c ∈ file.components, c ≠ .current) :
    file.components.filterMap Component.segment? ≠ [] := by
  obtain ⟨c,member,other⟩ := stepping
  intro nothing
  have silent : c.segment? = none := List.filterMap_eq_nil_iff.mp nothing c member
  cases c with
  | root =>
    have head := (components_proper file).root_first _ member
    rw [← isAbsolute_iff,relative] at head
    contradiction
  | current => exact other rfl
  | parent => cases silent
  | name text => cases silent

include rooted

theorem components_joined : (root ++ file).components =
    root.components ++ file.components.filter (· ≠ .current) := by
  rw [components_append root file relative,if_neg]
  intro empty
  have head := (isAbsolute_iff root).mp rooted
  simp [empty] at head

theorem namesBelow_joined : namesBelow (root ++ file) root = namesBelow file root := by
  have under : root.components <+: (root ++ file).components :=
    ⟨_,(components_joined root file rooted relative).symm⟩
  rw [namesBelow,namesBelow,if_pos ⟨append_rooted root file rooted,under⟩,if_neg (by simp [relative]),
    components_joined root file rooted relative,List.drop_left,segment?_dotless]

theorem parts_joined (stepping : ∃ c ∈ file.components, c ≠ .current) :
    parts (root ++ file) root = parts file root := by
  have outside : namesBelow file root = file.components.filterMap Component.segment? := by
    rw [namesBelow,if_neg (by simp [relative])]
  have named : namesBelow file root ≠ [] := outside ▸ relative_segments file relative stepping
  rw [parts_eq,parts_eq,namesBelow_joined root file rooted relative,if_neg named,if_neg named]

end Joined

/-- Through a fresh resolver a file is judged by its own segments. -/
theorem meets_fresh (s : Surroundings) (candidate root : Path) (requirements : List (List String))
    (capacity : Nat) :
    (((Resolver.lookup s).meets candidate root requirements).run (Resolver.fresh capacity)).1 =
      (requirements.isEmpty || !(parts candidate root).isEmpty &&
        requirements.all (hasSequence (parts candidate root))) := by
  cases requirements <;> rfl

/-- Below an absolute root it does not matter whether a relative file that has a name or a parent step
is given as it is or joined to the root: it meets the same requirements. -/
theorem meets_joined (s : Surroundings) (root file : Path) (requirements : List (List String))
    (capacity own : Nat) (rooted : root.isAbsolute = true) (relative : file.isAbsolute = false)
    (stepping : ∃ c ∈ file.components, c ≠ .current) :
    (((Resolver.lookup s).meets file root requirements).run (Resolver.fresh capacity)).1 =
      (((Resolver.lookup s).meets (root ++ file) root requirements).run (Resolver.fresh own)).1 := by
  rw [meets_fresh,meets_fresh,parts_joined root file rooted relative stepping]

/-- A root and a file with dots, parent steps and repeated separators. -/
theorem meets_joined_crooked :
    Path.isAbsolute ⟨"/repo/./src//"⟩ = true ∧ Path.isAbsolute ⟨"./..//lib/./a.lua"⟩ = false ∧
      (∃ c ∈ Path.components ⟨"./..//lib/./a.lua"⟩, c ≠ .current) ∧
      (((Resolver.lookup ⟨none,⟨"/"⟩,fun _ => false⟩).meets
        (⟨"/repo/./src//"⟩ ++ ⟨"./..//lib/./a.lua"⟩) ⟨"/repo/./src//"⟩ [["..","lib"]]).run
          (Resolver.fresh 8)).1 = true := by
  have rooted : Path.isAbsolute ⟨"/repo/./src//"⟩ = true := by decide +kernel
  have relative : Path.isAbsolute ⟨"./..//lib/./a.lua"⟩ = false := by decide +kernel
  have stepping : ∃ c ∈ Path.components ⟨"./..//lib/./a.lua"⟩, c ≠ .current := by decide +kernel
  have joined := meets_joined ⟨none,⟨"/"⟩,fun _ => false⟩ ⟨"/repo/./src//"⟩ ⟨"./..//lib/./a.lua"⟩
    [["..","lib"]] 8 8 rooted relative stepping
  exact ⟨rooted,relative,stepping,joined.symm.trans (by decide +kernel)⟩

end LintTools.Path
