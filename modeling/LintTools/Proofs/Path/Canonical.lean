import LintTools.Proofs.Path.NormalForm

/-! The shape of normal forms. They consist of names behind a root, or behind parent steps that lead
out of the place that the path is taken from, and a path with such components is its own normal
form. A base may be brought into normal form before another path is joined to it. -/
namespace LintTools.Path

theorem Canonical.dotless {cs : List Component} (canonical : Canonical cs) : .current ∉ cs := by
  cases canonical with
  | rooted names named => simp [named.not_mem]
  | relative climb names named => simp [named.not_mem,List.mem_replicate]

/-- Which of the two shapes a normal form has is seen from the path. -/
theorem normalComponents_shape (path : Path) :
    (path.isAbsolute = true ∧ ∃ names, path.normalComponents = .root :: names ∧ Names names) ∨
      path.isAbsolute = false ∧ ∃ climb names,
        path.normalComponents = List.replicate climb .parent ++ names ∧ Names names := by
  cases kind : path.isAbsolute with
  | true => exact .inl ⟨rfl,normalComponents_rooted path kind⟩
  | false =>
    have unrooted := normalComponents_relative path kind
    have canonical := normalComponents_canonical path
    generalize path.normalComponents = cs at canonical unrooted
    cases canonical with
    | rooted names named => exact absurd List.mem_cons_self unrooted
    | relative climb names named => exact .inr ⟨rfl,climb,names,rfl,named⟩

theorem parent_not_mem_normal (path : Path) (rooted : path.isAbsolute = true) :
    .parent ∉ path.normalComponents := by
  obtain ⟨names,shape,named⟩ := normalComponents_rooted path rooted
  rw [shape]
  simp [named.not_mem]

theorem normalComponents_eq_iff (path : Path) :
    path.normalComponents = path.components ↔ Canonical path.components := by
  constructor
  · intro same
    exact same ▸ normalComponents_canonical path
  · exact Canonical.fold_eq

theorem normal_eq_self_iff (path : Path) :
    path.normal = path ↔ path.Tidy ∧ Canonical path.components := by
  constructor
  · intro same
    rw [← same]
    exact ⟨normal_tidy path,normal_components path ▸ normalComponents_canonical path⟩
  · rintro ⟨tidy,canonical⟩
    rw [normal,(normalComponents_eq_iff path).mpr canonical,tidy]

theorem normal_append (base other : Path) : (base ++ other).normal = (base.normal ++ other).normal := by
  cases kind : other.isAbsolute with
  | true => rw [append_of_absolute base other kind,append_of_absolute _ other kind]
  | false =>
    rw [normal,normal,normalComponents_append base other kind,
      normalComponents_append _ other kind,normal_normalComponents]

/-- The normal form of a path has no dots, and parent steps only as a climb in front of a path without
root; it has a root exactly when the path does. Paths in this shape, and shortest spelling, are
their own normal forms, so taking it again changes nothing. Nor does taking that of a base first. -/
theorem normal_is_canonical (path : Path) :
    .current ∉ path.normal.components ∧
      ((path.isAbsolute = true ∧ ∃ names, path.normal.components = .root :: names ∧ Names names) ∨
        path.isAbsolute = false ∧ ∃ climb names,
          path.normal.components = List.replicate climb .parent ++ names ∧ Names names) ∧
      path.normal.isAbsolute = path.isAbsolute ∧
      (path.normal = path ↔ path.Tidy ∧ Canonical path.components) ∧
      path.normal.normal = path.normal ∧
      ∀ other, (path ++ other).normal = (path.normal ++ other).normal := by
  rw [normal_components]
  exact ⟨(normalComponents_canonical path).dotless,normalComponents_shape path,normal_isAbsolute path,
    normal_eq_self_iff path,normal_normal path,normal_append path⟩

end LintTools.Path
