import LintTools.Proofs.Path.Sharing
import LintTools.Proofs.Path.NormalForm

/-! Absolute roots. What is taken from an absolute root is absolute, and so are a resolved text and
the directory that holds an absolute path. A relative root can itself be taken from the current
directory first; texts mean the same below it. -/
namespace LintTools.Path

theorem append_rooted (base other : Path) (rooted : base.isAbsolute = true) :
    (base ++ other).isAbsolute = true := by
  cases kind : other.isAbsolute with
  | true => rw [append_of_absolute base other kind,kind]
  | false =>
    rw [isAbsolute_iff] at rooted ⊢
    have filled : base.components ≠ [] := by
      intro empty
      simp [empty] at rooted
    rw [components_append base other kind,if_neg filled,List.head?_append_of_ne_nil _ filled,rooted]

theorem absolute_of_rooted (s : Surroundings) (path : Path) (rooted : path.isAbsolute = true) :
    absolute s path = path := by
  rw [absolute,rooted,Bool.true_or,if_pos rfl]

theorem resolve_rooted (s : Surroundings) (root : Path) (text : String)
    (rooted : root.isAbsolute = true) : (resolve s root text).isAbsolute = true := by
  have joined := append_rooted root (expandHome s text) rooted
  rw [resolve,absolute_of_rooted s _ joined,normal_isAbsolute,joined]

theorem parent_rooted (path parent : Path) (rooted : path.isAbsolute = true)
    (found : path.parent? = some parent) : parent.isAbsolute = true := by
  rw [isAbsolute_iff] at rooted
  obtain ⟨inner,shape⟩ := List.head?_eq_some_iff.mp rooted
  have proper := components_proper path
  rw [parent?,shape] at found
  cases inner with
  | nil => simp at found
  | cons first others =>
    rw [shape] at proper
    have kept : (Component.root :: first :: others).dropLast =
        .root :: (first :: others).dropLast := rfl
    have rest : Proper (.root :: (first :: others).dropLast) := kept ▸ proper.dropLast
    split at found
    · contradiction
    · contradiction
    · rw [← Option.some.inj found,kept,isAbsolute_iff,components_render _ rest]
      rfl

theorem append_relative (base other : Path) (baseRelative : base.isAbsolute = false)
    (relative : other.isAbsolute = false) : (base ++ other).isAbsolute = false := by
  rw [← Bool.not_eq_true,isAbsolute_iff] at baseRelative ⊢
  rw [components_append base other relative]
  split
  · rwa [← isAbsolute_iff,Bool.not_eq_true]
  · rename_i filled
    rwa [List.head?_append_of_ne_nil _ filled]

theorem append_assoc_components (first second third : Path) :
    (first ++ second ++ third).components = (first ++ (second ++ third)).components := by
  cases thirdKind : third.isAbsolute with
  | true =>
    rw [append_of_absolute _ third thirdKind,append_of_absolute _ third thirdKind,
      append_of_absolute _ third thirdKind]
  | false =>
    cases secondKind : second.isAbsolute with
    | true =>
      rw [append_of_absolute _ second secondKind,
        append_of_absolute _ _ (append_rooted second third secondKind)]
    | false =>
      have joined := append_relative second third secondKind thirdKind
      rw [components_append _ third thirdKind,components_append first second secondKind,
        components_append first _ joined,components_append second third thirdKind]
      by_cases empty : first.components = []
      · simp [empty]
      · by_cases none : second.components = []
        · simp [empty,none]
        · simp [empty,none]

theorem normalComponents_congr (p q : Path) (same : p.components = q.components) :
    p.normalComponents = q.normalComponents := by
  rw [normalComponents,normalComponents,same]

theorem absolute_of_filled (s : Surroundings) (path : Path) (filled : path.text ≠ "") :
    absolute s path = s.currentDirectory ++ path := by
  cases kind : path.isAbsolute with
  | true => rw [absolute_of_rooted s path kind,append_of_absolute _ path kind]
  | false =>
    have some : path.text.isEmpty = false := by simpa using filled
    rw [absolute,kind,some,Bool.or_false,if_neg Bool.false_ne_true]

theorem append_filled (base other : Path) (filled : base.text ≠ "") : (base ++ other).text ≠ "" := by
  rw [ne_eq,← components_eq_nil] at filled ⊢
  cases kind : other.isAbsolute with
  | true =>
    rw [append_of_absolute base other kind]
    intro empty
    rw [isAbsolute_iff,empty] at kind
    contradiction
  | false =>
    rw [components_append base other kind,if_neg filled]
    exact List.append_ne_nil_of_left_ne_nil filled _

/-- Texts mean the same below a root and below that root taken from the current directory. -/
theorem resolve_from_current (s : Surroundings) (root : Path) (text : String)
    (current : s.currentDirectory.isAbsolute = true) (filled : root.text ≠ "") :
    resolve s (s.currentDirectory ++ root) text = resolve s root text := by
  have whole := append_rooted (s.currentDirectory ++ root) (expandHome s text)
    (append_rooted s.currentDirectory root current)
  have some := append_filled root (expandHome s text) filled
  rw [resolve,resolve,absolute_of_rooted s _ whole,absolute_of_filled s _ some,normal,normal,
    normalComponents_congr _ _ (append_assoc_components _ root (expandHome s text))]

def Descends (path : Path) : Prop := path.isAbsolute = false → Names path.normalComponents

instance (path : Path) : Decidable path.Descends :=
  inferInstanceAs (Decidable (path.isAbsolute = false → Names path.normalComponents))

theorem components_append_right (base p q : Path) (same : p.components = q.components) :
    (base ++ p).components = (base ++ q).components := by
  have kind := isAbsolute_congr p q same
  cases rooted : q.isAbsolute with
  | true =>
    rw [rooted] at kind
    rwa [append_of_absolute base p kind,append_of_absolute base q rooted]
  | false =>
    rw [rooted] at kind
    rw [components_append base p kind,components_append base q rooted,same]

theorem isAbsolute_iff_normal (path : Path) :
    path.isAbsolute = true ↔ path.normalComponents.head? = some .root := by
  rw [← normal_isAbsolute,isAbsolute_iff,normal_components]

theorem normalComponents_filled (path : Path) (rooted : path.isAbsolute = true) :
    path.normalComponents ≠ [] := by
  intro empty
  rw [isAbsolute_iff_normal,empty] at rooted
  contradiction

/-- A path lies below one of its own kind, the place that it is taken from apart. -/
theorem kind_of_prefix (base path : Path) (filled : base.normalComponents ≠ [])
    (under : base.normalComponents <+: path.normalComponents) :
    base.isAbsolute = path.isAbsolute := by
  obtain ⟨rest,shape⟩ := under
  rw [Bool.eq_iff_iff,isAbsolute_iff_normal,isAbsolute_iff_normal,← shape,
    List.head?_append_of_ne_nil _ filled]

/-- Paths of one kind lie below each other from wherever they are taken. -/
theorem prefix_from_current (current base path : Path) (kind : base.isAbsolute = path.isAbsolute)
    (descends : base.isAbsolute = false → base.Descends ∧ path.Descends) :
    (current ++ base).normalComponents <+: (current ++ path).normalComponents ↔
      base.normalComponents <+: path.normalComponents := by
  cases rooted : base.isAbsolute with
  | true =>
    rw [rooted] at kind
    rw [append_of_absolute current base rooted,append_of_absolute current path kind.symm]
  | false =>
    obtain ⟨baseDescends,pathDescends⟩ := descends rooted
    rw [rooted] at kind
    rw [normalComponents_append_names current base rooted (baseDescends rooted),
      normalComponents_append_names current path kind.symm (pathDescends kind.symm),
      List.prefix_append_right_inj]

end LintTools.Path
