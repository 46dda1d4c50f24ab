import LintTools.Path.Normal
import LintTools.Proofs.Text.Pieces

/-! Components of joined, written and folded paths. Joining depends on components alone, so equal
paths are interchangeable as bases; a written list of components is read back unchanged, so a path
in normal form is known by its components. -/
namespace LintTools.Path

def Component.Inner : Component → Prop
  | .parent => True
  | .name text =>
    text.toList ≠ [] ∧ text.toList ≠ ['.'] ∧ text.toList ≠ ['.','.'] ∧ '/' ∉ text.toList
  | _ => False

/-- Lists of components that paths have: a root or a dot stands at most at the start. -/
inductive Proper : List Component → Prop
  | relative (inner : List Component) (each : ∀ c ∈ inner, c.Inner) : Proper inner
  | rooted (inner : List Component) (each : ∀ c ∈ inner, c.Inner) : Proper (.root :: inner)
  | dotted (inner : List Component) (each : ∀ c ∈ inner, c.Inner) : Proper (.current :: inner)

theorem pieceComponent?_label (c : Component) (inner : c.Inner) :
    pieceComponent? c.label.toList = some c := by
  cases c with
  | parent => rfl
  | name text =>
    obtain ⟨filled,dot,dots,_⟩ := inner
    simp [pieceComponent?,Component.label,filled,dot,dots]
  | _ => exact False.elim inner

theorem pieceComponent?_inner (piece : List Char) (c : Component) (clear : '/' ∉ piece)
    (found : pieceComponent? piece = some c) : c.Inner := by
  unfold pieceComponent? at found
  split at found
  · simp at found
  · split at found
    · cases found
      trivial
    · cases found
      simp_all [Component.Inner]

theorem pieceComponent?_eq_none (piece : List Char) :
    pieceComponent? piece = none ↔ piece = [] ∨ piece = ['.'] := by
  unfold pieceComponent?
  split
  · simp [*]
  · split <;> simp [*]

theorem label_clear (c : Component) (inner : c.Inner) : '/' ∉ c.label.toList := by
  cases c with
  | parent => decide
  | name text => exact inner.2.2.2
  | _ => exact False.elim inner

def innerComponents (cs : List Char) : List Component :=
  (Text.pieces '/' cs).filterMap pieceComponent?

theorem innerComponents_inner (cs : List Char) : ∀ c ∈ innerComponents cs, c.Inner := by
  intro c member
  obtain ⟨piece,inside,found⟩ := List.mem_filterMap.mp member
  exact pieceComponent?_inner piece c (Text.not_mem_of_mem_pieces '/' cs piece inside) found

theorem innerComponents_append (before after : List Char) :
    innerComponents (before ++ '/' :: after) = innerComponents before ++ innerComponents after := by
  simp only [innerComponents,Text.pieces_append,List.filterMap_append]

theorem innerComponents_nil : innerComponents [] = [] := rfl

theorem componentsOf_rooted (cs : List Char) :
    componentsOf ('/' :: cs) = .root :: innerComponents cs := rfl

/-- A dot is kept as the first piece of a relative text. -/
theorem componentsOf_relative (cs : List Char) (relative : cs.head? ≠ some '/') :
    componentsOf cs =
      (if (Text.pieces '/' cs).head? = some ['.'] then [.current] else []) ++ innerComponents cs := by
  unfold componentsOf innerComponents
  split
  · simp at relative
  · split
    · rename_i rest found
      simp [found,pieceComponent?]
    · rename_i found
      have first : (Text.pieces '/' cs).head? ≠ some ['.'] := by
        intro head
        obtain ⟨rest,shape⟩ := List.head?_eq_some_iff.mp head
        exact found rest shape
      simp [first]

theorem componentsOf_proper (cs : List Char) : Proper (componentsOf cs) := by
  by_cases rooted : cs.head? = some '/'
  · obtain ⟨rest,rfl⟩ := List.head?_eq_some_iff.mp rooted
    exact .rooted _ (innerComponents_inner rest)
  · rw [componentsOf_relative cs rooted]
    split
    · exact .dotted _ (innerComponents_inner cs)
    · exact .relative _ (innerComponents_inner cs)

theorem componentsOf_join (base other : List Char) (nonempty : base ≠ []) :
    componentsOf (base ++ '/' :: other) = componentsOf base ++ innerComponents other := by
  by_cases rooted : base.head? = some '/'
  · obtain ⟨rest,rfl⟩ := List.head?_eq_some_iff.mp rooted
    rw [List.cons_append,componentsOf_rooted,componentsOf_rooted,innerComponents_append]
    rfl
  · have relative : (base ++ '/' :: other).head? ≠ some '/' := by
      cases base with
      | nil => exact absurd rfl nonempty
      | cons c base => simpa using rooted
    rw [componentsOf_relative _ relative,componentsOf_relative _ rooted,innerComponents_append,
      Text.pieces_append,List.head?_append_of_ne_nil _ (Text.pieces_ne_nil '/' base),
      List.append_assoc]

theorem componentsOf_eq_nil (cs : List Char) : componentsOf cs = [] ↔ cs = [] := by
  constructor
  · intro none
    by_cases rooted : cs.head? = some '/'
    · obtain ⟨rest,rfl⟩ := List.head?_eq_some_iff.mp rooted
      simp [componentsOf_rooted] at none
    · cases cs with
      | nil => rfl
      | cons c cs =>
        have other : c ≠ '/' := by simpa using rooted
        rw [componentsOf_relative _ rooted,innerComponents,Text.pieces_cons '/' c cs other] at none
        cases found : Text.pieces '/' cs with
        | nil => exact absurd found (Text.pieces_ne_nil '/' cs)
        | cons first others =>
          simp only [found,List.modifyHead_cons,List.head?_cons,Option.some.injEq,
            List.append_eq_nil_iff,List.filterMap_eq_nil_iff] at none
          have idle := (pieceComponent?_eq_none _).mp (none.2 (c :: first) (by simp))
          have dot : c :: first = ['.'] := by simpa using idle
          simp [dot] at none
  · rintro rfl
    rfl

theorem components_eq_nil (path : Path) : path.components = [] ↔ path.text = "" := by
  unfold components
  rw [componentsOf_eq_nil,String.toList_eq_nil_iff]

theorem isAbsolute_iff (path : Path) :
    path.isAbsolute = true ↔ path.components.head? = some .root := by
  unfold isAbsolute components
  rw [beq_iff_eq]
  by_cases rooted : path.text.toList.head? = some '/'
  · obtain ⟨rest,shape⟩ := List.head?_eq_some_iff.mp rooted
    simp [shape,componentsOf_rooted]
  · rw [componentsOf_relative _ rooted]
    simp only [rooted,false_iff]
    split
    · simp
    · intro head
      have inner := innerComponents_inner path.text.toList .root (List.mem_of_head? (by simpa using head))
      exact inner

theorem isAbsolute_congr (p q : Path) (same : p.components = q.components) :
    p.isAbsolute = q.isAbsolute := by
  rw [Bool.eq_iff_iff,isAbsolute_iff,isAbsolute_iff,same]

theorem innerComponents_relative (cs : List Char) (relative : cs.head? ≠ some '/') :
    innerComponents cs = (componentsOf cs).filter (· ≠ .current) := by
  have kept : (innerComponents cs).filter (· ≠ .current) = innerComponents cs := by
    rw [List.filter_eq_self]
    intro c member
    have inner := innerComponents_inner cs c member
    cases c <;> simp_all [Component.Inner]
  rw [componentsOf_relative cs relative,List.filter_append,kept]
  split <;> simp

theorem componentsOf_ending (before after : List Char) :
    componentsOf (before ++ '/' :: after) =
      componentsOf (before ++ ['/']) ++ innerComponents after := by
  cases before with
  | nil => rfl
  | cons c before =>
    rw [componentsOf_join _ after (by simp),componentsOf_join _ [] (by simp),innerComponents_nil,
      List.append_nil]

/-- Behind a base, a leading dot no longer counts. -/
theorem components_append (base other : Path) (relative : other.isAbsolute = false) :
    (base ++ other).components =
      if base.components = [] then other.components
      else base.components ++ other.components.filter (· ≠ .current) := by
  have outside : other.text.toList.head? ≠ some '/' := by simpa [isAbsolute] using relative
  change (append base other).components = _
  simp only [append,relative,Bool.false_eq_true,if_false,components_eq_nil,Bool.or_eq_true,
    String.isEmpty_iff,beq_iff_eq]
  unfold components
  rw [← innerComponents_relative _ outside]
  by_cases empty : base.text = ""
  · simp [empty]
  · have filled : base.text.toList ≠ [] := by simpa using empty
    by_cases slash : base.text.toList.getLast? = some '/'
    · obtain ⟨before,shape⟩ := List.getLast?_eq_some_iff.mp slash
      simp only [empty,slash,or_true,if_true,if_false,String.toList_append]
      rw [shape,List.append_assoc,List.singleton_append]
      exact componentsOf_ending before other.text.toList
    · simp only [empty,slash,or_self,if_false,String.toList_append,List.append_assoc]
      exact componentsOf_join base.text.toList other.text.toList filled

/-- Equal paths are the same base. -/
theorem components_append_congr (a b other : Path) (same : a.components = b.components) :
    (a ++ other).components = (b ++ other).components := by
  cases kind : other.isAbsolute with
  | true =>
    have alone (base : Path) : base ++ other = other := by
      change append base other = other
      simp [append,kind]
    rw [alone,alone]
  | false => rw [components_append a other kind,components_append b other kind,same]

theorem joined_components (inner : List Component) (each : ∀ c ∈ inner, c.Inner) :
    innerComponents (['/'].intercalate (inner.map fun c => c.label.toList)) = inner := by
  have back : (inner.map fun c => c.label.toList).filterMap pieceComponent? = inner := by
    rw [List.filterMap_map]
    conv_rhs => rw [← List.filterMap_some (l := inner)]
    apply List.filterMap_congr
    intro c member
    exact pieceComponent?_label c (each c member)
  cases inner with
  | nil => rfl
  | cons first others =>
    rw [innerComponents,Text.pieces_intercalate '/' _ (by simp),back]
    intro label member
    obtain ⟨c,inside,rfl⟩ := List.mem_map.mp member
    exact label_clear c (each c inside)

/-- A first piece that is not empty starts a relative text. -/
theorem intercalate_relative (first : List Char) (others : List (List Char)) (filled : first ≠ [])
    (clear : '/' ∉ first) : (['/'].intercalate (first :: others)).head? ≠ some '/' := by
  obtain ⟨c,rest,rfl⟩ := List.exists_cons_of_ne_nil filled
  have other : c ≠ '/' := by
    rintro rfl
    exact clear List.mem_cons_self
  cases others <;> simpa [List.intercalate] using other

/-- Labels of inner components, joined, start a relative text. -/
theorem joined_relative (first : Component) (others : List Component) (inner : first.Inner) :
    (['/'].intercalate ((first :: others).map fun c => c.label.toList)).head? ≠ some '/' := by
  apply intercalate_relative _ _ _ (label_clear first inner)
  intro empty
  have found := pieceComponent?_label first inner
  simp [empty,pieceComponent?] at found

theorem render_relative (first : Component) (others : List Component) (inner : first.Inner) :
    render (first :: others) =
      ⟨String.ofList (['/'].intercalate ((first :: others).map fun c => c.label.toList))⟩ := by
  cases first with
  | root => exact False.elim inner
  | _ => rfl

/-- Written components are read back. -/
theorem components_render (cs : List Component) (proper : Proper cs) :
    (render cs).components = cs := by
  cases proper with
  | rooted inner each =>
    change componentsOf (String.ofList ('/' :: ['/'].intercalate _)).toList = _
    rw [String.toList_ofList,componentsOf_rooted,joined_components inner each]
  | dotted inner each =>
    change componentsOf (String.ofList (['/'].intercalate (['.'] :: _))).toList = _
    rw [String.toList_ofList]
    cases inner with
    | nil => rfl
    | cons first others =>
      rw [List.map_cons,List.intercalate_cons_cons,List.append_assoc]
      refine (componentsOf_join ['.'] _ (by simp)).trans ?_
      exact congrArg (Component.current :: ·) (joined_components (first :: others) each)
  | relative _ each =>
    cases cs with
    | nil => rfl
    | cons first others =>
      have inner := each first (by simp)
      have relative := joined_relative first others inner
      rw [render_relative first others inner,components,String.toList_ofList,
        componentsOf_relative _ relative,joined_components _ each,
        Text.pieces_intercalate '/' _ (by simp)]
      · have notDot : first.label.toList ≠ ['.'] := by
          intro dot
          have found := pieceComponent?_label first inner
          simp [dot,pieceComponent?] at found
        simp [notDot]
      · intro label member
        obtain ⟨c,inside,rfl⟩ := List.mem_map.mp member
        exact label_clear c (each c inside)

theorem components_proper (path : Path) : Proper path.components := componentsOf_proper _

theorem Proper.dropLast (cs : List Component) (proper : Proper cs) : Proper cs.dropLast := by
  have kept (inner : List Component) (each : ∀ c ∈ inner, c.Inner) : ∀ c ∈ inner.dropLast, c.Inner :=
    fun c member => each c (List.dropLast_subset inner member)
  cases proper with
  | relative _ each => exact .relative _ (kept _ each)
  | rooted inner each =>
    cases inner with
    | nil => exact .relative [] (by simp)
    | cons first others => exact .rooted _ (kept _ each)
  | dotted inner each =>
    cases inner with
    | nil => exact .relative [] (by simp)
    | cons first others => exact .dotted _ (kept _ each)

theorem Proper.concat (cs : List Component) (c : Component) (proper : Proper cs)
    (inner : c.Inner) : Proper (cs ++ [c]) := by
  have extended (inside : List Component) (each : ∀ c ∈ inside, c.Inner) :
      ∀ d ∈ inside ++ [c], d.Inner := by
    intro d member
    rcases List.mem_append.mp member with member | member
    · exact each d member
    · exact List.mem_singleton.mp member ▸ inner
  cases proper with
  | relative _ each => exact .relative _ (extended _ each)
  | rooted _ each => exact .rooted _ (extended _ each)
  | dotted _ each => exact .dotted _ (extended _ each)

/-- Folding keeps what is done proper: a parent step only shortens it, any other step extends it. -/
theorem fold_proper (done inner : List Component) (proper : Proper done.reverse)
    (each : ∀ c ∈ inner, c.Inner) : Proper (fold done inner) := by
  fun_induction fold done inner with
  | case1 done => exact proper
  | case2 done rest ih => exact False.elim (each .current (by simp))
  | case3 text above rest ih =>
    apply ih
    · simpa using Proper.dropLast _ proper
    · exact fun c member => each c (List.mem_cons_of_mem _ member)
  | case4 above rest ih =>
    exact ih proper fun c member => each c (List.mem_cons_of_mem _ member)
  | case5 done c rest _ _ _ ih =>
    apply ih
    · rw [List.reverse_cons]
      exact Proper.concat _ c proper (each c (by simp))
    · exact fun d member => each d (List.mem_cons_of_mem _ member)

theorem normalComponents_proper (path : Path) : Proper path.normalComponents := by
  have start : Proper path.components := components_proper path
  unfold normalComponents
  generalize path.components = cs at start
  cases start with
  | relative inner each => exact fold_proper [] _ (.relative [] (by simp)) each
  | rooted inner each => exact fold_proper [.root] inner (.rooted [] (by simp)) each
  | dotted inner each => exact fold_proper [] inner (.relative [] (by simp)) each

theorem normal_components (path : Path) : path.normal.components = path.normalComponents :=
  components_render _ (normalComponents_proper path)

def Tidy (path : Path) : Prop := render path.components = path

theorem render_tidy (cs : List Component) (proper : Proper cs) : (render cs).Tidy := by
  rw [Tidy,components_render cs proper]

theorem Tidy.eq {p q : Path} (left : p.Tidy) (right : q.Tidy)
    (same : p.components = q.components) : p = q := by
  rw [← left,← right,same]

theorem normal_tidy (path : Path) : path.normal.Tidy := render_tidy _ (normalComponents_proper path)

theorem parent_tidy (path parent : Path) (found : path.parent? = some parent) : parent.Tidy := by
  have rendered : parent = render path.components.dropLast := by
    unfold parent? at found
    split at found
    · contradiction
    · contradiction
    · exact (Option.some.inj found).symm
  rw [rendered]
  exact render_tidy _ (Proper.dropLast _ (components_proper path))

end LintTools.Path
