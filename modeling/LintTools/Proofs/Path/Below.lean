import LintTools.Path.Relative
import LintTools.Proofs.Path.NormalForm

/-! The part of an absolute path below another, both in normal form. It is written as its components
are, it exists exactly when the one path lies under the other, and taken from the base again it
gives back the path. -/
namespace LintTools.Path

theorem isUnder_iff (candidate base : Path) :
    candidate.isUnder base = true ↔ base.normalComponents <+: candidate.normalComponents := by
  rw [isUnder,List.isPrefixOf_iff_prefix]

theorem dropIdle_filled (pieces : List (List Char)) (filled : ∀ piece ∈ pieces, isIdle piece = false) :
    dropIdle pieces = pieces := by
  cases pieces with
  | nil => rfl
  | cons first others =>
    rw [dropIdle,List.dropWhile_cons_of_neg]
    simp [filled first List.mem_cons_self]

theorem dropIdleEnd_filled (pieces : List (List Char))
    (filled : ∀ piece ∈ pieces, isIdle piece = false) : dropIdleEnd pieces = pieces := by
  rw [dropIdleEnd,dropIdle_filled _ fun piece member => filled piece (List.mem_reverse.mp member),
    List.reverse_reverse]

theorem label_filled (c : Component) (inner : c.Inner) : isIdle c.label.toList = false := by
  rw [isIdle,pieceComponent?_label c inner]
  rfl

theorem joinPieces_labels (inner : List Component) (each : ∀ c ∈ inner, c.Inner) :
    joinPieces (inner.map fun c => c.label.toList) = render inner := by
  cases inner with
  | nil => rfl
  | cons first others =>
    rw [render_relative first others (each first List.mem_cons_self),joinPieces]

/-- Idle pieces around it do not change what a list of pieces stands for. -/
theorem joinPieces_tidy (inner : List Component) (each : ∀ c ∈ inner, c.Inner) :
    joinPieces (dropIdleEnd (dropIdle (inner.map fun c => c.label.toList))) = render inner := by
  have filled : ∀ piece ∈ inner.map fun c => c.label.toList, isIdle piece = false := by
    intro piece member
    obtain ⟨c,inside,rfl⟩ := List.mem_map.mp member
    exact label_filled c (each c inside)
  rw [dropIdle_filled _ filled,dropIdleEnd_filled _ filled,joinPieces_labels inner each]

theorem piecesBelow?_labels (base rest : List Component) (each : ∀ c ∈ base, c.Inner) :
    piecesBelow? base ((base ++ rest).map fun c => c.label.toList) =
      some (rest.map fun c => c.label.toList) := by
  induction base with
  | nil => rw [List.nil_append,piecesBelow?]
  | cons c base ih =>
    have first := pieceComponent?_label c (each c List.mem_cons_self)
    have others := ih fun d member => each d (List.mem_cons_of_mem c member)
    rw [List.cons_append,List.map_cons,piecesBelow?,first]
    simpa using others

/-- What is left behind a base stands for the components behind those of the base. -/
theorem piecesBelow?_components (base : List Component) (pieces rest : List (List Char))
    (found : piecesBelow? base pieces = some rest) :
    pieces.filterMap pieceComponent? = base ++ rest.filterMap pieceComponent? ∧ rest <:+ pieces := by
  fun_induction piecesBelow? base pieces with
  | case1 pieces =>
    obtain rfl := Option.some.inj found
    exact ⟨rfl,List.suffix_rfl⟩
  | case2 => contradiction
  | case3 c base piece pieces nothing ih =>
    obtain ⟨same,suffix⟩ := ih found
    exact ⟨by rw [List.filterMap_cons_none nothing,same],suffix.trans (List.suffix_cons piece pieces)⟩
  | case4 base piece pieces d stands ih =>
    obtain ⟨same,suffix⟩ := ih found
    refine ⟨?_,suffix.trans (List.suffix_cons piece pieces)⟩
    rw [List.filterMap_cons_some stands,same,List.cons_append]
  | case5 => contradiction

theorem below?_rooted (names baseNames : List Component) (each : ∀ c ∈ baseNames, c.Inner) :
    (render (.root :: names)).below? (render (.root :: baseNames)) =
      (piecesBelow? baseNames (Text.pieces '/' (joinLabels names))).map fun rest =>
        joinPieces (dropIdleEnd (dropIdle rest)) := by
  have text : (render (.root :: names)).text.toList = '/' :: joinLabels names :=
    String.toList_ofList
  have base : (render (.root :: baseNames)).components = .root :: baseNames :=
    components_render _ (.rooted baseNames each)
  simp only [below?,text,base,List.isEmpty_cons,Bool.false_eq_true,if_false]

theorem proper_rooted (names : List Component) (proper : Proper (.root :: names)) :
    ∀ c ∈ names, c.Inner := by
  cases proper with
  | relative _ each => exact False.elim (each .root List.mem_cons_self)
  | rooted _ each => exact each

/-- The normal form of an absolute path has names behind its root, none of them a dot or empty. -/
theorem normalComponents_names (path : Path) (rooted : path.isAbsolute = true) : ∃ names,
    path.normalComponents = .root :: names ∧ Names names ∧ ∀ c ∈ names, c.Inner := by
  obtain ⟨names,shape,named⟩ := normalComponents_rooted path rooted
  have proper := normalComponents_proper path
  rw [shape] at proper
  exact ⟨names,shape,named,proper_rooted names proper⟩

section Rooted
variable (path base : Path) (rooted : path.isAbsolute = true) (baseRooted : base.isAbsolute = true)
include rooted baseRooted

theorem below?_under (rest : List Component)
    (under : path.normalComponents = base.normalComponents ++ rest) :
    path.normal.below? base.normal = some (render rest) := by
  obtain ⟨names,shape,_,inner⟩ := normalComponents_names path rooted
  obtain ⟨baseNames,baseShape,_,baseInner⟩ := normalComponents_names base baseRooted
  rw [shape,baseShape,List.cons_append] at under
  have split : names = baseNames ++ rest := (List.cons.inj under).2
  have restInner : ∀ c ∈ rest, c.Inner := fun c member => inner c (by simp [split,member])
  rw [normal,normal,shape,baseShape,below?_rooted names baseNames baseInner]
  by_cases empty : names = []
  · rw [empty] at split
    obtain ⟨noBase,noRest⟩ := List.append_eq_nil_iff.mp split.symm
    rw [empty,noBase,noRest]
    rfl
  · have pieces : Text.pieces '/' (joinLabels names) = names.map fun c => c.label.toList := by
      refine Text.pieces_intercalate '/' _ (by simpa using empty) ?_
      intro label member
      obtain ⟨c,inside,rfl⟩ := List.mem_map.mp member
      exact label_clear c (inner c inside)
    rw [pieces,split,piecesBelow?_labels baseNames rest baseInner,Option.map_some,
      joinPieces_tidy rest restInner]

theorem below?_outside (outside : path.isUnder base = false) :
    path.normal.below? base.normal = none := by
  obtain ⟨names,shape,_,inner⟩ := normalComponents_names path rooted
  obtain ⟨baseNames,baseShape,_,baseInner⟩ := normalComponents_names base baseRooted
  rw [normal,normal,shape,baseShape,below?_rooted names baseNames baseInner,Option.map_eq_none_iff]
  cases found : piecesBelow? baseNames (Text.pieces '/' (joinLabels names)) with
  | none => rfl
  | some rest =>
    have starts : baseNames <+: _ := ⟨_,(piecesBelow?_components _ _ _ found).1.symm⟩
    have read : (Text.pieces '/' (joinLabels names)).filterMap pieceComponent? = names :=
      joined_components names inner
    have under : path.isUnder base = true := by
      rw [isUnder_iff,shape,baseShape,List.cons_prefix_cons]
      exact ⟨rfl,read ▸ starts⟩
    rw [under] at outside
    contradiction

/-- Taken from the base again, the part below it leads back. -/
theorem append_below (rest : List Component)
    (under : path.normalComponents = base.normalComponents ++ rest) :
    (base ++ render rest).normal = path.normal := by
  obtain ⟨names,shape,named,inner⟩ := normalComponents_names path rooted
  obtain ⟨baseNames,baseShape,_⟩ := normalComponents_names base baseRooted
  have split : names = baseNames ++ rest := by
    rw [shape,baseShape,List.cons_append] at under
    exact (List.cons.inj under).2
  have restNamed : Names rest := fun c member => named c (by simp [split,member])
  have restInner : ∀ c ∈ rest, c.Inner := fun c member => inner c (by simp [split,member])
  have read : (render rest).components = rest := components_render rest (.relative rest restInner)
  have relative : (render rest).isAbsolute = false := by
    rw [← Bool.not_eq_true,isAbsolute_iff,read]
    intro head
    exact restInner .root (List.mem_of_mem_head? head)
  rw [normal,normalComponents_append base _ relative,read,fold_names _ rest restNamed,
    List.reverse_reverse,← under,normal]

end Rooted

end LintTools.Path
