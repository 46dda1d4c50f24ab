import LintTools.Proofs.Path.Below
import Mathlib.Data.List.TakeWhile

/-! What is left of a path below a base, however the two are spelled. It holds the components behind
those of the base, so its text is empty exactly for a path that is the base itself. -/
namespace LintTools.Path

theorem dropIdle_components (pieces : List (List Char)) :
    (dropIdle pieces).filterMap pieceComponent? = pieces.filterMap pieceComponent? := by
  induction pieces with
  | nil => rfl
  | cons piece pieces ih =>
    cases idle : isIdle piece with
    | true =>
      have nothing : pieceComponent? piece = none := Option.isNone_iff_eq_none.mp idle
      rw [dropIdle,List.dropWhile_cons_of_pos idle,List.filterMap_cons_none nothing]
      exact ih
    | false => rw [dropIdle,List.dropWhile_cons_of_neg (by simp [idle])]

theorem dropIdleEnd_components (pieces : List (List Char)) :
    (dropIdleEnd pieces).filterMap pieceComponent? = pieces.filterMap pieceComponent? := by
  rw [dropIdleEnd,List.filterMap_reverse,dropIdle_components,List.filterMap_reverse,
    List.reverse_reverse]

theorem dropIdle_suffix (pieces : List (List Char)) : dropIdle pieces <:+ pieces :=
  List.dropWhile_suffix isIdle

theorem dropIdleEnd_subset (pieces : List (List Char)) : dropIdleEnd pieces ⊆ pieces := by
  intro piece member
  have inside := (dropIdle_suffix pieces.reverse).subset (List.mem_reverse.mp member)
  exact List.mem_reverse.mp inside

theorem innerComponents_join (pieces : List (List Char)) (clear : ∀ piece ∈ pieces, '/' ∉ piece) :
    innerComponents (['/'].intercalate pieces) = pieces.filterMap pieceComponent? := by
  cases pieces with
  | nil => rfl
  | cons first others => rw [innerComponents,Text.pieces_intercalate '/' _ (by simp) clear]

theorem piecesBelow?_none (base : List Component) (pieces : List (List Char))
    (missing : piecesBelow? base pieces = none) : ¬base <+: pieces.filterMap pieceComponent? := by
  fun_induction piecesBelow? base pieces with
  | case1 => contradiction
  | case2 c base => simp
  | case3 c base piece pieces nothing ih =>
    rw [List.filterMap_cons_none nothing]
    exact ih missing
  | case4 base piece pieces d stands ih =>
    rw [List.filterMap_cons_some stands,List.cons_prefix_cons]
    exact fun starts => ih missing starts.2
  | case5 c base piece pieces d stands other =>
    rw [List.filterMap_cons_some stands,List.cons_prefix_cons]
    exact fun starts => other starts.1

inductive Led : List Char → List Component → List (List Char) → Prop
  | rooted (rest : List Char) : Led ('/' :: rest) [.root] (Text.pieces '/' rest)
  | dotted (cs : List Char) (others : List (List Char)) (relative : cs.head? ≠ some '/')
      (dot : Text.pieces '/' cs = ['.'] :: others) : Led cs [.current] others
  | plain (cs : List Char) (relative : cs.head? ≠ some '/')
      (undotted : ∀ others, Text.pieces '/' cs ≠ ['.'] :: others) : Led cs [] (Text.pieces '/' cs)

namespace Led

theorem exists_led (cs : List Char) : ∃ lead pieces, Led cs lead pieces := by
  by_cases rooted : cs.head? = some '/'
  · obtain ⟨rest,rfl⟩ := List.head?_eq_some_iff.mp rooted
    exact ⟨_,_,.rooted rest⟩
  · by_cases dotted : ∃ others, Text.pieces '/' cs = ['.'] :: others
    · obtain ⟨others,dot⟩ := dotted
      exact ⟨_,_,.dotted cs others rooted dot⟩
    · exact ⟨_,_,.plain cs rooted (not_exists.mp dotted)⟩

variable {cs : List Char} {lead : List Component} {pieces : List (List Char)}

theorem components (led : Led cs lead pieces) :
    componentsOf cs = lead ++ pieces.filterMap pieceComponent? := by
  cases led with
  | rooted rest => rfl
  | dotted _ _ relative dot =>
    rw [componentsOf_relative cs relative,innerComponents,dot,List.filterMap_cons_none rfl]
    rfl
  | plain _ relative undotted =>
    have other : ¬(Text.pieces '/' cs).head? = some ['.'] := by
      intro dotted
      obtain ⟨others,dot⟩ := List.head?_eq_some_iff.mp dotted
      exact undotted others dot
    rw [componentsOf_relative cs relative,if_neg other,innerComponents]

theorem clear (led : Led cs lead pieces) : ∀ piece ∈ pieces, '/' ∉ piece := by
  intro piece member
  cases led with
  | rooted rest => exact Text.not_mem_of_mem_pieces '/' rest piece member
  | dotted _ _ _ dot =>
    exact Text.not_mem_of_mem_pieces '/' cs piece (dot ▸ List.mem_cons_of_mem _ member)
  | plain => exact Text.not_mem_of_mem_pieces '/' cs piece member

/-- Where a base starts a path, it has the lead of the path. -/
theorem of_prefix (led : Led cs lead pieces) (base behind : List Component) (filled : base ≠ [])
    (starts : base <+: lead ++ behind) : lead <+: base := by
  obtain ⟨c,names,rfl⟩ := List.exists_cons_of_ne_nil filled
  cases led with
  | plain => exact List.nil_prefix
  | rooted | dotted =>
    obtain ⟨rfl,-⟩ := List.cons_prefix_cons.mp starts
    exact List.prefix_append [_] names

end Led

section Led
variable (path base : Path) (lead : List Component) (pieces : List (List Char))
  (led : Led path.text.toList lead pieces) (filled : base.components ≠ [])
include led filled

/-- Behind a lead that the base has too, the pieces decide. -/
theorem below?_lead (names : List Component) (shape : base.components = lead ++ names) :
    path.below? base = (piecesBelow? names pieces).map fun rest =>
      joinPieces (dropIdleEnd (dropIdle rest)) := by
  unfold below?
  rw [if_neg (by simpa using filled),shape]
  generalize path.text.toList = cs at led
  cases led with
  | rooted rest => rfl
  | dotted _ _ relative dot =>
    split
    · simp at relative
    · simp at relative
    · rw [dot]
      rfl
  | plain _ relative undotted =>
    split
    · simp at relative
    · simp at relative
    · split
      · exact absurd ‹_› (undotted _)
      · exact absurd ‹_› (undotted _)
      · rfl

theorem below?_astray (astray : ¬lead <+: base.components) : path.below? base = none := by
  unfold below?
  rw [if_neg (by simpa using filled)]
  generalize path.text.toList = cs at led
  generalize base.components = components at filled astray
  cases led with
  | rooted rest =>
    split
    · exact absurd (List.prefix_append [_] _) astray
    · rfl
    · rename_i other _
      exact absurd rfl (other _)
  | dotted _ _ relative dot =>
    split
    · simp at relative
    · simp at relative
    · rw [dot]
      split
      · exact absurd (List.prefix_append [_] _) astray
      · rfl
      · exact absurd rfl (‹∀ others, ['.'] :: pieces ≠ ['.'] :: others› pieces)
  | plain _ relative undotted => exact absurd List.nil_prefix astray

end Led

/-- The part below a base that has components stands for those behind the base. -/
theorem below?_behind (path base part : Path) (filled : base.components ≠ [])
    (found : path.below? base = some part) : ∃ rest : List (List Char),
      (∀ piece ∈ rest, '/' ∉ piece) ∧ part = joinPieces (dropIdleEnd (dropIdle rest)) ∧
        path.components = base.components ++ rest.filterMap pieceComponent? := by
  obtain ⟨lead,pieces,led⟩ := Led.exists_led path.text.toList
  have whole : path.components = lead ++ pieces.filterMap pieceComponent? := led.components
  by_cases leads : lead <+: base.components
  · obtain ⟨names,shape⟩ := leads
    rw [below?_lead path base lead pieces led filled names shape.symm] at found
    obtain ⟨rest,inside,rfl⟩ := Option.map_eq_some_iff.mp found
    obtain ⟨same,suffix⟩ := piecesBelow?_components names pieces rest inside
    refine ⟨rest,fun piece member => led.clear piece (suffix.subset member),rfl,?_⟩
    rw [whole,same,← shape,List.append_assoc]
  · rw [below?_astray path base lead pieces led filled leads] at found
    contradiction

theorem below?_unbased (path base : Path) (based : base.components = []) :
    path.below? base = some (tidyEnd path) := by
  unfold below?
  rw [based]
  rfl

theorem below?_none (path base : Path) (missing : path.below? base = none) :
    ¬base.components <+: path.components := by
  have filled : base.components ≠ [] := by
    intro based
    rw [below?_unbased path base based] at missing
    contradiction
  obtain ⟨lead,pieces,led⟩ := Led.exists_led path.text.toList
  have whole : path.components = lead ++ pieces.filterMap pieceComponent? := led.components
  rw [whole]
  intro starts
  obtain ⟨names,shape⟩ := led.of_prefix _ _ filled starts
  rw [below?_lead path base lead pieces led filled names shape.symm,Option.map_eq_none_iff] at missing
  rw [← shape,List.prefix_append_right_inj] at starts
  exact piecesBelow?_none names pieces missing starts

theorem joinPieces_empty (rest : List (List Char)) (clear : ∀ piece ∈ rest, '/' ∉ piece) :
    (joinPieces (dropIdleEnd (dropIdle rest))).text = "" ↔ rest.filterMap pieceComponent? = [] := by
  have kept : ∀ piece ∈ dropIdleEnd (dropIdle rest), '/' ∉ piece := fun piece member =>
    clear piece ((dropIdle_suffix rest).subset (dropIdleEnd_subset _ member))
  constructor
  · intro empty
    have nothing : ['/'].intercalate (dropIdleEnd (dropIdle rest)) = [] := by
      simpa [joinPieces] using empty
    have inner := innerComponents_join _ kept
    rw [nothing,dropIdleEnd_components,dropIdle_components] at inner
    exact inner.symm
  · intro nothing
    have idle : dropIdle rest = [] := List.dropWhile_eq_nil_iff.mpr fun piece member =>
      Option.isNone_iff_eq_none.mpr (List.filterMap_eq_nil_iff.mp nothing piece member)
    rw [idle]
    rfl

theorem joinPieces_filled (first : List Char) (others : List (List Char)) (filled : first ≠ []) :
    (joinPieces (first :: others)).text ≠ "" := by
  cases others <;> simp [joinPieces,filled]

/-- No path is left empty by taking off its end. -/
theorem tidyEnd_filled (path : Path) (filled : path.text ≠ "") : (tidyEnd path).text ≠ "" := by
  unfold tidyEnd
  split
  · simp
  · rename_i relative
    cases text : path.text.toList with
    | nil => exact absurd (String.toList_eq_nil_iff.mp text) filled
    | cons c cs =>
      have other : c ≠ '/' := by
        rintro rfl
        exact relative cs text
      rw [Text.pieces_cons '/' c cs other]
      cases found : Text.pieces '/' cs with
      | nil => exact absurd found (Text.pieces_ne_nil '/' cs)
      | cons first others => exact joinPieces_filled (c :: first) _ (by simp)

/-- What is left of a path below a base is empty just for the base itself. -/
theorem below?_empty (path base : Path) (filled : path.text ≠ "") :
    (∃ part, path.below? base = some part ∧ part.text = "") ↔
      path.components = base.components := by
  by_cases based : base.components = []
  · have differ : path.components ≠ [] := fun none => filled ((components_eq_nil path).mp none)
    simp [below?_unbased path base based,based,differ,tidyEnd_filled path filled]
  · cases found : path.below? base with
    | none =>
      have outside := below?_none path base found
      simp only [reduceCtorEq,false_and,exists_false,false_iff]
      exact fun same => outside (same ▸ List.prefix_rfl)
    | some part =>
      obtain ⟨rest,clear,rfl,shape⟩ := below?_behind path base part based found
      simp [shape,joinPieces_empty rest clear]

theorem dropIdleEnd_prefix (pieces : List (List Char)) : dropIdleEnd pieces <+: pieces := by
  have back := List.reverse_prefix.mpr (dropIdle_suffix pieces.reverse)
  rwa [List.reverse_reverse] at back

theorem dropIdle_head (pieces : List (List Char)) :
    ∀ piece ∈ (dropIdle pieces).head?, isIdle piece = false := by
  intro piece member
  have stopped := List.head?_dropWhile_not isIdle pieces
  rw [← dropIdle,member] at stopped
  simpa using stopped

/-- Between idle pieces, a list of pieces is written as a text without a root or a dot at its start. -/
theorem joinPieces_components (rest : List (List Char)) (clear : ∀ piece ∈ rest, '/' ∉ piece) :
    (joinPieces (dropIdleEnd (dropIdle rest))).components = rest.filterMap pieceComponent? := by
  have kept : ∀ piece ∈ dropIdleEnd (dropIdle rest), '/' ∉ piece := fun piece member =>
    clear piece ((dropIdle_suffix rest).subset (dropIdleEnd_subset _ member))
  have inner := innerComponents_join _ kept
  rw [dropIdleEnd_components,dropIdle_components] at inner
  rw [components,joinPieces,String.toList_ofList,← inner]
  obtain ⟨behind,starts⟩ := dropIdleEnd_prefix (dropIdle rest)
  cases shape : dropIdleEnd (dropIdle rest) with
  | nil => rfl
  | cons first others =>
    rw [shape] at starts kept
    have busy : isIdle first = false := dropIdle_head rest first (by rw [← starts]; rfl)
    have filled : first ≠ [] := by
      rintro rfl
      contradiction
    have undotted : first ≠ ['.'] := by
      rintro rfl
      contradiction
    have relative := intercalate_relative first others filled (kept first List.mem_cons_self)
    rw [componentsOf_relative _ relative,Text.pieces_intercalate '/' _ (by simp) kept,List.head?_cons,
      if_neg (by simpa using undotted),List.nil_append]

/-- Taken from the base again, the part of a path below it leads to the path. -/
theorem components_append_below (path base part : Path) (filled : base.components ≠ [])
    (found : path.below? base = some part) : (base ++ part).components = path.components := by
  obtain ⟨rest,clear,rfl,shape⟩ := below?_behind path base part filled found
  have read := joinPieces_components rest clear
  have inner : ∀ c ∈ rest.filterMap pieceComponent?, c.Inner := by
    intro c member
    obtain ⟨piece,inside,stands⟩ := List.mem_filterMap.mp member
    exact pieceComponent?_inner piece c (clear piece inside) stands
  have relative : (joinPieces (dropIdleEnd (dropIdle rest))).isAbsolute = false := by
    rw [← Bool.not_eq_true,isAbsolute_iff,read]
    exact fun head => inner .root (List.mem_of_head? head)
  have dotless : (rest.filterMap pieceComponent?).filter (· ≠ .current) =
      rest.filterMap pieceComponent? := by
    rw [List.filter_eq_self]
    intro c member
    have proper := inner c member
    cases c <;> simp_all [Component.Inner]
  rw [components_append base _ relative,if_neg filled,read,dotless,shape]

end LintTools.Path
