import LintTools.Path.Requirement
import LintTools.Proofs.Path.Remainder

/-! Segments of a path below a root. The names below a root depend on components alone. Where there
are none the segments are those of the text, and equal paths may have different texts. -/
namespace LintTools.Path

/-- A root or a dot at the start is no segment. -/
theorem componentsOf_segments (cs : List Char) : (componentsOf cs).filterMap Component.segment? =
    (innerComponents cs).filterMap Component.segment? := by
  by_cases rooted : cs.head? = some '/'
  · obtain ⟨rest,rfl⟩ := List.head?_eq_some_iff.mp rooted
    have inner : innerComponents ('/' :: rest) = innerComponents rest := by
      rw [innerComponents,Text.pieces_sep,List.filterMap_cons_none rfl,innerComponents]
    rw [componentsOf_rooted,inner,List.filterMap_cons_none rfl]
  · rw [componentsOf_relative cs rooted,List.filterMap_append]
    split <;> rfl

theorem joinPieces_segments (pieces : List (List Char)) (clear : ∀ piece ∈ pieces, '/' ∉ piece) :
    (joinPieces pieces).components.filterMap Component.segment? =
      (pieces.filterMap pieceComponent?).filterMap Component.segment? := by
  rw [joinPieces,components,String.toList_ofList,componentsOf_segments,
    innerComponents_join pieces clear]

theorem segment?_inner (c : Component) (inner : c.Inner) : ∃ text, c.segment? = some text := by
  cases c with
  | parent => exact ⟨_,rfl⟩
  | name text => exact ⟨text,rfl⟩
  | _ => exact False.elim inner

section Rooted
variable (path base : Path) (cs : List Char) (text : path.text.toList = '/' :: cs)
include text

theorem components_rooted : path.components = .root :: innerComponents cs := by
  rw [components,text,componentsOf_rooted]

theorem tidyEnd_components : (tidyEnd path).components = path.components := by
  have clear : ∀ piece ∈ dropIdleEnd (Text.pieces '/' cs), '/' ∉ piece := fun piece member =>
    Text.not_mem_of_mem_pieces '/' cs piece (dropIdleEnd_subset _ member)
  have same : (tidyEnd path).text.toList =
      '/' :: ['/'].intercalate (dropIdleEnd (Text.pieces '/' cs)) := by
    rw [tidyEnd]
    split
    · rename_i rest shape
      rw [text] at shape
      rw [String.toList_ofList,(List.cons.inj shape).2]
    · rename_i relative
      exact absurd text (relative cs)
  rw [components_rooted path cs text,components,same,componentsOf_rooted,innerComponents_join _ clear,
    dropIdleEnd_components]
  rfl

/-- The part below a base names what the components behind those of the base do. -/
theorem below?_some (part : Path) (found : path.below? base = some part) : ∃ behind,
    path.components = base.components ++ behind ∧
      part.components.filterMap Component.segment? = behind.filterMap Component.segment? := by
  by_cases based : base.components = []
  · rw [below?_unbased path base based] at found
    obtain rfl := Option.some.inj found
    exact ⟨path.components,by rw [based]; rfl,by rw [tidyEnd_components path cs text]⟩
  · obtain ⟨rest,clear,rfl,shape⟩ := below?_behind path base part based found
    refine ⟨rest.filterMap pieceComponent?,shape,?_⟩
    rw [joinPieces_segments,dropIdleEnd_components,dropIdle_components]
    exact fun piece member => clear piece ((dropIdle_suffix rest).subset (dropIdleEnd_subset _ member))

end Rooted

def namesBelow (candidate root : Path) : List String :=
  (if candidate.isAbsolute = true ∧ root.components <+: candidate.components then
    candidate.components.drop root.components.length
  else candidate.components).filterMap Component.segment?

theorem parts_eq (candidate root : Path) : parts candidate root =
    if namesBelow candidate root = [] then segments candidate.text.toList
    else namesBelow candidate root := by
  have names : namesBelow candidate root = (if candidate.isAbsolute then
      (candidate.below? root).getD candidate else candidate).components.filterMap
        Component.segment? := by
    rw [namesBelow]
    cases rooted : candidate.isAbsolute with
    | false => rfl
    | true =>
      obtain ⟨cs,text⟩ := List.head?_eq_some_iff.mp (beq_iff_eq.mp rooted)
      cases found : candidate.below? root with
      | none =>
        rw [if_neg fun under => below?_none candidate root found under.2]
        rfl
      | some part =>
        obtain ⟨behind,shape,same⟩ := below?_some candidate root cs text part found
        rw [if_pos ⟨rfl,behind,shape.symm⟩,shape,List.drop_left,← same]
        rfl
  rw [parts,names]
  simp only [List.isEmpty_iff]

/-- Equal paths have the same names below equal roots. -/
theorem namesBelow_congr (candidate other root base : Path)
    (same : candidate.components = other.components) (sameRoot : root.components = base.components) :
    namesBelow candidate root = namesBelow other base := by
  rw [namesBelow,namesBelow,same,sameRoot,isAbsolute_congr candidate other same]

def Nameless (candidate root : Path) : Prop :=
  candidate.components.filterMap Component.segment? = [] ∨
    candidate.isAbsolute = true ∧ candidate.components = root.components

theorem segments_filled (inner : List Component) (each : ∀ c ∈ inner, c.Inner)
    (nothing : inner.filterMap Component.segment? = []) : inner = [] := by
  cases inner with
  | nil => rfl
  | cons first others =>
    obtain ⟨text,found⟩ := segment?_inner first (each first List.mem_cons_self)
    rw [List.filterMap_cons_some found] at nothing
    contradiction

theorem namesBelow_eq_nil (candidate root : Path) :
    namesBelow candidate root = [] ↔ Nameless candidate root := by
  rw [namesBelow]
  split
  · rename_i under
    obtain ⟨rooted,behind,shape⟩ := under
    rw [← shape,List.drop_left]
    constructor
    · intro nothing
      cases base : root.components with
      | nil =>
        rw [base,List.nil_append] at shape
        exact .inl (shape ▸ nothing)
      | cons c names =>
        obtain ⟨inner,head⟩ := List.head?_eq_some_iff.mp ((isAbsolute_iff candidate).mp rooted)
        have each := proper_rooted inner (head ▸ components_proper candidate)
        rw [base,head,List.cons_append] at shape
        have split := (List.cons.inj shape).2
        have empty : behind = [] := segments_filled behind
          (fun d member => each d (split ▸ List.mem_append_right names member)) nothing
        right
        refine ⟨rooted,?_⟩
        rw [head,base,← shape,empty,List.append_nil]
    · intro nameless
      rcases nameless with nothing | whole
      · rw [← shape,List.filterMap_append,List.append_eq_nil_iff] at nothing
        exact nothing.2
      · have empty : behind = [] := by simpa using shape.trans whole.2
        rw [empty,List.filterMap_nil]
  · rename_i outside
    constructor
    · exact .inl
    · intro nameless
      rcases nameless with nothing | whole
      · exact nothing
      · exact absurd ⟨whole.1,whole.2 ▸ List.prefix_rfl⟩ outside

/-- Equal look-ups have the same answer if their texts do not come into it or agree on segments. -/
theorem parts_congr_iff (candidate other root base : Path)
    (same : candidate.components = other.components) (sameRoot : root.components = base.components) :
    parts candidate root = parts other base ↔ (Nameless candidate root →
      segments candidate.text.toList = segments other.text.toList) := by
  rw [parts_eq,parts_eq,namesBelow_congr candidate other root base same sameRoot,
    ← namesBelow_eq_nil,namesBelow_congr candidate other root base same sameRoot]
  split
  · rename_i nothing
    exact ⟨fun agree _ => agree,fun agree => agree nothing⟩
  · rename_i named
    exact ⟨fun _ nothing => absurd nothing named,fun _ => rfl⟩

end LintTools.Path
