import LintTools.Proofs.Path.Components
import LintTools.Proofs.Text.Sorted

/-! Ascending lists of paths. Putting a path into such a list leaves it ascending, adds nothing but
that path, and loses no path: of two equal ones one spelling stays. -/
namespace LintTools.Path
open Std

instance : TransOrd Component :=
  inferInstanceAs (TransCmp (compareLex (compareOn Component.rank) (compareOn Component.label)))

instance : LawfulEqOrd Component where
  compare_self := by
    intro a
    exact ReflCmp.compare_self
  eq_of_compare := by
    intro a b same
    change (compare a.rank b.rank).then (compare a.label b.label) = .eq at same
    rw [Ordering.then_eq_eq] at same
    have rank : a.rank = b.rank := LawfulEqCmp.eq_of_compare same.1
    have label : a.label = b.label := LawfulEqCmp.eq_of_compare same.2
    cases a <;> cases b <;> simp_all [Component.rank,Component.label]

instance : TransOrd Path := inferInstanceAs (TransCmp (compareOn components))

theorem compare_eq_iff (p q : Path) : compare p q = .eq ↔ p.components = q.components :=
  compare_eq_iff_eq (a := p.components) (b := q.components)

def Ascending (paths : List Path) : Prop := paths.Pairwise fun p q => compare p q = .lt

inductive Inserted (path : Path) : List Path → List Path → Prop
  | last : Inserted path [] [path]
  | before (other rest) (less : compare path other = .lt) :
      Inserted path (other :: rest) (path :: other :: rest)
  | equal (other rest kept) (same : compare path other = .eq) (one : kept = path ∨ kept = other) :
      Inserted path (other :: rest) (kept :: rest)
  | after (other rest result) (greater : compare path other = .gt)
      (behind : Inserted path rest result) : Inserted path (other :: rest) (other :: result)

theorem put_inserted (path : Path) (paths : List Path) : Inserted path paths (put path paths) := by
  induction paths with
  | nil => exact .last
  | cons other rest ih =>
    rw [put]
    cases order : compare path other with
    | lt => exact .before other rest order
    | eq => exact .equal other rest path order (.inl rfl)
    | gt => exact .after other rest _ order ih

theorem add_inserted (path : Path) (paths : List Path) : Inserted path paths (add path paths) := by
  induction paths with
  | nil => exact .last
  | cons other rest ih =>
    rw [add]
    cases order : compare path other with
    | lt => exact .before other rest order
    | eq => exact .equal other rest other order (.inr rfl)
    | gt => exact .after other rest _ order ih

namespace Inserted
variable {path : Path} {paths result : List Path}

theorem sound (inserted : Inserted path paths result) (other : Path) (member : other ∈ result) :
    other = path ∨ other ∈ paths := by
  induction inserted with
  | last => exact .inl (List.mem_singleton.mp member)
  | before next rest less => simpa using member
  | equal next rest kept same one =>
    rcases List.mem_cons.mp member with rfl | inside
    · rcases one with rfl | rfl
      · exact .inl rfl
      · exact .inr (by simp)
    · exact .inr (List.mem_cons_of_mem _ inside)
  | after next rest result greater behind ih =>
    rcases List.mem_cons.mp member with rfl | inside
    · exact .inr (by simp)
    · rcases ih inside with same | inside
      · exact .inl same
      · exact .inr (List.mem_cons_of_mem _ inside)

theorem complete (inserted : Inserted path paths result) (other : Path)
    (member : other = path ∨ other ∈ paths) : ∃ kept ∈ result, kept.components = other.components := by
  induction inserted with
  | last => exact ⟨path,by simp,by rcases member with rfl | inside <;> simp_all⟩
  | before next rest less => exact ⟨other,by simpa using member,rfl⟩
  | equal next rest kept same one =>
    have level := (compare_eq_iff path next).mp same
    have first : kept.components = path.components := by
      rcases one with rfl | rfl
      · rfl
      · exact level.symm
    rcases member with rfl | inside
    · exact ⟨kept,by simp,first⟩
    · rcases List.mem_cons.mp inside with rfl | inside
      · exact ⟨kept,by simp,first.trans level⟩
      · exact ⟨other,List.mem_cons_of_mem _ inside,rfl⟩
  | after next rest result greater behind ih =>
    rcases member with rfl | inside
    · obtain ⟨kept,found,same⟩ := ih (.inl rfl)
      exact ⟨kept,List.mem_cons_of_mem _ found,same⟩
    · rcases List.mem_cons.mp inside with rfl | inside
      · exact ⟨other,by simp,rfl⟩
      · obtain ⟨kept,found,same⟩ := ih (.inr inside)
        exact ⟨kept,List.mem_cons_of_mem _ found,same⟩

theorem ascending (inserted : Inserted path paths result) (sorted : Ascending paths) :
    Ascending result := by
  induction inserted with
  | last => exact List.pairwise_singleton _ _
  | before next rest less =>
    refine List.pairwise_cons.mpr ⟨?_,sorted⟩
    intro other member
    rcases List.mem_cons.mp member with rfl | inside
    · exact less
    · exact TransCmp.lt_trans less (List.rel_of_pairwise_cons sorted inside)
  | equal next rest kept same one =>
    refine List.pairwise_cons.mpr ⟨?_,(List.pairwise_cons.mp sorted).2⟩
    intro other inside
    have greater := List.rel_of_pairwise_cons sorted inside
    rcases one with rfl | rfl
    · rw [TransCmp.congr_left same]
      exact greater
    · exact greater
  | after next rest result greater behind ih =>
    refine List.pairwise_cons.mpr ⟨?_,ih (List.pairwise_cons.mp sorted).2⟩
    intro other member
    rcases behind.sound other member with rfl | inside
    · exact OrientedCmp.gt_iff_lt.mp greater
    · exact List.rel_of_pairwise_cons sorted inside

end Inserted

/-- An ascending list of the paths in `source`, as they are written there. Of equal ones some
spelling is listed. -/
structure Enumerates (listed : List Path) (source : Path → Prop) : Prop where
  ascending : Ascending listed
  sound : ∀ path ∈ listed, source path
  complete : ∀ path, source path → ∃ kept ∈ listed, kept.components = path.components

theorem enumerates_nil : Enumerates [] fun _ => False :=
  ⟨List.Pairwise.nil,by simp,fun _ absent => absent.elim⟩

namespace Enumerates
variable {listed : List Path} {source : Path → Prop}

theorem congr {other : Path → Prop} (enumerated : Enumerates listed source)
    (same : ∀ path, source path ↔ other path) : Enumerates listed other := by
  have equal : source = other := funext fun path => propext (same path)
  exact equal ▸ enumerated

theorem inserted {path : Path} {result : List Path} (enumerated : Enumerates listed source)
    (insertion : Inserted path listed result) :
    Enumerates result fun other => source other ∨ other = path := by
  refine ⟨insertion.ascending enumerated.ascending,?_,?_⟩
  · intro other member
    rcases insertion.sound other member with same | inside
    · exact .inr same
    · exact .inl (enumerated.sound other inside)
  · intro other present
    rcases present with given | rfl
    · obtain ⟨kept,inside,same⟩ := enumerated.complete other given
      obtain ⟨last,found,equal⟩ := insertion.complete kept (.inr inside)
      exact ⟨last,found,equal.trans same⟩
    · exact insertion.complete other (.inl rfl)

theorem folded {step : List Path → Path → List Path}
    (inserts : ∀ paths path, Inserted path paths (step paths path))
    (enumerated : Enumerates listed source) (paths : List Path) :
    Enumerates (paths.foldl step listed) fun other => source other ∨ other ∈ paths := by
  induction paths generalizing listed source with
  | nil => exact enumerated.congr (by simp)
  | cons path paths ih =>
    refine (ih (enumerated.inserted (inserts listed path))).congr ?_
    intro other
    simp only [List.mem_cons,or_assoc]

theorem addAll (enumerated : Enumerates listed source) (paths : List Path) :
    Enumerates (addAll listed paths) fun other => source other ∨ other ∈ paths :=
  enumerated.folded (fun paths path => add_inserted path paths) paths

theorem eq_nil_iff (enumerated : Enumerates listed source) :
    listed = [] ↔ ∀ path, ¬source path := by
  constructor
  · rintro rfl path present
    obtain ⟨_,inside,_⟩ := enumerated.complete path present
    simp at inside
  · intro absent
    exact List.eq_nil_iff_forall_not_mem.mpr fun path inside =>
      absent path (enumerated.sound path inside)

/-- Paths written in their shortest form are listed exactly. -/
theorem mem_iff (enumerated : Enumerates listed source) (tidy : ∀ path, source path → path.Tidy)
    (path : Path) : path ∈ listed ↔ source path := by
  constructor
  · exact enumerated.sound path
  · intro present
    obtain ⟨kept,inside,same⟩ := enumerated.complete path present
    have equal := (tidy kept (enumerated.sound kept inside)).eq (tidy path present) same
    exact equal ▸ inside

/-- A source that spells equal paths alike has one enumeration. -/
theorem unique {other : List Path} (enumerated : Enumerates listed source)
    (again : Enumerates other source)
    (alike : ∀ p q, source p → source q → p.components = q.components → p = q) :
    listed = other := by
  have inside (first second : List Path) (left : Enumerates first source)
      (right : Enumerates second source) (path : Path) (member : path ∈ first) : path ∈ second := by
    have given := left.sound path member
    obtain ⟨kept,found,same⟩ := right.complete path given
    have equal := alike kept path (right.sound kept found) given same
    exact equal ▸ found
  apply eq_of_ascending _ _ enumerated.ascending again.ascending
  intro path
  exact ⟨inside listed other enumerated again path,inside other listed again enumerated path⟩

/-- An enumeration lists the components of its source, under some spelling. -/
theorem mem_components (enumerated : Enumerates listed source) (components : List Component) :
    components ∈ listed.map Path.components ↔
      ∃ path, source path ∧ path.components = components := by
  rw [List.mem_map]
  constructor
  · rintro ⟨path,member,same⟩
    exact ⟨path,enumerated.sound path member,same⟩
  · rintro ⟨path,given,same⟩
    obtain ⟨kept,member,equal⟩ := enumerated.complete path given
    exact ⟨kept,member,equal.trans same⟩

end Enumerates

/-- Lists of paths with the same components have paths with the same properties, as far as these
do not depend on the spelling. -/
theorem exists_iff_of_components {paths others : List Path}
    (alike : SameElements (paths.map components) (others.map components)) (holds : Path → Prop)
    (level : ∀ p q : Path, p.components = q.components → (holds p ↔ holds q)) :
    (∃ path ∈ paths, holds path) ↔ ∃ path ∈ others, holds path := by
  have onComponents (listed : List Path) : (∃ path ∈ listed, holds path) ↔
      ∃ written ∈ listed.map components, ∃ path : Path, path.components = written ∧ holds path := by
    constructor
    · rintro ⟨path,member,given⟩
      exact ⟨path.components,List.mem_map_of_mem member,path,rfl,given⟩
    · rintro ⟨written,member,path,same,given⟩
      obtain ⟨kept,found,equal⟩ := List.mem_map.mp member
      exact ⟨kept,found,(level kept path (equal.trans same.symm)).mpr given⟩
  rw [onComponents,onComponents]
  exact alike.exists_iff _

theorem distinct_enumerates (paths : List Path) : Enumerates (distinct paths) (· ∈ paths) := by
  refine (enumerates_nil.folded (fun paths path => put_inserted path paths) paths).congr ?_
  intro path
  simp

end LintTools.Path
